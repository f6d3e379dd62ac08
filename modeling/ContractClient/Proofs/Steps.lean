/-
This file says how steps behave that read and change a state and that may fail. A sequence of two
steps ends where the first one fails, or runs the second one from where the first one ended
(`bind_run`).

A step may not tell two related states apart: it gives the same from either of them, and leaves
related states (`Agrees`). Steps put together from such steps are such steps, as long as nothing
that is read from the state shows the difference. And a step may keep a property of its state,
whether it ends well or fails on the way (`Maintains`).
-/

import ContractClient.Fault

namespace ContractClient

/-! ### Ways to fail -/

/-- The result, if it is a fault, is a defect. -/
def FailsByDefect {α : Type} (result : Except Fault α) : Prop :=
  ∀ fault, result = .error fault → ∃ cause, fault = .defect cause

section

variable {α β : Type}

theorem FailsByDefect.ok (value : α) : FailsByDefect (.ok value) :=
  nofun

theorem FailsByDefect.defect (cause : Defect) :
    FailsByDefect (.error (.defect cause) : Except Fault α) :=
  fun _ same => ⟨cause, (Except.error.inj same).symm⟩

theorem FailsByDefect.ite {condition : Prop} [Decidable condition] {first second : Except Fault α}
    (isFirst : FailsByDefect first) (isSecond : FailsByDefect second) :
    FailsByDefect (if condition then first else second) := by
  split
  · exact isFirst
  · exact isSecond

theorem FailsByDefect.bind {result : Except Fault α} {next : α → Except Fault β}
    (first : FailsByDefect result) (second : ∀ value, FailsByDefect (next value)) :
    FailsByDefect (result >>= next) := by
  cases result with
  | error fault =>
    rintro _ ⟨⟩
    exact first fault rfl
  | ok value => exact second value

end

section

variable {State α β : Type}

/-! ### Runs -/

/-- Both of two steps one after the other succeed if their sequence does. -/
theorem exists_of_bind_eq_ok {ε : Type} {first : Except ε α} {next : α → Except ε β} {result : β}
    (ends : first >>= next = .ok result) :
    ∃ value, first = .ok value ∧ next value = .ok result := by
  cases first with
  | error fault => cases ends
  | ok value => exact ⟨value, rfl, ends⟩

theorem exists_of_map_eq_ok {ε : Type} {change : α → β} {first : Except ε α} {result : β}
    (ends : first.map change = .ok result) :
    ∃ value, first = .ok value ∧ change value = result := by
  cases first with
  | error fault => cases ends
  | ok value => exact ⟨value, rfl, Except.ok.inj ends⟩

theorem map_eq_error_iff {ε : Type} {change : α → β} {first : Except ε α} {fault : ε} :
    first.map change = .error fault ↔ first = .error fault := by
  cases first <;> simp [Except.map]

/-- A sequence fails in a way in which the second step never does if the first step does. -/
theorem bind_eq_error_iff_of_ne {ε : Type} {first : Except ε α} {next : α → Except ε β} {fault : ε}
    (never : ∀ value, next value ≠ .error fault) :
    first >>= next = .error fault ↔ first = .error fault := by
  cases first with
  | error other =>
    show (Except.error other : Except ε β) = .error fault ↔ _
    simp
  | ok value => exact iff_of_false (never value) nofun

/-- A sequence of two steps ends where the first one fails, or runs the second one from there. -/
theorem bind_run (step : ExceptT Fault (StateM State) α)
    (next : α → ExceptT Fault (StateM State) β) (start : State) :
    (step >>= next) start =
      match step start with
      | (.ok value, middle) => next value middle
      | (.error fault, middle) => (.error fault, middle) := by
  show (ExceptT.bind step next) start = _
  simp only [ExceptT.bind, ExceptT.mk, Bind.bind, StateT.bind]
  cases step start with
  | mk ended middle => cases ended <;> rfl

/-- Both of two steps one after the other end well if their sequence does. -/
theorem exists_of_bind_run {step : ExceptT Fault (StateM State) α}
    {next : α → ExceptT Fault (StateM State) β} {result : β} {start after : State}
    (ends : (step >>= next) start = (.ok result, after)) :
    ∃ value middle, step start = (.ok value, middle) ∧
      next value middle = (.ok result, after) := by
  rw [bind_run] at ends
  cases run : step start with
  | mk ended middle =>
    rw [run] at ends
    cases ended with
    | error fault => cases congrArg Prod.fst ends
    | ok value => exact ⟨value, middle, rfl, ends⟩

/-! ### Items in turn -/

/-- If every item can be had or fails by the same fault, so do all of them in turn. -/
theorem mapM_outcome {items : List α} {read : α → Except Fault β} {readable : α → Prop}
    {fault : Fault}
    (each : ∀ item ∈ items, (readable item ∧ ∃ value, read item = .ok value) ∨
      ¬readable item ∧ read item = .error fault) :
    ((∀ item ∈ items, readable item) ∧ ∃ values, items.mapM read = .ok values) ∨
      (¬∀ item ∈ items, readable item) ∧ items.mapM read = .error fault := by
  induction items with
  | nil => exact .inl ⟨nofun, [], rfl⟩
  | cons item rest inductionHypothesis =>
    obtain ⟨first, others⟩ := List.forall_mem_cons.mp each
    rw [List.mapM_cons, List.forall_mem_cons]
    rcases first with ⟨isFirst, value, reads⟩ | ⟨isNot, fails⟩
    · rw [reads]
      rcases inductionHypothesis others with ⟨areOthers, values, readsRest⟩ | ⟨notOthers, fails⟩
      · rw [readsRest]
        exact .inl ⟨⟨isFirst, areOthers⟩, value :: values, rfl⟩
      · rw [fails]
        exact .inr ⟨fun all => notOthers all.2, rfl⟩
    · rw [fails]
      exact .inr ⟨fun all => isNot all.1, rfl⟩

/-- What each item passes on is passed on by all of them in turn. -/
theorem map_of_mapM_eq_ok {ε γ : Type} {items : List α} {read : α → Except ε β} {values : List β}
    {given : α → γ} {kept : β → γ} (reads : items.mapM read = .ok values)
    (each : ∀ item value, read item = .ok value → kept value = given item) :
    values.map kept = items.map given := by
  induction items generalizing values with
  | nil =>
    cases reads
    rfl
  | cons item rest inductionHypothesis =>
    rw [List.mapM_cons] at reads
    obtain ⟨value, first, reads⟩ := exists_of_bind_eq_ok reads
    obtain ⟨found, others, reads⟩ := exists_of_bind_eq_ok reads
    cases reads
    rw [List.map_cons, List.map_cons, each item value first, inductionHypothesis others]

/-- What is read from items in turn is read from one of them each. -/
theorem exists_of_mem_mapM {ε : Type} {items : List α} {read : α → Except ε β} {values : List β}
    (reads : items.mapM read = .ok values) :
    ∀ value ∈ values, ∃ item ∈ items, read item = .ok value := by
  induction items generalizing values with
  | nil =>
    cases reads
    exact fun _ none => (List.not_mem_nil none).elim
  | cons item rest inductionHypothesis =>
    rw [List.mapM_cons] at reads
    obtain ⟨value, first, reads⟩ := exists_of_bind_eq_ok reads
    obtain ⟨found, others, reads⟩ := exists_of_bind_eq_ok reads
    cases reads
    refine List.forall_mem_cons.mpr ⟨⟨item, List.mem_cons_self, first⟩, fun other isOther => ?_⟩
    obtain ⟨origin, isItem, reads⟩ := inductionHypothesis others other isOther
    exact ⟨origin, List.mem_cons_of_mem _ isItem, reads⟩

/-! ### Runs that end well -/

/-- The run ends well, and what it gives and leaves behind passes the test. -/
def endsWell (test : α → State → Bool) : Except Fault α × State → Bool
  | (.ok value, after) => test value after
  | (.error _, _) => false

theorem exists_of_endsWell {test : α → State → Bool} {run : Except Fault α × State}
    (ends : endsWell test run) :
    ∃ value after, run = (.ok value, after) ∧ test value after := by
  obtain ⟨ended, after⟩ := run
  cases ended with
  | error fault => cases ends
  | ok value => exact ⟨value, after, rfl, ends⟩

theorem of_endsWell {test : α → State → Bool} {run : Except Fault α × State} {value : α}
    {after : State} (ends : endsWell test run) (runs : run = (.ok value, after)) :
    test value after := by
  rw [runs] at ends
  exact ends

/-! ### Steps that do not tell states apart -/

/-- From two related states the step gives the same, and leaves related states. -/
def Agrees (related : State → State → Prop) (step : ExceptT Fault (StateM State) α) : Prop :=
  ∀ start other, related start other →
    (step start).1 = (step other).1 ∧ related (step start).2 (step other).2

variable {related : State → State → Prop}

theorem Agrees.pure (value : α) :
    Agrees related (Pure.pure value : ExceptT Fault (StateM State) α) :=
  fun _ _ isRelated => ⟨rfl, isRelated⟩

theorem Agrees.throw (fault : Fault) :
    Agrees related (MonadExcept.throw fault : ExceptT Fault (StateM State) α) :=
  fun _ _ isRelated => ⟨rfl, isRelated⟩

/-- A check does not look at the state at all. -/
theorem Agrees.lift (result : Except Fault α) :
    Agrees related (liftM result : ExceptT Fault (StateM State) α) := by
  cases result with
  | error fault => exact .throw fault
  | ok value => exact .pure value

theorem Agrees.modify {update : State → State}
    (keeps : ∀ start other, related start other → related (update start) (update other)) :
    Agrees related (modify update : ExceptT Fault (StateM State) Unit) :=
  fun start other isRelated => ⟨rfl, keeps start other isRelated⟩

/-- Two steps one after the other, neither of which tells the states apart. -/
theorem Agrees.bind {step : ExceptT Fault (StateM State) α}
    {next : α → ExceptT Fault (StateM State) β} (first : Agrees related step)
    (second : ∀ value, Agrees related (next value)) : Agrees related (step >>= next) := by
  intro start other isRelated
  obtain ⟨same, between⟩ := first start other isRelated
  rw [bind_run, bind_run]
  cases run : step start with
  | mk ended middle =>
    cases otherRun : step other with
    | mk otherEnded otherMiddle =>
      rw [run, otherRun] at same between
      obtain rfl : ended = otherEnded := same
      cases ended with
      | error fault => exact ⟨rfl, between⟩
      | ok value => exact second value middle otherMiddle between

/-- A look at the state, where what follows does not depend on what differs. -/
theorem Agrees.look {next : State → ExceptT Fault (StateM State) α}
    (same : ∀ start other, related start other → next start = next other)
    (rest : ∀ state, Agrees related (next state)) : Agrees related (get >>= next) := by
  intro start other isRelated
  show (next start start).1 = (next other other).1 ∧ related (next start start).2
    (next other other).2
  rw [← same start other isRelated]
  exact rest start start other isRelated

/-- A check in front of a step. -/
theorem Agrees.unless {condition : Prop} [Decidable condition] {fault : Fault}
    {next : Unit → ExceptT Fault (StateM State) α} (rest : Agrees related (next ())) :
    Agrees related
      (if condition then (MonadExcept.throw fault >>= next) else next ()) := by
  split
  · exact fun _ _ isRelated => ⟨rfl, isRelated⟩
  · exact rest

/-- One step for each item of a list. -/
theorem Agrees.mapM {step : α → ExceptT Fault (StateM State) β}
    (each : ∀ item, Agrees related (step item)) (items : List α) :
    Agrees related (items.mapM step) := by
  induction items with
  | nil => exact .pure []
  | cons item rest inductionHypothesis =>
    rw [List.mapM_cons]
    exact (each item).bind fun _ => inductionHypothesis.bind fun _ => .pure _

/-! ### Steps that keep a property -/

/-- What holds of the state in front of the step holds behind it, however the step ends. -/
def Maintains (holds : State → Prop) (step : ExceptT Fault (StateM State) α) : Prop :=
  ∀ start, holds start → holds (step start).2

variable {holds : State → Prop}

theorem Maintains.pure (value : α) :
    Maintains holds (Pure.pure value : ExceptT Fault (StateM State) α) :=
  fun _ isHeld => isHeld

theorem Maintains.throw (fault : Fault) :
    Maintains holds (MonadExcept.throw fault : ExceptT Fault (StateM State) α) :=
  fun _ isHeld => isHeld

theorem Maintains.lift (result : Except Fault α) :
    Maintains holds (liftM result : ExceptT Fault (StateM State) α) := by
  cases result with
  | error fault => exact .throw fault
  | ok value => exact .pure value

theorem Maintains.modify {update : State → State}
    (keeps : ∀ state, holds state → holds (update state)) :
    Maintains holds (modify update : ExceptT Fault (StateM State) Unit) :=
  keeps

theorem Maintains.bind {step : ExceptT Fault (StateM State) α}
    {next : α → ExceptT Fault (StateM State) β} (first : Maintains holds step)
    (second : ∀ value, Maintains holds (next value)) : Maintains holds (step >>= next) := by
  intro start isHeld
  have between := first start isHeld
  rw [bind_run]
  cases run : step start with
  | mk ended middle =>
    rw [run] at between
    cases ended with
    | error fault => exact between
    | ok value => exact second value middle between

/-- What the step gives is not used. -/
theorem Maintains.dropping {step : ExceptT Fault (StateM State) α}
    (maintains : Maintains holds step) :
    Maintains holds (step >>= fun _ => Pure.pure ()) :=
  maintains.bind fun _ => .pure ()

theorem Maintains.look {next : State → ExceptT Fault (StateM State) α}
    (rest : ∀ state, Maintains holds (next state)) : Maintains holds (get >>= next) :=
  fun start isHeld => rest start start isHeld

theorem Maintains.unless {condition : Prop} [Decidable condition] {fault : Fault}
    {next : Unit → ExceptT Fault (StateM State) α} (rest : Maintains holds (next ())) :
    Maintains holds (if condition then (MonadExcept.throw fault >>= next) else next ()) := by
  split
  · exact fun _ isHeld => isHeld
  · exact rest

theorem Maintains.mapM {step : α → ExceptT Fault (StateM State) β}
    (each : ∀ item, Maintains holds (step item)) (items : List α) :
    Maintains holds (items.mapM step) := by
  induction items with
  | nil => exact .pure []
  | cons item rest inductionHypothesis =>
    rw [List.mapM_cons]
    exact (each item).bind fun _ => inductionHypothesis.bind fun _ => .pure _

end

end ContractClient
