/-
This file says how the steps of a generation end. A step ends as a check does that knows the
registry in front of it but none of the text that is put together; and if it ends well, the pass
behind it is known as well (`Builds`). Steps one after the other end as their checks do.

Where the settings are the standard ones, what a pass does besides mapping never fails: its lines
can be indented, its modules can be named, and every function that was planned has a method name.
-/

import ContractClient.Client.ClientModule
import ContractClient.Options
import ContractClient.Proofs.Client.Plan
import ContractClient.Proofs.Registry.Outcomes

namespace ContractClient

/-! ### Steps that end as a check does -/

/-- The step ends as the check does, and what it gives and the pass that it leaves are right. -/
structure Builds {α : Type} (start : Pass) (step : Building α) (check : Except Fault Unit)
    (right : α → Pass → Prop) : Prop where
  ends : outcome (step start).1 = check
  right : ∀ value, (step start).1 = .ok value → right value (step start).2

section

variable {α β : Type} {start : Pass}

theorem Builds.of_run {step : Building α} {result : Except Fault α} {after : Pass}
    {right : α → Pass → Prop} (run : step start = (result, after))
    (holds : ∀ value, result = .ok value → right value after) :
    Builds start step (outcome result) right :=
  ⟨by rw [run], by rw [run]; exact holds⟩

theorem Builds.pure {value : α} {right : α → Pass → Prop} (holds : right value start) :
    Builds start (Pure.pure value) (.ok ()) right :=
  .of_run rfl fun _ same => Except.ok.inj same ▸ holds

theorem Builds.throw (fault : Fault) {right : α → Pass → Prop} :
    Builds start (MonadExcept.throw fault) (.error fault) right :=
  .of_run rfl nofun

theorem Builds.lift (result : Except Fault α) :
    Builds start (liftM result) (outcome result)
      fun value after => result = .ok value ∧ after = start := by
  cases result with
  | error fault => exact .throw fault
  | ok value => exact .pure ⟨rfl, rfl⟩

/-- A step that looks at the pass at first is what it then does there. -/
theorem Building.get_bind_run (next : Pass → Building α) (start : Pass) :
    (get >>= next) start = next start start := rfl

theorem Builds.bind {step : Building α} {next : α → Building β}
    {check checkNext : Except Fault Unit} {between : α → Pass → Prop} {right : β → Pass → Prop}
    (first : Builds start step check between)
    (second : ∀ value middle, between value middle →
      Builds middle (next value) checkNext right) :
    Builds start (step >>= next) (check >>= fun _ => checkNext) right := by
  obtain ⟨rfl, holds⟩ := first
  have run := bind_run step next start
  cases result : step start with
  | mk ended middle =>
    rw [result] at holds run
    cases ended with
    | error fault => exact .of_run run nofun
    | ok value =>
      obtain ⟨ends, holdsAfter⟩ := second value middle (holds value rfl)
      refine ⟨?_, ?_⟩
      · rw [run]
        exact ends
      · rw [run]
        exact holdsAfter

/-- A step that never fails, in front of others. -/
theorem Builds.bindOk {step : Building α} {next : α → Building β} {checkNext : Except Fault Unit}
    {between : α → Pass → Prop} {right : β → Pass → Prop}
    (first : Builds start step (.ok ()) between)
    (second : ∀ value middle, between value middle →
      Builds middle (next value) checkNext right) :
    Builds start (step >>= next) checkNext right :=
  first.bind second

/-- Steps behind one that decides how it all ends. -/
theorem Builds.thenOk {step : Building α} {next : α → Building β} {check : Except Fault Unit}
    {between : α → Pass → Prop} {right : β → Pass → Prop}
    (first : Builds start step check between)
    (second : ∀ value middle, between value middle → Builds middle (next value) (.ok ()) right) :
    Builds start (step >>= next) check right := by
  have same : (check >>= fun _ => .ok ()) = check := by cases check <;> rfl
  exact same ▸ first.bind second

theorem Builds.change (change : Pass → Pass) :
    Builds start (modify change) (.ok ()) fun _ after => after = change start := by
  have run : (modify change : Building Unit) start = (.ok (), change start) := rfl
  exact .of_run run fun _ _ => rfl

theorem Builds.look {next : Pass → Building α} {check : Except Fault Unit}
    {right : α → Pass → Prop} (rest : Builds start (next start) check right) :
    Builds start (get >>= next) check right :=
  ⟨rest.ends, rest.right⟩

theorem Builds.conclude {step : Building α} {check : Except Fault Unit}
    {first second : α → Pass → Prop} (builds : Builds start step check first)
    (implies : ∀ value after, first value after → second value after) :
    Builds start step check second :=
  ⟨builds.ends, fun value same => implies _ _ (builds.right value same)⟩

end

/-! ### Steps of a pass -/

/-- The pass after steps that may have imported names, with the registry that they leave. -/
def Pass.Leads (start : Pass) (registry : Registry) (after : Pass) : Prop :=
  ∃ imports, after = { start with registry := registry, imports := imports }

/-- The pass has the standard settings, stands at the level of methods, and has a sound
registry. -/
structure Pass.Ready (reserved : List String) (pass : Pass) : Prop where
  style : pass.style = Options.standard.style
  level : pass.level = 1
  sound : pass.registry.Sound reserved

/-- Calls of the registry and imports leave the pass ready. -/
theorem Pass.Ready.after {reserved : List String} {pass : Pass} (ready : pass.Ready reserved)
    (calls : List Call) (imports : Imports) :
    Pass.Ready reserved
      { pass with registry := runCalls calls pass.registry, imports := imports } :=
  ⟨ready.style, ready.level, (runCalls_sound calls ready.sound).1⟩

section

variable {α : Type} {reserved : List String} {start : Pass}

theorem registering_builds {step : Registering α} {check : Except Fault Unit}
    {right : α → Prop} (checks : Checks start.registry step check right) :
    Builds start (Pass.registering step) check
      fun value after => (step start.registry).1 = .ok value ∧
        after = { start with registry := (step start.registry).2 } :=
  ⟨checks.ends, fun _ same => ⟨same, rfl⟩⟩

theorem Building.lift_run (result : Except Fault α) (start : Pass) :
    (liftM result : Building α) start = (result, start) := by
  cases result <;> rfl

theorem requireLines_run (depths : List Nat) (start : Pass) :
    Pass.requireLines depths start =
      (start.style.requireIndentation (depths.map fun depth => start.level + Int.ofNat depth),
        start) :=
  Building.lift_run _ start

/-- With the standard indentation, no line of a client stands too deep. -/
theorem requireLines_builds (ready : start.Ready reserved) {depths : List Nat}
    (shallow : ∀ depth ∈ depths, depth ≤ 3) :
    Builds start (Pass.requireLines depths) (.ok ()) fun _ after => after = start := by
  have indents : Options.standard.style.requireIndentation
      (depths.map fun depth => 1 + Int.ofNat depth) = .ok () := by
    unfold Style.requireIndentation
    induction depths with
    | nil => rfl
    | cons depth rest inductionHypothesis =>
      rw [List.map_cons, List.forM,
        inductionHypothesis fun depth member => shallow depth (List.mem_cons_of_mem _ member)]
      match depth, shallow depth List.mem_cons_self with
      | 0, _ | 1, _ | 2, _ | 3, _ => rfl
  have run := requireLines_run depths start
  rw [ready.style, ready.level, indents] at run
  exact .of_run run fun _ _ => rfl

theorem useImport_builds {module : Json} (isName : module.isPlain) (names : List String) :
    Builds start (Pass.useImport module names) (.ok ())
      fun _ after => start.Leads start.registry after := by
  have run : Pass.useImport module names start =
      (.ok (), { start with imports := start.imports.use module names }) := by
    unfold Pass.useImport requireModuleName
    rw [if_pos isName]
    rfl
  exact .of_run run fun _ _ => ⟨_, rfl⟩

/-- A function that is planned already has its name. -/
theorem methodName_builds {function : Member}
    (spelled : spelledLevels function.inputs ≤ spellableLevels)
    (knows : start.plan.Knows function.signature) :
    Builds start (Pass.methodName function) (.ok ()) fun _ after => after = start := by
  obtain ⟨name, named⟩ := Option.isSome_iff_exists.mp knows
  have run : Pass.methodName function start = (.ok name, start) := by
    unfold Pass.methodName Member.requireSignature
    rw [if_neg (Nat.not_lt.mpr spelled)]
    show (if (start.plan.nameOf? function.signature).isNone then _
      else _ : Building String) start = _
    rw [named, Option.isNone_some, if_neg Bool.false_ne_true, Building.get_bind_run, named]
    rfl
  exact .of_run run fun _ _ => rfl

/-- Planning tells of renamings, and changes nothing but the plan besides. -/
theorem planMethods_eq (pass : Pass) (members : List Member) :
    pass.planMethods members =
      { pass with
        plan := (pass.plan.extend members).1
        registry := { pass.registry with
          collector := (pass.plan.extend members).2.foldl
            (fun told entry => told.add (.overloadRenamed entry.1 entry.2 pass.contract))
            pass.registry.collector } } := by
  have notices : ∀ (renamed : List (String × String)) (pass : Pass),
      renamed.foldl
          (fun pass entry => pass.notice (.overloadRenamed entry.1 entry.2 pass.contract)) pass =
        { pass with registry := { pass.registry with
            collector := renamed.foldl
              (fun told entry => told.add (.overloadRenamed entry.1 entry.2 pass.contract))
              pass.registry.collector } } := by
    intro renamed
    induction renamed with
    | nil => exact fun _ => rfl
    | cons entry rest inductionHypothesis =>
      intro pass
      rw [List.foldl_cons, inductionHypothesis]
      rfl
  exact notices (pass.plan.extend members).2 { pass with plan := (pass.plan.extend members).1 }

theorem Pass.Ready.notice (ready : start.Ready reserved) (told : Notice) :
    (start.notice told).Ready reserved :=
  ⟨ready.style, ready.level, ready.sound.telling _⟩

/-- Once the names are planned, the pass is ready for the methods, all of which have names. -/
theorem planMethods_ready (style : start.style = Options.standard.style)
    (sound : start.registry.Sound reserved) (members : List Member) :
    Pass.Ready reserved { start.planMethods members with level := 1 } ∧
      ∀ function ∈ functionsAmong members,
        (start.planMethods members).plan.Knows function.signature := by
  rw [planMethods_eq]
  exact ⟨⟨style, rfl, sound.telling _⟩, fun function member => MethodPlan.extend_knows _ member⟩

theorem planNames_builds (members : List Member) :
    Builds start (Pass.planNames members)
      ((functionsAmong members).forM Member.requireSignature)
      fun _ after => (functionsAmong members).forM Member.requireSignature = .ok () ∧
        after = start.planMethods members := by
  cases spelled : (functionsAmong members).forM Member.requireSignature with
  | ok _ =>
    have run : Pass.planNames members start = (.ok (), start.planMethods members) := by
      unfold Pass.planNames
      rw [spelled]
      rfl
    exact .of_run run fun _ _ => ⟨rfl, rfl⟩
  | error fault =>
    have run : Pass.planNames members start =
        (.error fault, { start with plan := start.plan.extendPartly members }) := by
      unfold Pass.planNames
      rw [spelled]
      rfl
    exact .of_run run nofun

end

/-- The signatures of functions can be spelled out exactly if their tuples are not nested too
deep. -/
theorem forM_requireSignature (functions : List Member) :
    functions.forM Member.requireSignature =
      if ∃ function ∈ functions, spellableLevels < spelledLevels function.inputs then
        .error (.defect .tooDeep)
      else .ok () := by
  induction functions with
  | nil =>
    rw [if_neg (by simp)]
    rfl
  | cons function rest inductionHypothesis =>
    rw [List.forM, inductionHypothesis, Member.requireSignature]
    by_cases deep : spellableLevels < spelledLevels function.inputs
    · simp only [List.exists_mem_cons_iff, deep, true_or, if_true]
      rfl
    · simp only [List.exists_mem_cons_iff, deep, false_or, if_false]
      rfl

/-- The signatures of all functions among the members can be spelled out. -/
def Spellable (members : List Member) : Prop :=
  ∀ function ∈ functionsAmong members, spelledLevels function.inputs ≤ spellableLevels

theorem forM_requireSignature_eq_ok_iff {members : List Member} :
    (functionsAmong members).forM Member.requireSignature = .ok () ↔ Spellable members := by
  rw [forM_requireSignature]
  split
  · rename_i deep
    obtain ⟨function, member, deep⟩ := deep
    simp only [reduceCtorEq, false_iff]
    exact fun spellable => Nat.not_lt.mpr (spellable function member) deep
  · rename_i shallow
    simp only [true_iff]
    exact fun function member => Nat.le_of_not_lt fun deep => shallow ⟨function, member, deep⟩

end ContractClient
