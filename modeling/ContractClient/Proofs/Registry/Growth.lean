/-
This file says what a registry holds and how it grows. Interfaces are only put behind those that
are there already, and each one that is added fits them: its name and its shape are new, its
fields have names of their own, and their types refer to interfaces in front of it. A list that
has grown in this way is well formed; a registry is sound if its interfaces are, if its index
finds each of them by its shape and nothing else, and if the names that it holds to be taken are
theirs and the reserved ones.

Every step on a registry is put together from steps that register one interface. So it is enough
to follow those (`register_yields`), and to see that soundness and growth go through a sequence of
steps, whether it ends well or fails on the way (`Yields.bind`).
-/

import ContractClient.Proofs.Naming.Free
import ContractClient.Proofs.Steps
import ContractClient.Proofs.TypeScript.TypeText
import ContractClient.Registry
import Mathlib.Data.List.Nodup

namespace ContractClient

/-! ### Well-formed lists of interfaces -/

/-- The type is a primitive one or a name among the interfaces, with any number of brackets. -/
def Known (interfaces : List Interface) (ty : Ty) : Prop :=
  ∃ name dimensions, ty = (Ty.ofText name).arrays dimensions ∧
    (name ∈ primitiveNames ∨ ∃ interface ∈ interfaces, interface.name = name)

/-- The interface can stand behind the earlier ones. -/
structure Fits (reserved : List String) (earlier : List Interface) (interface : Interface) :
    Prop where
  notReserved : interface.name ∉ reserved
  newName : ∀ other ∈ earlier, other.name ≠ interface.name
  newShape : ∀ other ∈ earlier, other.signature ≠ interface.signature
  hasFields : interface.fields ≠ []
  fieldsNamed : ∀ field ∈ interface.fields, field.name ≠ ""
  fieldsDistinct : (interface.fields.map (·.name)).Nodup
  fieldsKnown : ∀ field ∈ interface.fields, Known earlier field.ty

/-- The interfaces were put behind one another, each fitting those in front of it. -/
inductive WellFormed (reserved : List String) : List Interface → Prop
  | empty : WellFormed reserved []
  | grown {earlier : List Interface} {interface : Interface} :
      WellFormed reserved earlier → Fits reserved earlier interface →
        WellFormed reserved (earlier ++ [interface])

theorem Known.mono {earlier later : List Interface} (grown : earlier ⊆ later) {ty : Ty}
    (known : Known earlier ty) : Known later ty := by
  obtain ⟨name, dimensions, same, primitive | ⟨interface, member, named⟩⟩ := known
  · exact ⟨name, dimensions, same, .inl primitive⟩
  · exact ⟨name, dimensions, same, .inr ⟨interface, grown member, named⟩⟩

theorem Known.arrays {interfaces : List Interface} {ty : Ty} (known : Known interfaces ty)
    (dimensions : Nat) : Known interfaces (ty.arrays dimensions) := by
  obtain ⟨name, others, rfl, refers⟩ := known
  exact ⟨name, others + dimensions, Ty.arrays_arrays _ _ _, refers⟩

theorem known_primitive (interfaces : List Interface) {base : BaseType} {ty : Ty}
    (primitive : base.primitive? = some ty) : Known interfaces ty := by
  refine ⟨ty.base, 0, ?_, .inl (BaseType.primitive?_eq_some primitive).1⟩
  cases base <;> cases primitive <;> rfl

theorem known_name {interfaces : List Interface} {interface : Interface}
    (member : interface ∈ interfaces) : Known interfaces (Ty.ofText interface.name) :=
  ⟨interface.name, 0, rfl, .inr ⟨interface, member, rfl⟩⟩

/-- What holds of every interface behind those in front of it holds along the whole list. -/
theorem WellFormed.fits {reserved : List String} {interfaces : List Interface}
    (wellFormed : WellFormed reserved interfaces) {earlier later : List Interface}
    {interface : Interface} (split : interfaces = earlier ++ interface :: later) :
    Fits reserved earlier interface := by
  induction wellFormed generalizing later with
  | empty => simp at split
  | @grown front last _ fits inductionHypothesis =>
    rcases List.eq_nil_or_concat' later with rfl | ⟨rest, final, rfl⟩
    · obtain ⟨rfl, same⟩ := List.append_inj' split rfl
      exact (List.singleton_inj.mp same) ▸ fits
    · rw [← List.cons_append, ← List.append_assoc] at split
      exact inductionHypothesis (List.append_inj' split rfl).1

theorem WellFormed.fits_of_mem {reserved : List String} {interfaces : List Interface}
    (wellFormed : WellFormed reserved interfaces) {interface : Interface}
    (member : interface ∈ interfaces) :
    ∃ earlier, earlier ⊆ interfaces ∧ Fits reserved earlier interface := by
  obtain ⟨earlier, later, split⟩ := List.append_of_mem member
  refine ⟨earlier, fun other front => ?_, wellFormed.fits split⟩
  exact split ▸ List.mem_append_left _ front

theorem WellFormed.front {reserved : List String} {front interfaces : List Interface}
    (wellFormed : WellFormed reserved interfaces) (leads : front <+: interfaces) :
    WellFormed reserved front := by
  induction wellFormed with
  | empty => exact List.prefix_nil.mp leads ▸ .empty
  | @grown earlier interface grown fits inductionHypothesis =>
    rcases List.prefix_concat_iff.mp leads with same | shorter
    · exact same ▸ .grown grown fits
    · exact inductionHypothesis shorter

/-- Values of the interfaces that are new with each of them differ along the list. -/
theorem WellFormed.pairwise_ne {α : Type} {reserved : List String} {interfaces : List Interface}
    (wellFormed : WellFormed reserved interfaces) (value : Interface → α)
    (new : ∀ {earlier interface}, Fits reserved earlier interface →
      ∀ other ∈ earlier, value other ≠ value interface) : (interfaces.map value).Nodup := by
  induction wellFormed with
  | empty => exact List.nodup_nil
  | @grown earlier interface _ fits inductionHypothesis =>
    rw [List.map_append, List.nodup_append]
    refine ⟨inductionHypothesis, List.nodup_singleton _, fun first isFirst second isSecond => ?_⟩
    obtain ⟨other, member, rfl⟩ := List.mem_map.mp isFirst
    rw [List.map_singleton, List.mem_singleton] at isSecond
    exact isSecond ▸ new fits other member

theorem WellFormed.namesDistinct {reserved : List String} {interfaces : List Interface}
    (wellFormed : WellFormed reserved interfaces) : (interfaces.map (·.name)).Nodup :=
  wellFormed.pairwise_ne (·.name) Fits.newName

theorem WellFormed.signaturesDistinct {reserved : List String} {interfaces : List Interface}
    (wellFormed : WellFormed reserved interfaces) : (interfaces.map (·.signature)).Nodup :=
  wellFormed.pairwise_ne (·.signature) Fits.newShape

/-- Interfaces of one shape are one interface. -/
theorem WellFormed.eq_of_signature {reserved : List String} {interfaces : List Interface}
    (wellFormed : WellFormed reserved interfaces) {first second : Interface}
    (isFirst : first ∈ interfaces) (isSecond : second ∈ interfaces)
    (same : first.signature = second.signature) : first = second :=
  List.inj_on_of_nodup_map wellFormed.signaturesDistinct isFirst isSecond same

/-- A search by a value that differs along the list finds the one item that has it. -/
theorem find?_eq_some_iff_of_distinct {α κ : Type} [BEq κ] [LawfulBEq κ] {key : α → κ}
    {items : List α} (distinct : (items.map key).Nodup) {value : κ} {item : α} :
    items.find? (fun other => key other == value) = some item ↔
      item ∈ items ∧ key item = value := by
  constructor
  · intro found
    exact ⟨List.mem_of_find?_eq_some found, by simpa using List.find?_some found⟩
  · rintro ⟨member, rfl⟩
    cases found : items.find? (fun other => key other == key item) with
    | none => exact absurd (beq_self_eq_true _) (List.find?_eq_none.mp found item member)
    | some other =>
      have same : key other = key item := by simpa using List.find?_some found
      rw [List.inj_on_of_nodup_map distinct (List.mem_of_find?_eq_some found) member same]

/-- The interface of a name is the only one of it. -/
theorem WellFormed.findInterface?_eq_some_iff {reserved : List String}
    {interfaces : List Interface} (wellFormed : WellFormed reserved interfaces) {name : String}
    {interface : Interface} :
    interfaces.find? (·.name == name) = some interface ↔
      interface ∈ interfaces ∧ interface.name = name :=
  find?_eq_some_iff_of_distinct wellFormed.namesDistinct

/-! ### Sound registries -/

/-- The interfaces are well formed, the index finds each of them by its shape and nothing else,
and the names that are taken are theirs and the reserved ones. -/
structure Registry.Sound (reserved : List String) (registry : Registry) : Prop where
  wellFormed : WellFormed reserved registry.interfaces
  indexed : ∀ signature interface, registry.shaped? signature = some interface ↔
    interface ∈ registry.interfaces ∧ interface.signature = signature
  taken : ∀ name, name ∈ registry.taken ↔
    name ∈ reserved ∨ ∃ interface ∈ registry.interfaces, interface.name = name

/-- A new interface of a new shape is found by its shape, and the others as before. -/
theorem Registry.insert_shaped?_eq_some_iff {reserved : List String} {registry : Registry}
    (sound : registry.Sound reserved) (requested : String) {fields : List Field} (origin : Origin)
    (new : registry.shaped? (fieldSignature fields) = none) (signature : List (String × String))
    (interface : Interface) :
    let grown := (registry.insert requested fields origin).2
    grown.shaped? signature = some interface ↔
      interface ∈ grown.interfaces ∧ interface.signature = signature := by
  intro grown
  by_cases same : signature = fieldSignature fields
  · subst same
    have looked : grown.shaped? (fieldSignature fields) =
        some ⟨freeName registry.taken requested, fields, origin⟩ := List.lookup_cons_self
    rw [looked, Option.some.injEq]
    constructor
    · rintro rfl
      exact ⟨List.mem_append_right _ (List.mem_singleton_self _), rfl⟩
    · rintro ⟨member, shape⟩
      rcases List.mem_append.mp member with before | last
      · have found := (sound.indexed _ _).mpr ⟨before, shape⟩
        rw [new] at found
        cases found
      · exact (List.mem_singleton.mp last).symm
  · have looked : grown.shaped? signature = registry.shaped? signature := by
      show List.lookup signature ((fieldSignature fields, _) :: registry.index) = _
      rw [List.lookup_cons, beq_eq_false_iff_ne.mpr same]
      rfl
    rw [looked, sound.indexed]
    constructor
    · exact fun ⟨before, shape⟩ => ⟨List.mem_append_left _ before, shape⟩
    · rintro ⟨member, shape⟩
      rcases List.mem_append.mp member with before | last
      · exact ⟨before, shape⟩
      · rw [List.mem_singleton.mp last] at shape
        exact (same shape.symm).elim

/-- A registry grows soundly by an interface of a new shape, whose name is chosen then. -/
theorem Registry.insert_sound {reserved : List String} {registry : Registry}
    (sound : registry.Sound reserved) (requested : String) {fields : List Field} (origin : Origin)
    (new : registry.shaped? (fieldSignature fields) = none) (hasFields : fields ≠ [])
    (named : ∀ field ∈ fields, field.name ≠ "") (distinct : (fields.map (·.name)).Nodup)
    (known : ∀ field ∈ fields, Known registry.interfaces field.ty) :
    (registry.insert requested fields origin).2.Sound reserved := by
  have free : ∀ name ∈ registry.taken, freeName registry.taken requested ≠ name :=
    fun name member same => freeName_not_mem registry.taken requested (same ▸ member)
  refine ⟨.grown sound.wellFormed ?_,
    insert_shaped?_eq_some_iff sound requested origin new, fun name => ?_⟩
  · constructor
    case notReserved => exact fun member => free _ ((sound.taken _).mpr (.inl member)) rfl
    case newName =>
      exact fun other member same =>
        free other.name ((sound.taken _).mpr (.inr ⟨other, member, rfl⟩)) same.symm
    case newShape =>
      intro other member same
      cases new.symm.trans ((sound.indexed _ _).mpr ⟨member, same⟩)
    case hasFields => exact hasFields
    case fieldsNamed => exact named
    case fieldsDistinct => exact distinct
    case fieldsKnown => exact known
  · simp only [insert, List.mem_cons, sound.taken, List.mem_append, or_and_right, exists_or,
      List.not_mem_nil, or_false, exists_eq_left]
    rw [or_left_comm, or_comm (a := name = _), eq_comm (a := name)]

/-! ### Steps -/

/-- The registry has what another one was made with. -/
structure Registry.Keeps (start after : Registry) : Prop where
  levels : after.levels = start.levels
  resultSuffix : after.resultSuffix = start.resultSuffix
  contract : after.contract = start.contract

theorem Registry.Keeps.refl (registry : Registry) : registry.Keeps registry :=
  ⟨rfl, rfl, rfl⟩

theorem Registry.Keeps.trans {start middle after : Registry} (first : start.Keeps middle)
    (second : middle.Keeps after) : start.Keeps after :=
  ⟨second.levels.trans first.levels, second.resultSuffix.trans first.resultSuffix,
    second.contract.trans first.contract⟩

/-- From a registry on, the step leaves a sound registry, which has only grown; and what the step
gives is right of the interfaces at its end. -/
structure Yields {α : Type} (reserved : List String) (start : Registry) (step : Registering α)
    (right : List Interface → α → Prop) : Prop where
  sound : (step start).2.Sound reserved
  keeps : start.Keeps (step start).2
  grows : start.interfaces <+: (step start).2.interfaces
  right : ∀ value, (step start).1 = .ok value → right (step start).2.interfaces value

section

variable {α β : Type} {reserved : List String} {start : Registry}

theorem Yields.of_run {step : Registering α} {outcome : Except Fault α} {after : Registry}
    {right : List Interface → α → Prop} (run : step start = (outcome, after))
    (sound : after.Sound reserved) (keeps : start.Keeps after)
    (grows : start.interfaces <+: after.interfaces)
    (holds : ∀ value, outcome = .ok value → right after.interfaces value) :
    Yields reserved start step right :=
  ⟨by rw [run]; exact sound, by rw [run]; exact keeps, by rw [run]; exact grows,
    by rw [run]; exact holds⟩

theorem Yields.of_error {step : Registering α} {fault : Fault} {after : Registry}
    {right : List Interface → α → Prop} (run : step start = (.error fault, after))
    (sound : after.Sound reserved) (keeps : start.Keeps after)
    (grows : start.interfaces <+: after.interfaces) : Yields reserved start step right :=
  .of_run run sound keeps grows fun _ same => nomatch same

theorem Yields.pure (sound : start.Sound reserved) {value : α}
    {right : List Interface → α → Prop} (holds : right start.interfaces value) :
    Yields reserved start (Pure.pure value) right :=
  .of_run rfl sound (.refl start) (List.prefix_refl _) fun _ same => Except.ok.inj same ▸ holds

theorem Yields.throw (sound : start.Sound reserved) (fault : Fault)
    {right : List Interface → α → Prop} : Yields reserved start (MonadExcept.throw fault) right :=
  .of_error rfl sound (.refl start) (List.prefix_refl _)

theorem Yields.lift (sound : start.Sound reserved) (result : Except Fault α) :
    Yields reserved start (liftM result) fun _ value => result = .ok value := by
  cases result with
  | error fault => exact .throw sound fault
  | ok value => exact .pure sound rfl

theorem Yields.conclude {step : Registering α} {first second : List Interface → α → Prop}
    (yields : Yields reserved start step first)
    (implies : ∀ interfaces value, start.interfaces <+: interfaces → first interfaces value →
      second interfaces value) : Yields reserved start step second :=
  ⟨yields.sound, yields.keeps, yields.grows,
    fun value same => implies _ _ yields.grows (yields.right value same)⟩

/-- Two steps one after the other. The second starts where the first ends, if that ends well, in a
registry made as the one at the start. -/
theorem Yields.bindKeeping {step : Registering α} {next : α → Registering β}
    {between : List Interface → α → Prop} {right : List Interface → β → Prop}
    (first : Yields reserved start step between)
    (second : ∀ value middle, middle.Sound reserved → start.Keeps middle →
      start.interfaces <+: middle.interfaces → between middle.interfaces value →
        Yields reserved middle (next value) right) :
    Yields reserved start (step >>= next) right := by
  obtain ⟨sound, keeps, grows, holds⟩ := first
  have run := bind_run step next start
  cases result : step start with
  | mk outcome middle =>
    rw [result] at sound keeps grows holds run
    cases outcome with
    | error fault => exact .of_error run sound keeps grows
    | ok value =>
      obtain ⟨soundAfter, keepsAfter, growsAfter, holdsAfter⟩ :=
        second value middle sound keeps grows (holds value rfl)
      exact .of_run run soundAfter (keeps.trans keepsAfter) (grows.trans growsAfter) holdsAfter

/-- Two steps one after the other, where it does not matter how the registry was made. -/
theorem Yields.bind {step : Registering α} {next : α → Registering β}
    {between : List Interface → α → Prop} {right : List Interface → β → Prop}
    (first : Yields reserved start step between)
    (second : ∀ value middle, middle.Sound reserved → start.interfaces <+: middle.interfaces →
      between middle.interfaces value → Yields reserved middle (next value) right) :
    Yields reserved start (step >>= next) right :=
  first.bindKeeping fun value middle sound _ grows holds => second value middle sound grows holds

/-- A look at the registry in front of a step. -/
theorem Yields.look {next : Registry → Registering α} {right : List Interface → α → Prop}
    (rest : Yields reserved start (next start) right) :
    Yields reserved start (get >>= next) right :=
  ⟨rest.sound, rest.keeps, rest.grows, rest.right⟩

/-- A check in front of a step. -/
theorem Yields.unless {condition : Prop} [Decidable condition] {fault : Fault}
    {next : Unit → Registering α} {right : List Interface → α → Prop} (sound : start.Sound reserved)
    (rest : ¬condition → Yields reserved start (next ()) right) :
    Yields reserved start (if condition then (MonadExcept.throw fault >>= next) else next ())
      right := by
  split
  · have fails : Yields reserved start (MonadExcept.throw fault) fun _ (_ : Unit) => False :=
      .throw sound fault
    exact fails.bind fun _ _ _ _ never => never.elim
  · rename_i passes
    exact rest passes

theorem Yields.locating {step : Registering α} {right : List Interface → α → Prop}
    (member parameter : String) (yields : Yields reserved start step right) :
    Yields reserved start (ContractClient.locating member parameter step) right := by
  obtain ⟨sound, keeps, grows, holds⟩ := yields
  cases result : step start with
  | mk outcome after =>
    rw [result] at sound keeps grows holds
    cases outcome with
    | error fault =>
      exact .of_error (by rw [ContractClient.locating, result]) sound keeps grows
    | ok value =>
      exact .of_run (by rw [ContractClient.locating, result]) sound keeps grows holds

end

end ContractClient
