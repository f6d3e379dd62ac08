/-
This file says when the answer of a query can be rebuilt. The registry tells one type for each
output; the answer is rebuilt exactly if each of these types has a shape that is not too deep.

A result of several outputs is rebuilt by the fields of its interface, which another function or
a struct may have registered with its fields in another order. Each field is found by its name
nevertheless, with the type of its output (`Shaped.fieldType?_eq`), and no result is ever found
missing.
-/

import ContractClient.Proofs.Client.Steps
import ContractClient.Proofs.Conversion.Rebuilding
import ContractClient.Proofs.Shape.Sharing

namespace ContractClient

/-! ### Types that can be rebuilt -/

/-- Values of the type can be rebuilt: it has a shape, which is not too deep. -/
def Ty.Rebuildable (interfaces : List Interface) (ty : Ty) : Prop :=
  ∃ shape, HasShape interfaces shape ty ∧ shape.rebuildDepth ≤ convertibleDepth

/-- Values of the types of all outputs can be rebuilt. -/
def OutputsRebuildable (interfaces : List Interface) (outputs : List Parameter) : Prop :=
  ∀ output ∈ outputs, ∀ ty, output.HasTy interfaces ty → ty.Rebuildable interfaces

open Classical in
/-- Fails for want of depth unless the condition holds. -/
noncomputable def requireDepth (holds : Prop) : Except Fault Unit :=
  if holds then .ok () else .error (.defect .tooDeep)

theorem requireDepth_of {holds : Prop} (isHeld : holds) : requireDepth holds = .ok () :=
  if_pos isHeld

theorem requireDepth_of_not {holds : Prop} (fails : ¬holds) :
    requireDepth holds = .error (.defect .tooDeep) :=
  if_neg fails

theorem requireDepth_and (first second : Prop) :
    (requireDepth first >>= fun _ => requireDepth second) = requireDepth (first ∧ second) := by
  by_cases isFirst : first
  · rw [requireDepth_of isFirst]
    show requireDepth second = _
    rw [and_iff_right isFirst]
  · have notBoth : ¬(first ∧ second) := fun both => isFirst both.1
    rw [requireDepth_of_not isFirst, requireDepth_of_not notBoth]
    rfl

theorem requireDepth_eq_error_iff {holds : Prop} {cause : Defect} :
    requireDepth holds = .error (.defect cause) ↔ cause = .tooDeep ∧ ¬holds := by
  by_cases isHeld : holds
  · rw [requireDepth_of isHeld]
    simp [isHeld]
  · rw [requireDepth_of_not isHeld]
    simp [isHeld, eq_comm]

theorem rebuildResult_outcome (interfaces : List Interface) (value : Expr) (ty : Ty)
    (depth : Int) :
    outcome (rebuildResult interfaces value ty depth) =
      requireDepth (ty.Rebuildable interfaces) := by
  by_cases hasShape : ∃ shape, HasShape interfaces shape ty
  · obtain ⟨shape, hasShape⟩ := hasShape
    rw [rebuildResult_of_hasShape hasShape, withinDepth]
    by_cases shallow : shape.rebuildDepth ≤ convertibleDepth
    · rw [if_pos shallow, requireDepth_of ⟨shape, hasShape, shallow⟩]
      rfl
    · rw [if_neg shallow, requireDepth_of_not]
      · rfl
      · rintro ⟨other, otherShape, otherShallow⟩
        exact shallow (hasShape.unique otherShape ▸ otherShallow)
  · rw [rebuildResult_of_not_hasShape (not_exists.mp hasShape), requireDepth_of_not]
    · rfl
    · rintro ⟨shape, isShape, _⟩
      exact hasShape ⟨shape, isShape⟩

/-! ### Fields of results -/

section

variable {reserved : List String} {interfaces : List Interface}

/-- What holds of the types of the fields holds of the types of the parameters. -/
theorem FieldsHaveTypes.forall_iff (wellFormed : WellFormed reserved interfaces)
    {parameters : List Parameter} {names : List String} {fields : List Field}
    (same : names.length = parameters.length)
    (haveTypes : FieldsHaveTypes interfaces parameters names fields) {holds : Ty → Prop} :
    (∀ field ∈ fields, holds field.ty) ↔
      ∀ parameter ∈ parameters, ∀ ty, parameter.HasTy interfaces ty → holds ty := by
  induction parameters generalizing names fields with
  | nil =>
    rw [FieldsHaveTypes] at haveTypes
    · simp [haveTypes]
    · simp
  | cons parameter parameters inductionHypothesis =>
    cases names with
    | nil => cases same
    | cons name names =>
      rw [FieldsHaveTypes] at haveTypes
      obtain ⟨ty, rest, rfl, hasTy, others⟩ := haveTypes
      rw [List.forall_mem_cons, List.forall_mem_cons,
        inductionHypothesis (Nat.succ.inj same) others]
      refine and_congr_left fun _ => ⟨fun isHeld other otherTy => ?_, fun all => all ty hasTy⟩
      exact hasTy.unique wellFormed otherTy ▸ isHeld

/-- There is an interface of the name with the names of the fields, in whatever order. -/
theorem Shaped.exists_names {interfaces : List Interface} {fields : List Field} {name : String}
    (shaped : Shaped interfaces fields name) :
    ∃ interface ∈ interfaces, interface.name = name ∧
      (interface.fields.map (·.name)).Perm (fields.map (·.name)) := by
  obtain ⟨interface, member, named, shape⟩ := shaped
  have names := (inOrder_pairLe_eq_iff.mp shape).map Prod.fst
  rw [List.map_map, List.map_map] at names
  exact ⟨interface, member, named, names⟩

/-- Fields are found by their names in an interface of their shape, in whatever order they stand
there. -/
theorem Shaped.fieldType?_eq (wellFormed : WellFormed reserved interfaces) {fields : List Field}
    {name : String} (shaped : Shaped interfaces fields name)
    (known : ∀ field ∈ fields, Known interfaces field.ty) :
    ∃ interface, findInterface? interfaces name = some interface ∧
      ∀ field ∈ fields, interface.fieldType? field.name = some field.ty := by
  obtain ⟨interface, member, rfl, sameSignature⟩ := shaped
  obtain ⟨earlier, front, fits⟩ := wellFormed.fits_of_mem member
  refine ⟨interface, wellFormed.findInterface?_eq_some_iff.mpr ⟨member, rfl⟩, ?_⟩
  intro field isField
  have perm : (interface.fields.map Field.written).Perm (fields.map Field.written) :=
    inOrder_pairLe_eq_iff.mp sameSignature
  obtain ⟨other, isOther, sameWritten⟩ :=
    List.mem_map.mp (perm.mem_iff.mpr (List.mem_map_of_mem isField))
  obtain ⟨sameName, sameText⟩ := Prod.mk.inj sameWritten
  have sameTy : other.ty = field.ty := by
    rw [← ((fits.fieldsKnown other isOther).mono front).ofText_text, sameText,
      (known field isField).ofText_text]
  have found : interface.fields.find? (·.name == field.name) = some other :=
    (find?_eq_some_iff_of_distinct fits.fieldsDistinct).mpr ⟨isOther, sameName⟩
  rw [Interface.fieldType?, found, Option.map_some, sameTy]

end

/-! ### Answers -/

/-- The type is what a query gives back: that of its only output, or the interface of all of
them. -/
def Returns (interfaces : List Interface) (outputs : List Parameter) (ty : Ty) : Prop :=
  match outputs with
  | [] => True
  | [output] => output.HasTy interfaces ty
  | outputs => OutputsHaveName interfaces outputs ty.text

section

variable {reserved : List String} {start : Pass}

theorem rebuild_builds (value : Expr) (ty : Ty) (depth : Int) :
    Builds start (liftM (rebuildResult start.registry.interfaces value ty depth))
      (requireDepth (ty.Rebuildable start.registry.interfaces)) fun _ after => after = start := by
  rw [← rebuildResult_outcome _ value ty depth]
  exact (Builds.lift _).conclude fun _ _ holds => holds.2

theorem rebuildFields_builds (ready : start.Ready reserved) (shape : Interface)
    {fields : List Field}
    (found : ∀ field ∈ fields, shape.fieldType? field.name = some field.ty) (index : Nat) :
    Builds start (rebuildFields shape index (fields.map (·.name)))
      (requireDepth (∀ field ∈ fields, field.ty.Rebuildable start.registry.interfaces))
      fun _ after => after = start := by
  induction fields generalizing index with
  | nil =>
    rw [requireDepth_of (by simp)]
    exact .pure rfl
  | cons field rest inductionHypothesis =>
    rw [List.map_cons, rebuildFields, found field List.mem_cons_self]
    simp only [List.forall_mem_cons]
    rw [← requireDepth_and]
    refine Builds.look ((rebuild_builds _ _ _).bind ?_)
    rintro rebuilt _ rfl
    refine (requireLines_builds ready (by simp)).bindOk ?_
    rintro _ _ rfl
    refine (inductionHypothesis (fun other member => found other (List.mem_cons_of_mem _ member))
      (index + 1)).thenOk ?_
    rintro _ _ rfl
    exact .pure rfl

/-- The answer of a query ends well exactly if the types of its outputs can be rebuilt. -/
theorem buildAnswer_builds (ready : start.Ready reserved) (function : Member) {ty : Ty}
    (returns : Returns start.registry.interfaces function.outputs ty) :
    Builds start (buildAnswer function ty)
      (requireDepth (OutputsRebuildable start.registry.interfaces function.outputs))
      fun _ after => after = start := by
  unfold buildAnswer
  refine Builds.look ?_
  have lines : Builds start (Pass.requireLines [1]) (.ok ()) fun _ after => after = start :=
    requireLines_builds ready (by simp)
  split
  · rename_i none
    rw [none, requireDepth_of (by simp [OutputsRebuildable])]
    refine lines.bindOk ?_
    rintro _ _ rfl
    exact .pure rfl
  · rename_i output only
    rw [only] at returns ⊢
    have alone : OutputsRebuildable start.registry.interfaces [output] ↔
        ty.Rebuildable start.registry.interfaces := by
      unfold OutputsRebuildable
      rw [List.forall_mem_singleton]
      exact ⟨fun all => all ty returns,
        fun isHeld other otherTy => returns.unique ready.sound.wellFormed otherTy ▸ isHeld⟩
    rw [alone]
    refine lines.bindOk ?_
    rintro _ _ rfl
    refine (rebuild_builds _ _ _).thenOk ?_
    rintro _ _ rfl
    exact .pure rfl
  · rename_i notNone several
    have hasName : OutputsHaveName start.registry.interfaces function.outputs ty.text := by
      unfold Returns at returns
      split at returns
      · rename_i none
        exact (notNone none).elim
      · rename_i output only
        exact (several output only).elim
      · exact returns
    obtain ⟨fields, haveTypes, shaped⟩ := hasName
    obtain ⟨shape, found, typed⟩ := shaped.fieldType?_eq ready.sound.wellFormed haveTypes.known
    have sameLength : (outputFieldNames function.outputs).length = function.outputs.length :=
      length_fieldNamesFrom _ _ _
    have registered : start.registry.find? ty.text = some shape := found
    simp only [registered]
    refine lines.bindOk ?_
    rintro _ _ rfl
    rw [OutputsRebuildable, ← haveTypes.forall_iff ready.sound.wellFormed sameLength,
      ← haveTypes.names_eq sameLength]
    refine (rebuildFields_builds ready shape typed 0).thenOk ?_
    rintro _ _ rfl
    exact .pure rfl

end

end ContractClient
