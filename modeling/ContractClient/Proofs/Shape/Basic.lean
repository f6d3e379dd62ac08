/-
This file says what values of a type look like. A shape is a tree of arrays and records above
primitive types; no name of an interface is left in it. The names of the primitive types and the
interfaces together tell the shape of a type (`Ty.HasShape`), and an ABI tells the shape of a
parameter (`Parameter.shape?`), neither of them by way of the other.

Two shapes are alike if they differ in the order of fields alone; they are compared in their
canonical form, where the fields of every record stand in the order of their names.
-/

import ContractClient.Client.Conversion
import ContractClient.Proofs.Registry.Events
import ContractClient.Proofs.Text.Order
import Mathlib.Data.List.Perm.Basic

namespace ContractClient

/-! ### Shapes -/

/-- What values look like. -/
inductive Shape where
  | primitive (name : String)
  | array (item : Shape)
  | record (fields : List (String × Shape))
deriving Inhabited

namespace Shape

/-- Induction over a shape and all shapes of the fields in it. -/
@[elab_as_elim, induction_eliminator]
theorem induct {motive : Shape → Prop} (primitive : ∀ name, motive (.primitive name))
    (array : ∀ item, motive item → motive (.array item))
    (record : ∀ fields, (∀ field ∈ fields, motive field.2) → motive (.record fields)) :
    ∀ shape, motive shape := by
  intro shape
  refine @Shape.rec motive (fun fields => ∀ field ∈ fields, motive field.2)
    (fun field => motive field.2) primitive array record ?nil ?cons ?pair shape
  case nil => exact nofun
  case cons =>
    intro field rest first others other member
    rcases List.mem_cons.mp member with rfl | member
    · exact first
    · exact others other member
  case pair => exact fun _ _ holds => holds

/-- The shape of arrays of the given number of dimensions. -/
def arrays : Nat → Shape → Shape
  | 0, item => item
  | dimensions + 1, item => .array (arrays dimensions item)

mutual

/-- The shape with the fields of every record in the order of their names. -/
def canonical : Shape → Shape
  | primitive name => .primitive name
  | array item => .array item.canonical
  | record fields => .record (inOrder nameLe (canonicalFields fields))
termination_by structural shape => shape

/-- The fields with their shapes in canonical form. -/
def canonicalFields : List (String × Shape) → List (String × Shape)
  | [] => []
  | (name, shape) :: rest => (name, shape.canonical) :: canonicalFields rest
termination_by structural fields => fields

end

theorem canonicalFields_eq_map (fields : List (String × Shape)) :
    canonicalFields fields = fields.map fun field => (field.1, field.2.canonical) := by
  induction fields with
  | nil => rfl
  | cons field rest inductionHypothesis =>
    rw [canonicalFields, inductionHypothesis, List.map_cons]

theorem canonical_arrays (dimensions : Nat) (item : Shape) :
    (arrays dimensions item).canonical = arrays dimensions item.canonical := by
  induction dimensions with
  | zero => rfl
  | succ dimensions inductionHypothesis => rw [arrays, canonical, inductionHypothesis, arrays]

theorem map_name_canonicalFields (fields : List (String × Shape)) :
    (canonicalFields fields).map (·.1) = fields.map (·.1) := by
  rw [canonicalFields_eq_map, List.map_map]
  rfl

/-- Records whose fields have names of their own are alike exactly if the fields of the one are
those of the other, up to their order and likeness. -/
theorem canonical_record_eq_iff {first second : List (String × Shape)}
    (distinct : (first.map (·.1)).Nodup) :
    (record first).canonical = (record second).canonical ↔
      (canonicalFields first).Perm (canonicalFields second) := by
  rw [canonical, canonical, record.injEq, inOrder_nameLe_eq_iff]
  rw [map_name_canonicalFields]
  exact distinct

end Shape

/-! ### Shapes of types -/

mutual

/-- Values of the type have the shape: the name of a type is that of whole numbers, or that of an
interface with fields of the given shapes, or else stands for itself. -/
def HasShape (interfaces : List Interface) : Shape → Ty → Prop
  | .primitive name, ty =>
    ty = ⟨name, 0⟩ ∧ (name = bigintName ∨ findInterface? interfaces name = none)
  | .array item, ty => ∃ rank, ty.rank = rank + 1 ∧ HasShape interfaces item ⟨ty.base, rank⟩
  | .record shapes, ty => ty.rank = 0 ∧ ty.base ≠ bigintName ∧
    ∃ interface, findInterface? interfaces ty.base = some interface ∧
      HaveShapes interfaces shapes interface.fields
termination_by structural shape => shape

/-- The fields have the names and the shapes, one by one. -/
def HaveShapes (interfaces : List Interface) : List (String × Shape) → List Field → Prop
  | [], fields => fields = []
  | (name, shape) :: shapes, fields => ∃ field rest, fields = field :: rest ∧
    field.name = name ∧ HasShape interfaces shape field.ty ∧ HaveShapes interfaces shapes rest
termination_by structural shapes => shapes

end

theorem haveShapes_iff {interfaces : List Interface} {shapes : List (String × Shape)}
    {fields : List Field} :
    HaveShapes interfaces shapes fields ↔
      List.Forall₂ (fun named field => field.name = named.1 ∧
        HasShape interfaces named.2 field.ty) shapes fields := by
  induction shapes generalizing fields with
  | nil =>
    rw [HaveShapes, List.forall₂_nil_left_iff]
  | cons named shapes inductionHypothesis =>
    rw [HaveShapes, List.forall₂_cons_left_iff]
    constructor
    · rintro ⟨field, rest, same, isNamed, hasShape, others⟩
      exact ⟨field, rest, ⟨isNamed, hasShape⟩, inductionHypothesis.mp others, same⟩
    · rintro ⟨field, rest, ⟨isNamed, hasShape⟩, others, same⟩
      exact ⟨field, rest, same, isNamed, hasShape, inductionHypothesis.mpr others⟩

section

variable {interfaces : List Interface}

/-- The shape of an array is that of an array of its items. -/
theorem hasShape_array {shape : Shape} {base : String} {rank : Nat} :
    HasShape interfaces shape ⟨base, rank + 1⟩ ↔
      ∃ item, shape = .array item ∧ HasShape interfaces item ⟨base, rank⟩ := by
  cases shape with
  | primitive name => simp [HasShape]
  | array item => simp [HasShape]
  | record shapes => simp [HasShape]

/-- A name that stands for itself has the shape of that name. -/
theorem hasShape_leaf {shape : Shape} {name : String}
    (leaf : name = bigintName ∨ findInterface? interfaces name = none) :
    HasShape interfaces shape ⟨name, 0⟩ ↔ shape = .primitive name := by
  cases shape with
  | primitive other =>
    simp only [HasShape, Ty.mk.injEq, and_true, Shape.primitive.injEq]
    exact ⟨fun same => same.1.symm, fun same => ⟨same.symm, same ▸ leaf⟩⟩
  | array item => simp [HasShape]
  | record shapes =>
    simp only [HasShape, true_and, reduceCtorEq, iff_false, not_and, not_exists]
    rintro noNumber interface found
    rcases leaf with isNumber | notFound
    · exact absurd isNumber noNumber
    · rw [notFound] at found
      cases found

/-- The name of an interface has the shape of a record of its fields. -/
theorem hasShape_record {shape : Shape} {name : String} {interface : Interface}
    (noNumber : name ≠ bigintName) (found : findInterface? interfaces name = some interface) :
    HasShape interfaces shape ⟨name, 0⟩ ↔
      ∃ shapes, shape = .record shapes ∧ HaveShapes interfaces shapes interface.fields := by
  cases shape with
  | primitive other =>
    simp only [HasShape, Ty.mk.injEq, and_true, reduceCtorEq, false_and, exists_false, iff_false]
    rintro ⟨rfl, isNumber | notFound⟩
    · exact absurd isNumber noNumber
    · rw [notFound] at found
      cases found
  | array item => simp [HasShape]
  | record shapes => simp [HasShape, noNumber, found]

theorem HaveShapes.unique_of {first second : List (String × Shape)} {fields : List Field}
    (unique : ∀ named ∈ first, ∀ other ty, HasShape interfaces named.2 ty →
      HasShape interfaces other ty → named.2 = other)
    (isFirst : HaveShapes interfaces first fields)
    (isSecond : HaveShapes interfaces second fields) : first = second := by
  rw [haveShapes_iff] at isFirst isSecond
  induction isFirst generalizing second with
  | nil => exact (List.forall₂_nil_right_iff.mp isSecond).symm
  | @cons named field others rest first _ inductionHypothesis =>
    obtain ⟨other, seconds, second, remain, rfl⟩ := List.forall₂_cons_right_iff.mp isSecond
    have sameShape := unique named List.mem_cons_self other.2 field.ty first.2 second.2
    have sameName : named.1 = other.1 := first.1.symm.trans second.1
    rw [Prod.ext sameName sameShape]
    have uniqueRest := fun named member => unique named (List.mem_cons_of_mem _ member)
    rw [inductionHypothesis uniqueRest remain]

/-- A type has no more than one shape. -/
theorem HasShape.unique {first second : Shape} {ty : Ty} (isFirst : HasShape interfaces first ty)
    (isSecond : HasShape interfaces second ty) : first = second := by
  induction first generalizing second ty with
  | primitive name =>
    rw [HasShape] at isFirst
    obtain ⟨rfl, leaf⟩ := isFirst
    exact ((hasShape_leaf leaf).mp isSecond).symm
  | array item inductionHypothesis =>
    obtain ⟨base, rank⟩ := ty
    rw [HasShape] at isFirst
    obtain ⟨dimensions, rfl, hasShape⟩ := isFirst
    obtain ⟨other, rfl, otherShape⟩ := hasShape_array.mp isSecond
    rw [inductionHypothesis hasShape otherShape]
  | record shapes inductionHypothesis =>
    obtain ⟨base, rank⟩ := ty
    rw [HasShape] at isFirst
    obtain ⟨rfl, noNumber, interface, found, haveShapes⟩ := isFirst
    obtain ⟨others, rfl, otherShapes⟩ := (hasShape_record noNumber found).mp isSecond
    rw [HaveShapes.unique_of (fun named member other ty => inductionHypothesis named member)
      haveShapes otherShapes]

/-- Arrays of a type have the shape of arrays of its shape. -/
theorem HasShape.arrays {shape : Shape} {ty : Ty} (hasShape : HasShape interfaces shape ty)
    (dimensions : Nat) : HasShape interfaces (shape.arrays dimensions) (ty.arrays dimensions) := by
  induction dimensions with
  | zero => exact hasShape
  | succ dimensions inductionHypothesis => exact hasShape_array.mpr ⟨_, rfl, inductionHypothesis⟩

end

/-! ### Shapes of parameters -/

mutual

/-- The shape of a parameter as the ABI gives it, if it has a supported type. -/
def Parameter.shape? : Parameter → Option Shape
  | ⟨_, text, _, components⟩ =>
    match TypeTag.parse text with
    | .error _ => none
    | .ok tag =>
      match tag.base.primitive? with
      | some ty => some (Shape.arrays tag.dimensions.length (.primitive ty.base))
      | none => (componentsShape? components).map (Shape.arrays tag.dimensions.length)
termination_by structural parameter => parameter

/-- The shape of a tuple with the given components. -/
def componentsShape? : Option (List Parameter) → Option Shape
  | none => none
  | some components => (namedShapes? components (components.map (·.name))).map .record
termination_by structural components => components

/-- The shapes of the parameters under the given names. -/
def namedShapes? : List Parameter → List String → Option (List (String × Shape))
  | parameter :: parameters, name :: names => do
    let shape ← parameter.shape?
    let rest ← namedShapes? parameters names
    return (name, shape) :: rest
  | _, _ => some []
termination_by structural parameters => parameters

end

/-- The shape of what a type is asked for. -/
def Subject.shape? : Subject → Option Shape
  | parameter asked => asked.shape?
  | struct components => componentsShape? (some components)
  | result outputs => (namedShapes? outputs (outputFieldNames outputs)).map .record

end ContractClient
