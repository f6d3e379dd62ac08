/-
This file says how deep a value has to be taken apart, by its shape alone, and proves that the
guard in front of the rebuilding measures just that. Looking for whole numbers goes down to the
first number it meets; rebuilding goes down everywhere in a value that holds one, and looks for
numbers again at every step.

A type passes the guard exactly if it has a shape and the shape is not too deep
(`requireConvertible_eq_ok_iff`). A type that leads back to itself has no shape.
-/

import ContractClient.Proofs.Shape.Basic

namespace ContractClient

/-! ### Depths of shapes -/

namespace Shape

mutual

/-- Whether values of the shape hold whole numbers. -/
def holdsNumbers : Shape → Bool
  | primitive name => name == bigintName
  | array item => item.holdsNumbers
  | record fields => anyHoldNumbers fields
termination_by structural shape => shape

/-- Whether values of any of the fields hold whole numbers. -/
def anyHoldNumbers : List (String × Shape) → Bool
  | [] => false
  | (_, shape) :: rest => shape.holdsNumbers || anyHoldNumbers rest
termination_by structural fields => fields

end

mutual

/-- How far down whole numbers are looked for. -/
def searchDepth : Shape → Nat
  | primitive name => if name = bigintName then 1 else 3
  | array item => item.searchDepth + 1
  | record fields => fieldsSearchDepth fields + 3
termination_by structural shape => shape

/-- How far down whole numbers are looked for in fields, up to the first that holds one. -/
def fieldsSearchDepth : List (String × Shape) → Nat
  | [] => 0
  | (_, shape) :: rest =>
    if shape.holdsNumbers then shape.searchDepth
    else max shape.searchDepth (fieldsSearchDepth rest)
termination_by structural fields => fields

end

mutual

/-- How far down a value is taken apart when it is rebuilt. -/
def rebuildDepth : Shape → Nat
  | primitive name => searchDepth (primitive name) + 1
  | array item => item.rebuildDepth + 1
  | record fields =>
    max (fieldsSearchDepth fields + 4)
      (if anyHoldNumbers fields then fieldsRebuildDepth fields + 2 else 0)
termination_by structural shape => shape

/-- How far down the values of fields are taken apart. -/
def fieldsRebuildDepth : List (String × Shape) → Nat
  | [] => 0
  | (_, shape) :: rest => max shape.rebuildDepth (fieldsRebuildDepth rest)
termination_by structural fields => fields

end

theorem searchDepth_pos (shape : Shape) : 0 < shape.searchDepth := by
  cases shape with
  | primitive name =>
    rw [searchDepth]
    split <;> omega
  | array item => exact Nat.succ_pos _
  | record fields => exact Nat.succ_pos _

theorem searchDepth_lt_rebuildDepth (shape : Shape) : shape.searchDepth < shape.rebuildDepth := by
  induction shape with
  | primitive name => exact Nat.lt_succ_self _
  | array item inductionHypothesis => exact Nat.succ_lt_succ inductionHypothesis
  | record fields _ =>
    rw [searchDepth, rebuildDepth]
    omega

theorem rebuildDepth_pos (shape : Shape) : 0 < shape.rebuildDepth :=
  Nat.lt_of_le_of_lt (Nat.zero_le _) shape.searchDepth_lt_rebuildDepth

end Shape

/-- The value, unless it takes a greater depth than there is. -/
def withinDepth {α : Type} (needed depth : Nat) (value : α) : Except Fault α :=
  if needed ≤ depth then .ok value else .error (.defect .tooDeep)

theorem withinDepth_of_lt {α : Type} {needed depth : Nat} (deep : depth < needed) (value : α) :
    withinDepth needed depth value = .error (.defect .tooDeep) :=
  if_neg (Nat.not_le.mpr deep)

theorem withinDepth_succ {α : Type} (needed depth : Nat) (value : α) :
    withinDepth (needed + 1) (depth + 1) value = withinDepth needed depth value := by
  simp only [withinDepth, Nat.succ_le_succ_iff]

/-! ### Looking for numbers -/

section

variable {interfaces : List Interface}

/-- One pair of brackets lies one step down. -/
theorem searchNumbers_array (steps depth rank : Nat) (base : String) :
    searchNumbers interfaces (steps + 1) (depth + 1) ⟨base, rank + 1⟩ =
      searchNumbers interfaces (steps + 1) depth ⟨base, rank⟩ := by
  have deeper : depth + 1 - (rank + 1) - 3 = depth - rank - 3 := by omega
  simp only [searchNumbers, deeper, Nat.succ_lt_succ_iff, Nat.add_right_comm rank 1 3]

theorem searchNumbers_zero (steps : Nat) (ty : Ty) :
    searchNumbers interfaces steps 0 ty = .error (.defect .tooDeep) := by
  cases steps with
  | zero => rfl
  | succ steps => simp [searchNumbers]

/-- A search among fields goes as far down as the fields say, if the search in each of them
does. -/
theorem anyPasses_of_haveShapes {shapes : List (String × Shape)} {fields : List Field}
    (haveShapes : HaveShapes interfaces shapes fields) {depth : Nat}
    {test : Field → Except Fault Bool}
    (each : ∀ named ∈ shapes, ∀ field : Field, HasShape interfaces named.2 field.ty →
      test field = withinDepth named.2.searchDepth depth named.2.holdsNumbers) :
    anyPasses test fields =
      withinDepth (Shape.fieldsSearchDepth shapes) depth (Shape.anyHoldNumbers shapes) := by
  rw [haveShapes_iff] at haveShapes
  induction haveShapes with
  | nil => rfl
  | @cons named field shapes fields first _ inductionHypothesis =>
    have rest := inductionHypothesis fun named member => each named (List.mem_cons_of_mem _ member)
    rw [anyPasses, each named List.mem_cons_self field first.2, Shape.fieldsSearchDepth,
      Shape.anyHoldNumbers]
    by_cases shallow : named.2.searchDepth ≤ depth
    · cases holds : named.2.holdsNumbers with
      | true => simp [withinDepth, shallow]
      | false =>
        rw [withinDepth, if_pos shallow]
        simp only [rest, withinDepth, Bool.false_eq_true, if_false, Nat.max_le, shallow, true_and,
          Bool.false_or]
    · cases holds : named.2.holdsNumbers with
      | true => simp [withinDepth, shallow]
      | false => simp only [withinDepth, shallow, if_false, Nat.max_le, false_and,
          Bool.false_eq_true]

theorem searchNumbers_leaf {name : String}
    (leaf : name = bigintName ∨ findInterface? interfaces name = none) (steps depth : Nat) :
    searchNumbers interfaces (steps + 1) depth ⟨name, 0⟩ =
      withinDepth (Shape.primitive name).searchDepth depth (Shape.primitive name).holdsNumbers := by
  by_cases isNumber : name = bigintName
  · simp [searchNumbers, withinDepth, Shape.searchDepth, Shape.holdsNumbers, isNumber,
      Nat.succ_le_iff]
  · have notFound := leaf.resolve_left isNumber
    by_cases shallow : 3 ≤ depth
    · simp [searchNumbers, withinDepth, Shape.searchDepth, Shape.holdsNumbers, isNumber, shallow,
        notFound, Nat.not_lt.mpr shallow]
    · simp [searchNumbers, withinDepth, Shape.searchDepth, isNumber, shallow,
        Nat.not_le.mp shallow]

theorem searchNumbers_record {name : String} {interface : Interface}
    (noNumber : name ≠ bigintName) (found : findInterface? interfaces name = some interface)
    (steps depth : Nat) :
    searchNumbers interfaces (steps + 1) (depth + 3) ⟨name, 0⟩ =
      anyPasses (fun field => searchNumbers interfaces steps depth field.ty) interface.fields := by
  have deepEnough : ¬ depth + 3 < 3 := by omega
  simp [searchNumbers, noNumber, found, deepEnough]

/-- Within enough steps, a search goes as far down as the shape says. -/
theorem searchNumbers_of_hasShape {shape : Shape} {ty : Ty}
    (hasShape : HasShape interfaces shape ty) {steps depth : Nat} (enough : depth ≤ steps) :
    searchNumbers interfaces steps depth ty =
      withinDepth shape.searchDepth depth shape.holdsNumbers := by
  induction shape generalizing ty steps depth with
  | primitive name =>
    rw [HasShape] at hasShape
    obtain ⟨rfl, leaf⟩ := hasShape
    cases steps with
    | zero =>
      rw [Nat.le_zero.mp enough, searchNumbers_zero, withinDepth_of_lt (Shape.searchDepth_pos _)]
    | succ steps => exact searchNumbers_leaf leaf steps depth
  | array item inductionHypothesis =>
    obtain ⟨base, rank⟩ := ty
    rw [HasShape] at hasShape
    obtain ⟨rank, rfl, hasShape⟩ := hasShape
    cases depth with
    | zero => rw [searchNumbers_zero, withinDepth_of_lt (Shape.searchDepth_pos _)]
    | succ depth =>
      obtain ⟨steps, rfl⟩ := Nat.exists_eq_add_of_le' (Nat.le_trans (Nat.succ_pos depth) enough)
      rw [searchNumbers_array, inductionHypothesis hasShape (Nat.le_of_succ_le enough),
        Shape.searchDepth, withinDepth_succ, Shape.holdsNumbers]
  | record shapes inductionHypothesis =>
    obtain ⟨name, rank⟩ := ty
    rw [HasShape] at hasShape
    obtain ⟨rfl, noNumber, interface, found, haveShapes⟩ := hasShape
    by_cases shallow : 3 ≤ depth
    · obtain ⟨depth, rfl⟩ := Nat.exists_eq_add_of_le' shallow
      obtain ⟨steps, rfl⟩ := Nat.exists_eq_add_of_le' (Nat.le_trans (Nat.succ_pos _) enough)
      have below : depth ≤ steps := by omega
      rw [searchNumbers_record noNumber found, anyPasses_of_haveShapes haveShapes
        fun named member field isNamed => inductionHypothesis named member isNamed below]
      rw [Shape.searchDepth, withinDepth_succ, withinDepth_succ, withinDepth_succ,
        Shape.holdsNumbers]
    · have deep : depth < (Shape.record shapes).searchDepth :=
        Nat.lt_of_lt_of_le (Nat.not_le.mp shallow) (Nat.le_add_left 3 _)
      rw [withinDepth_of_lt deep]
      cases steps with
      | zero => rfl
      | succ steps => simp [searchNumbers, noNumber, Nat.not_le.mp shallow]

/-! ### Guarding -/

/-- One pair of brackets lies one step down. -/
theorem requireConvertible_array (steps depth rank : Nat) (base : String) :
    requireConvertible interfaces (steps + 1) (depth + 1) ⟨base, rank + 1⟩ =
      requireConvertible interfaces (steps + 1) depth ⟨base, rank⟩ := by
  have deeper : depth + 1 - (rank + 1) - 2 = depth - rank - 2 := by omega
  have searches : searchNumbers interfaces (steps + 1) depth ⟨base, rank + 1⟩ =
      searchNumbers interfaces (steps + 1) (depth - 1) ⟨base, rank⟩ := by
    cases depth with
    | zero => rw [searchNumbers_zero, searchNumbers_zero]
    | succ depth => exact searchNumbers_array steps depth rank base
  simp only [requireConvertible, Nat.add_sub_cancel, deeper, searches]

/-- Without a step down there is nothing that passes. -/
theorem requireConvertible_zero (steps : Nat) (ty : Ty) :
    requireConvertible interfaces steps 0 ty = .error (.defect .tooDeep) := by
  cases steps with
  | zero => rfl
  | succ steps =>
    rw [requireConvertible, searchNumbers_zero]
    rfl

/-- All fields pass if their shapes are not too deep. -/
theorem forM_of_haveShapes {shapes : List (String × Shape)} {fields : List Field}
    (haveShapes : HaveShapes interfaces shapes fields) {depth : Nat}
    {check : Field → Except Fault Unit}
    (each : ∀ named ∈ shapes, ∀ field : Field, HasShape interfaces named.2 field.ty →
      check field = withinDepth named.2.rebuildDepth depth ()) :
    fields.forM check = withinDepth (Shape.fieldsRebuildDepth shapes) depth () := by
  rw [haveShapes_iff] at haveShapes
  induction haveShapes with
  | nil => rfl
  | @cons named field shapes fields first _ inductionHypothesis =>
    have rest := inductionHypothesis fun named member => each named (List.mem_cons_of_mem _ member)
    show (check field >>= fun _ => fields.forM check) = _
    rw [each named List.mem_cons_self field first.2, rest, Shape.fieldsRebuildDepth]
    by_cases shallow : named.2.rebuildDepth ≤ depth
    · simp only [withinDepth, shallow, if_true, Nat.max_le, true_and]
      rfl
    · simp only [withinDepth, shallow, if_false, Nat.max_le, false_and]
      rfl

/-- A struct is searched first, and its fields are guarded if that finds a number; both together
go as far down as rebuilding the struct does. -/
theorem withinDepth_record (shapes : List (String × Shape)) (depth : Nat) :
    (withinDepth (Shape.record shapes).searchDepth depth (Shape.anyHoldNumbers shapes) >>=
      fun holds =>
        if holds then withinDepth (Shape.fieldsRebuildDepth shapes) (depth - 1) () else .ok ()) =
      withinDepth (Shape.record shapes).rebuildDepth (depth + 1) () := by
  rw [Shape.searchDepth, Shape.rebuildDepth]
  by_cases shallow : Shape.fieldsSearchDepth shapes + 3 ≤ depth
  · rw [withinDepth, if_pos shallow]
    cases Shape.anyHoldNumbers shapes with
    | true =>
      show withinDepth _ _ () = _
      simp only [withinDepth, if_true]
      congr 1
      rw [eq_iff_iff]
      omega
    | false =>
      show Except.ok () = _
      rw [withinDepth, if_pos]
      simp only [Bool.false_eq_true, if_false]
      omega
  · have deeper : depth + 1 < max (Shape.fieldsSearchDepth shapes + 4)
        (if Shape.anyHoldNumbers shapes then Shape.fieldsRebuildDepth shapes + 2 else 0) := by
      omega
    rw [withinDepth_of_lt (Nat.not_le.mp shallow), withinDepth_of_lt deeper]
    rfl

/-- Within enough steps, the guard measures how deep the shape is. -/
theorem requireConvertible_of_hasShape {shape : Shape} {ty : Ty}
    (hasShape : HasShape interfaces shape ty) {steps depth : Nat} (enough : depth ≤ steps) :
    requireConvertible interfaces steps depth ty = withinDepth shape.rebuildDepth depth () := by
  induction shape generalizing ty steps depth with
  | primitive name =>
    have searched := searchNumbers_of_hasShape hasShape
      (Nat.le_trans (Nat.sub_le depth 1) enough)
    rw [HasShape] at hasShape
    obtain ⟨rfl, _⟩ := hasShape
    cases depth with
    | zero => rw [requireConvertible_zero, withinDepth_of_lt (Shape.rebuildDepth_pos _)]
    | succ depth =>
      obtain ⟨steps, rfl⟩ := Nat.exists_eq_add_of_le' (Nat.le_trans (Nat.succ_pos depth) enough)
      rw [requireConvertible, searched, Shape.rebuildDepth, withinDepth_succ]
      by_cases shallow : (Shape.primitive name).searchDepth ≤ depth
      · simp only [Nat.add_sub_cancel, withinDepth, shallow, if_true, Shape.holdsNumbers, bne]
        cases name == bigintName <;> rfl
      · simp only [Nat.add_sub_cancel, withinDepth, shallow, if_false]
        rfl
  | array item inductionHypothesis =>
    obtain ⟨base, rank⟩ := ty
    rw [HasShape] at hasShape
    obtain ⟨rank, rfl, hasShape⟩ := hasShape
    cases depth with
    | zero => rw [requireConvertible_zero, withinDepth_of_lt (Shape.rebuildDepth_pos _)]
    | succ depth =>
      obtain ⟨steps, rfl⟩ := Nat.exists_eq_add_of_le' (Nat.le_trans (Nat.succ_pos depth) enough)
      rw [requireConvertible_array, inductionHypothesis hasShape (Nat.le_of_succ_le enough),
        Shape.rebuildDepth, withinDepth_succ]
  | record shapes inductionHypothesis =>
    have searched := searchNumbers_of_hasShape hasShape
      (Nat.le_trans (Nat.sub_le depth 1) enough)
    obtain ⟨name, rank⟩ := ty
    rw [HasShape] at hasShape
    obtain ⟨rfl, noNumber, interface, found, haveShapes⟩ := hasShape
    cases depth with
    | zero => rw [requireConvertible_zero, withinDepth_of_lt (Shape.rebuildDepth_pos _)]
    | succ depth =>
      obtain ⟨steps, rfl⟩ := Nat.exists_eq_add_of_le' (Nat.le_trans (Nat.succ_pos depth) enough)
      have below : depth + 1 - 0 - 2 ≤ steps := by omega
      have each := forM_of_haveShapes haveShapes
        fun named member field isNamed => inductionHypothesis named member isNamed below
      have other : (name != bigintName) = true := bne_iff_ne.mpr noNumber
      rw [requireConvertible, searched]
      simp only [Nat.add_sub_cancel, found, Option.map_some, Option.getD_some, other, Bool.and_true,
        Shape.holdsNumbers, each]
      exact withinDepth_record shapes depth

/-! ### Types without a shape -/

/-- Fields that all have a shape have shapes in their order. -/
theorem exists_haveShapes {fields : List Field}
    (each : ∀ field ∈ fields, ∃ shape, HasShape interfaces shape field.ty) :
    ∃ shapes, HaveShapes interfaces shapes fields := by
  induction fields with
  | nil => exact ⟨[], by rw [HaveShapes]⟩
  | cons field fields inductionHypothesis =>
    obtain ⟨shape, hasShape⟩ := each field List.mem_cons_self
    obtain ⟨shapes, haveShapes⟩ :=
      inductionHypothesis fun other member => each other (List.mem_cons_of_mem _ member)
    refine ⟨(field.name, shape) :: shapes, ?_⟩
    rw [HaveShapes]
    exact ⟨field, fields, rfl, rfl, hasShape, haveShapes⟩

/-- The shape of a type is that of its name, as an array. -/
theorem exists_hasShape {ty : Ty} (base : ∃ shape, HasShape interfaces shape ⟨ty.base, 0⟩) :
    ∃ shape, HasShape interfaces shape ty := by
  obtain ⟨shape, hasShape⟩ := base
  refine ⟨shape.arrays ty.rank, ?_⟩
  have arrays := hasShape.arrays ty.rank
  rwa [Ty.arrays, Nat.zero_add] at arrays

theorem anyPasses_eq_false {fields : List Field} {test : Field → Except Fault Bool}
    (none : anyPasses test fields = .ok false) : ∀ field ∈ fields, test field = .ok false := by
  induction fields with
  | nil => exact nofun
  | cons field fields inductionHypothesis =>
    rw [anyPasses] at none
    intro other member
    cases tested : test field with
    | error fault => simp [tested] at none
    | ok holds =>
      cases holds with
      | true => simp [tested] at none
      | false =>
        rw [tested] at none
        rcases List.mem_cons.mp member with rfl | member
        · exact tested
        · exact inductionHypothesis none other member

/-- A search that ends without a number has gone through the whole shape. -/
theorem exists_hasShape_of_searchNumbers {steps depth : Nat} {ty : Ty}
    (none : searchNumbers interfaces steps depth ty = .ok false) :
    ∃ shape, HasShape interfaces shape ty := by
  induction steps generalizing depth ty with
  | zero => cases none
  | succ steps inductionHypothesis =>
    apply exists_hasShape
    rw [searchNumbers] at none
    by_cases isNumber : ty.base = bigintName
    · exact ⟨.primitive ty.base, (hasShape_leaf (.inl isNumber)).mpr rfl⟩
    · cases found : findInterface? interfaces ty.base with
      | none => exact ⟨.primitive ty.base, (hasShape_leaf (.inr found)).mpr rfl⟩
      | some interface =>
        rw [if_neg isNumber] at none
        split at none
        · cases none
        · simp only [found] at none
          obtain ⟨shapes, haveShapes⟩ := exists_haveShapes fun field member =>
            inductionHypothesis (anyPasses_eq_false none field member)
          exact ⟨.record shapes, (hasShape_record isNumber found).mpr ⟨shapes, rfl, haveShapes⟩⟩

theorem forM_eq_ok {fields : List Field} {check : Field → Except Fault Unit}
    (passes : fields.forM check = .ok ()) : ∀ field ∈ fields, check field = .ok () := by
  induction fields with
  | nil => exact nofun
  | cons field fields inductionHypothesis =>
    have both : (check field >>= fun _ => fields.forM check) = .ok () := passes
    intro other member
    cases checked : check field with
    | error fault => rw [checked] at both; cases both
    | ok _ =>
      rw [checked] at both
      rcases List.mem_cons.mp member with rfl | member
      · exact checked
      · exact inductionHypothesis both other member

/-- What passes the guard has a shape. -/
theorem exists_hasShape_of_requireConvertible {steps depth : Nat} {ty : Ty}
    (passes : requireConvertible interfaces steps depth ty = .ok ()) :
    ∃ shape, HasShape interfaces shape ty := by
  induction steps generalizing depth ty with
  | zero => cases passes
  | succ steps inductionHypothesis =>
    rw [requireConvertible] at passes
    cases searched : searchNumbers interfaces (steps + 1) (depth - 1) ty with
    | error fault => rw [searched] at passes; cases passes
    | ok holds =>
      cases holds with
      | false => exact exists_hasShape_of_searchNumbers searched
      | true =>
        apply exists_hasShape
        by_cases isNumber : ty.base = bigintName
        · exact ⟨.primitive ty.base, (hasShape_leaf (.inl isNumber)).mpr rfl⟩
        · cases found : findInterface? interfaces ty.base with
          | none => exact ⟨.primitive ty.base, (hasShape_leaf (.inr found)).mpr rfl⟩
          | some interface =>
            rw [searched] at passes
            have other : (ty.base != bigintName) = true := bne_iff_ne.mpr isNumber
            have checked : (interface.fields.forM fun field =>
                requireConvertible interfaces steps (depth - ty.rank - 2) field.ty) = .ok () := by
              simp only [found, other, Bool.and_true, Option.map_some, Option.getD_some] at passes
              exact passes
            obtain ⟨shapes, haveShapes⟩ := exists_haveShapes fun field member =>
              inductionHypothesis (forM_eq_ok checked field member)
            exact ⟨.record shapes, (hasShape_record isNumber found).mpr ⟨shapes, rfl, haveShapes⟩⟩

theorem anyPasses_error {fields : List Field} {test : Field → Except Fault Bool}
    (each : ∀ field fault, test field = .error fault → fault = .defect .tooDeep) {fault : Fault}
    (fails : anyPasses test fields = .error fault) : fault = .defect .tooDeep := by
  induction fields with
  | nil => cases fails
  | cons field fields inductionHypothesis =>
    rw [anyPasses] at fails
    cases tested : test field with
    | error other =>
      rw [tested] at fails
      cases fails
      exact each field fault tested
    | ok holds =>
      cases holds with
      | true => simp [tested] at fails
      | false =>
        rw [tested] at fails
        exact inductionHypothesis fails

theorem searchNumbers_error {steps depth : Nat} {ty : Ty} {fault : Fault}
    (fails : searchNumbers interfaces steps depth ty = .error fault) :
    fault = .defect .tooDeep := by
  induction steps generalizing depth ty fault with
  | zero => cases fails; rfl
  | succ steps inductionHypothesis =>
    rw [searchNumbers] at fails
    split at fails
    · split at fails <;> cases fails
      rfl
    · split at fails
      · cases fails; rfl
      · split at fails
        · cases fails
        · exact anyPasses_error (fun field other => inductionHypothesis) fails

theorem forM_error {fields : List Field} {check : Field → Except Fault Unit}
    (each : ∀ field fault, check field = .error fault → fault = .defect .tooDeep) {fault : Fault}
    (fails : fields.forM check = .error fault) : fault = .defect .tooDeep := by
  induction fields with
  | nil => cases fails
  | cons field fields inductionHypothesis =>
    have both : (check field >>= fun _ => fields.forM check) = .error fault := fails
    cases checked : check field with
    | error other =>
      rw [checked] at both
      cases both
      exact each field fault checked
    | ok _ =>
      rw [checked] at both
      exact inductionHypothesis both

/-- There is one way to fail. -/
theorem requireConvertible_error {steps depth : Nat} {ty : Ty} {fault : Fault}
    (fails : requireConvertible interfaces steps depth ty = .error fault) :
    fault = .defect .tooDeep := by
  induction steps generalizing depth ty fault with
  | zero => cases fails; rfl
  | succ steps inductionHypothesis =>
    rw [requireConvertible] at fails
    cases searched : searchNumbers interfaces (steps + 1) (depth - 1) ty with
    | error other =>
      rw [searched] at fails
      cases fails
      exact searchNumbers_error searched
    | ok holds =>
      rw [searched] at fails
      change (if (holds && ty.base != bigintName) = true then _ else _) = _ at fails
      split at fails
      · exact forM_error (fun field other => inductionHypothesis) fails
      · cases fails

/-- A type passes the guard exactly if it has a shape that is not too deep. -/
theorem requireConvertible_eq_ok_iff {steps depth : Nat} (enough : depth ≤ steps) {ty : Ty} :
    requireConvertible interfaces steps depth ty = .ok () ↔
      ∃ shape, HasShape interfaces shape ty ∧ shape.rebuildDepth ≤ depth := by
  constructor
  · intro passes
    obtain ⟨shape, hasShape⟩ := exists_hasShape_of_requireConvertible passes
    refine ⟨shape, hasShape, ?_⟩
    by_contra deep
    rw [requireConvertible_of_hasShape hasShape enough,
      withinDepth_of_lt (Nat.not_le.mp deep)] at passes
    cases passes
  · rintro ⟨shape, hasShape, shallow⟩
    rw [requireConvertible_of_hasShape hasShape enough, withinDepth, if_pos shallow]

end

end ContractClient
