/-
This file follows the rebuilding of a value along its shape. No path through a shape comes to one
interface twice, so that there are never more records in one another than there are interfaces,
and the steps that the rebuilding has are enough. What it gives is a function of the shape alone
(`rebuildResult_of_hasShape`); where there is no shape, it fails as if it were too deep.
-/

import ContractClient.Proofs.Conversion.Depth

namespace ContractClient

/-! ### Records in one another -/

namespace Shape

mutual

/-- How many records lie in one another. -/
def levels : Shape → Nat
  | primitive _ => 0
  | array item => item.levels
  | record fields => fieldsLevels fields + 1
termination_by structural shape => shape

/-- How many records lie in one another in any of the fields. -/
def fieldsLevels : List (String × Shape) → Nat
  | [] => 0
  | (_, shape) :: rest => max shape.levels (fieldsLevels rest)
termination_by structural fields => fields

end

theorem levels_le_fieldsLevels {fields : List (String × Shape)} {named : String × Shape}
    (member : named ∈ fields) : named.2.levels ≤ fieldsLevels fields := by
  induction fields with
  | nil => cases member
  | cons field fields inductionHypothesis =>
    rw [fieldsLevels]
    rcases List.mem_cons.mp member with rfl | member
    · exact Nat.le_max_left _ _
    · exact Nat.le_trans (inductionHypothesis member) (Nat.le_max_right _ _)

theorem fieldsLevels_le {fields : List (String × Shape)} {bound : Nat}
    (each : ∀ named ∈ fields, named.2.levels ≤ bound) : fieldsLevels fields ≤ bound := by
  induction fields with
  | nil => exact Nat.zero_le bound
  | cons field fields inductionHypothesis =>
    rw [fieldsLevels]
    exact Nat.max_le.mpr ⟨each field List.mem_cons_self,
      inductionHypothesis fun named member => each named (List.mem_cons_of_mem _ member)⟩

end Shape

section

variable {interfaces : List Interface}

theorem HaveShapes.exists_field {shapes : List (String × Shape)} {fields : List Field}
    (haveShapes : HaveShapes interfaces shapes fields) {named : String × Shape}
    (member : named ∈ shapes) : ∃ field ∈ fields, HasShape interfaces named.2 field.ty := by
  rw [haveShapes_iff] at haveShapes
  induction haveShapes with
  | nil => cases member
  | @cons other field shapes fields first _ inductionHypothesis =>
    rcases List.mem_cons.mp member with rfl | member
    · exact ⟨field, List.mem_cons_self, first.2⟩
    · obtain ⟨field, isField, hasShape⟩ := inductionHypothesis member
      exact ⟨field, List.mem_cons_of_mem _ isField, hasShape⟩

/-- Distinct names of interfaces are no more than there are interfaces. -/
theorem length_le_of_names {path : List String} (distinct : path.Nodup)
    (names : ∀ name ∈ path, ∃ interface, findInterface? interfaces name = some interface) :
    path.length ≤ interfaces.length := by
  have among : path ⊆ interfaces.map (·.name) := by
    intro name member
    obtain ⟨interface, found⟩ := names name member
    have same : interface.name = name := by simpa using List.find?_some found
    exact List.mem_map.mpr ⟨interface, List.mem_of_find?_eq_some found, same⟩
  have shorter := (List.subperm_of_subset distinct among).length_le
  rwa [List.length_map] at shorter

/-- Behind a path of interfaces whose shapes have more levels each than what comes next, no more
levels follow than there are interfaces left. -/
theorem HasShape.length_add_levels_le {shape : Shape} {ty : Ty}
    (hasShape : HasShape interfaces shape ty) {path : List String} (distinct : path.Nodup)
    (names : ∀ name ∈ path, ∃ interface, findInterface? interfaces name = some interface)
    (above : ∀ name ∈ path, ∀ other, HasShape interfaces other ⟨name, 0⟩ →
      shape.levels < other.levels) :
    path.length + shape.levels ≤ interfaces.length := by
  induction shape generalizing ty path with
  | primitive name => exact length_le_of_names distinct names
  | array item inductionHypothesis =>
    rw [HasShape] at hasShape
    obtain ⟨rank, _, hasShape⟩ := hasShape
    exact inductionHypothesis hasShape distinct names above
  | record shapes inductionHypothesis =>
    obtain ⟨name, rank⟩ := ty
    have isRecord := hasShape
    rw [HasShape] at hasShape
    obtain ⟨rfl, noNumber, interface, found, haveShapes⟩ := hasShape
    have new : name ∉ path := fun member => Nat.lt_irrefl _ (above name member _ isRecord)
    have distinctBelow : (name :: path).Nodup := List.nodup_cons.mpr ⟨new, distinct⟩
    have namesBelow : ∀ other ∈ name :: path,
        ∃ interface, findInterface? interfaces other = some interface := by
      intro other member
      rcases List.mem_cons.mp member with rfl | member
      · exact ⟨interface, found⟩
      · exact names other member
    have room := length_le_of_names distinctBelow namesBelow
    have below : Shape.fieldsLevels shapes ≤ interfaces.length - (path.length + 1) := by
      refine Shape.fieldsLevels_le fun named member => ?_
      obtain ⟨field, _, fieldShape⟩ := haveShapes.exists_field member
      have lower : named.2.levels < (Shape.record shapes).levels :=
        Nat.lt_succ_of_le (Shape.levels_le_fieldsLevels member)
      have bound := inductionHypothesis named member fieldShape distinctBelow namesBelow (by
        intro other isAbove shape hasShape
        rcases List.mem_cons.mp isAbove with rfl | isAbove
        · exact (isRecord.unique hasShape) ▸ lower
        · exact Nat.lt_trans lower (above other isAbove shape hasShape))
      rw [List.length_cons] at bound
      omega
    rw [List.length_cons] at room
    rw [Shape.levels]
    omega

/-- There are no more records in one another than there are interfaces. -/
theorem HasShape.levels_le {shape : Shape} {ty : Ty} (hasShape : HasShape interfaces shape ty) :
    shape.levels ≤ interfaces.length := by
  have bound := hasShape.length_add_levels_le List.nodup_nil nofun nofun
  rwa [List.length_nil, Nat.zero_add] at bound

end

/-! ### Rebuilding along a shape -/

namespace Shape

mutual

/-- The expression that rebuilds a value of the shape at the given depth of lists. -/
def rebuild : Shape → Int → Expr → Expr
  | primitive name, _, value => if name = bigintName then .bigInt value else value
  | array item, depth, value =>
    if item.holdsNumbers then
      .map value (itemName depth) (item.rebuild (depth + 1) (.variable (itemName depth)))
    else value
  | record fields, depth, value =>
    if anyHoldNumbers fields then .object (rebuildFields fields depth value) else value
termination_by structural shape => shape

/-- The properties of a rebuilt object, one for each field. -/
def rebuildFields : List (String × Shape) → Int → Expr → List (String × Expr)
  | [], _, _ => []
  | (name, shape) :: rest, depth, value =>
    (name, shape.rebuild depth (.property value name)) :: rebuildFields rest depth value
termination_by structural fields => fields

end

end Shape

section

variable {interfaces : List Interface}

theorem anyPasses_of_shapes {shapes : List (String × Shape)} {fields : List Field}
    (haveShapes : HaveShapes interfaces shapes fields) {test : Field → Except Fault Bool}
    (each : ∀ named ∈ shapes, ∀ field : Field, HasShape interfaces named.2 field.ty →
      test field = .ok named.2.holdsNumbers) :
    anyPasses test fields = .ok (Shape.anyHoldNumbers shapes) := by
  rw [haveShapes_iff] at haveShapes
  induction haveShapes with
  | nil => rfl
  | @cons named field shapes fields first _ inductionHypothesis =>
    rw [anyPasses, each named List.mem_cons_self field first.2, Shape.anyHoldNumbers]
    cases named.2.holdsNumbers with
    | true => rfl
    | false =>
      exact inductionHypothesis fun named member => each named (List.mem_cons_of_mem _ member)

/-- Within more steps than there are levels, the search for numbers tells whether there are
any. -/
theorem holdsNumbers_of_hasShape {shape : Shape} {ty : Ty}
    (hasShape : HasShape interfaces shape ty) {steps : Nat} (enough : shape.levels < steps) :
    holdsNumbers interfaces steps ty.base = .ok shape.holdsNumbers := by
  induction shape generalizing ty steps with
  | primitive name =>
    rw [HasShape] at hasShape
    obtain ⟨rfl, leaf⟩ := hasShape
    obtain ⟨steps, rfl⟩ := Nat.exists_eq_add_of_le' enough
    by_cases isNumber : name = bigintName
    · simp [holdsNumbers, Shape.holdsNumbers, isNumber]
    · simp [holdsNumbers, Shape.holdsNumbers, isNumber, leaf.resolve_left isNumber]
  | array item inductionHypothesis =>
    rw [HasShape] at hasShape
    obtain ⟨rank, _, hasShape⟩ := hasShape
    exact inductionHypothesis hasShape enough
  | record shapes inductionHypothesis =>
    rw [HasShape] at hasShape
    obtain ⟨_, noNumber, interface, found, haveShapes⟩ := hasShape
    obtain ⟨steps, rfl⟩ := Nat.exists_eq_add_of_le' (Nat.le_trans (Nat.succ_pos _) enough)
    rw [Shape.levels, Nat.succ_lt_succ_iff] at enough
    simp only [holdsNumbers, noNumber, found, if_false, Shape.holdsNumbers]
    refine anyPasses_of_shapes haveShapes fun named member field isNamed => ?_
    exact inductionHypothesis named member isNamed
      (Nat.lt_of_le_of_lt (Shape.levels_le_fieldsLevels member) enough)

/-- What a rebuilding does with a type of which it is known whether it holds numbers. -/
theorem convertWithin_run {steps : Nat} {base : String} {holds : Bool}
    (holdsNumbers : holdsNumbers interfaces (interfaces.length + 1) base = .ok holds)
    (rank : Nat) (depth : Int) (value : Expr) :
    convertWithin interfaces (steps + 1) ⟨base, rank⟩ depth value =
      if holds then
        convertList
          (fun depth value =>
            if base = bigintName then return .bigInt value
            else do
              let fields := ((findInterface? interfaces base).map (·.fields)).getD []
              let properties ← fields.mapM fun field => do
                let rebuilt ←
                  convertWithin interfaces steps field.ty depth (.property value field.name)
                return (field.name, rebuilt)
              return .object properties)
          rank depth value
      else .ok value := by
  rw [convertWithin, holdsNumbers]
  cases holds <;> rfl

/-- One pair of brackets is one list. -/
theorem convertWithin_array {steps : Nat} {base : String} {holds : Bool}
    (holdsNumbers : holdsNumbers interfaces (interfaces.length + 1) base = .ok holds)
    (rank : Nat) (depth : Int) (value : Expr) :
    convertWithin interfaces (steps + 1) ⟨base, rank + 1⟩ depth value =
      if holds then do
        let image ← convertWithin interfaces (steps + 1) ⟨base, rank⟩ (depth + 1)
          (.variable (itemName depth))
        return .map value (itemName depth) image
      else .ok value := by
  rw [convertWithin_run holdsNumbers, convertWithin_run holdsNumbers]
  cases holds <;> rfl

theorem mapM_of_haveShapes {shapes : List (String × Shape)} {fields : List Field}
    (haveShapes : HaveShapes interfaces shapes fields) (depth : Int) (value : Expr)
    (convert : Ty → Expr → Except Fault Expr)
    (each : ∀ named ∈ shapes, ∀ field : Field, HasShape interfaces named.2 field.ty →
      convert field.ty (.property value field.name) =
        .ok (named.2.rebuild depth (.property value field.name))) :
    (fields.mapM fun field => do
        let rebuilt ← convert field.ty (.property value field.name)
        return (field.name, rebuilt)) =
      .ok (Shape.rebuildFields shapes depth value) := by
  rw [haveShapes_iff] at haveShapes
  induction haveShapes with
  | nil => rfl
  | @cons named field shapes fields first _ inductionHypothesis =>
    have rest := inductionHypothesis fun named member => each named (List.mem_cons_of_mem _ member)
    rw [List.mapM_cons, rest, each named List.mem_cons_self field first.2, first.1]
    rfl

/-- Within more steps than there are levels, a value is rebuilt along its shape. -/
theorem convertWithin_of_hasShape {shape : Shape} {ty : Ty}
    (hasShape : HasShape interfaces shape ty) {steps : Nat} (enough : shape.levels < steps)
    (depth : Int) (value : Expr) :
    convertWithin interfaces steps ty depth value = .ok (shape.rebuild depth value) := by
  have holds := holdsNumbers_of_hasShape hasShape (Nat.lt_succ_of_le hasShape.levels_le)
  induction shape generalizing ty steps depth value with
  | primitive name =>
    obtain ⟨steps, rfl⟩ := Nat.exists_eq_add_of_le' (Nat.le_trans (Nat.succ_pos _) enough)
    rw [HasShape] at hasShape
    obtain ⟨rfl, _⟩ := hasShape
    rw [convertWithin_run holds, Shape.rebuild, Shape.holdsNumbers]
    by_cases isNumber : name = bigintName
    · simp only [isNumber, beq_self_eq_true, if_true]
      rfl
    · rw [beq_eq_false_iff_ne.mpr isNumber, if_neg Bool.false_ne_true, if_neg isNumber]
  | array item inductionHypothesis =>
    obtain ⟨steps, rfl⟩ := Nat.exists_eq_add_of_le' (Nat.le_trans (Nat.succ_pos _) enough)
    obtain ⟨base, rank⟩ := ty
    rw [HasShape] at hasShape
    obtain ⟨rank, rfl, hasShape⟩ := hasShape
    rw [convertWithin_array holds, Shape.holdsNumbers, Shape.rebuild,
      inductionHypothesis hasShape enough (depth + 1) _ holds]
    split <;> rfl
  | record shapes inductionHypothesis =>
    obtain ⟨steps, rfl⟩ := Nat.exists_eq_add_of_le' (Nat.le_trans (Nat.succ_pos _) enough)
    obtain ⟨name, rank⟩ := ty
    rw [HasShape] at hasShape
    obtain ⟨rfl, noNumber, interface, found, haveShapes⟩ := hasShape
    rw [Shape.levels, Nat.succ_lt_succ_iff] at enough
    have properties := mapM_of_haveShapes haveShapes depth value
      (fun ty value => convertWithin interfaces steps ty depth value)
      (fun named member field isNamed => inductionHypothesis named member isNamed
        (Nat.lt_of_le_of_lt (Shape.levels_le_fieldsLevels member) enough) depth _
        (holdsNumbers_of_hasShape isNamed (Nat.lt_succ_of_le isNamed.levels_le)))
    rw [convertWithin_run holds, Shape.holdsNumbers, Shape.rebuild, convertList]
    simp only [noNumber, if_false, found, Option.map_some, Option.getD_some, properties]
    split <;> rfl

/-- A value of a shape is rebuilt along it, unless that goes too deep. -/
theorem rebuildResult_of_hasShape {shape : Shape} {ty : Ty}
    (hasShape : HasShape interfaces shape ty) (value : Expr) (depth : Int) :
    rebuildResult interfaces value ty depth =
      withinDepth shape.rebuildDepth convertibleDepth (shape.rebuild depth value) := by
  have converts := convertWithin_of_hasShape hasShape (Nat.lt_succ_of_le hasShape.levels_le)
    depth value
  rw [rebuildResult, requireConvertible_of_hasShape hasShape (Nat.le_refl _), convertResult,
    converts]
  unfold withinDepth
  split <;> rfl

/-- A value without a shape is never rebuilt. -/
theorem rebuildResult_of_not_hasShape {ty : Ty} (none : ∀ shape, ¬HasShape interfaces shape ty)
    (value : Expr) (depth : Int) :
    rebuildResult interfaces value ty depth = .error (.defect .tooDeep) := by
  rw [rebuildResult]
  cases guarded : requireConvertible interfaces convertibleDepth convertibleDepth ty with
  | ok _ =>
    obtain ⟨shape, hasShape⟩ := exists_hasShape_of_requireConvertible guarded
    exact absurd hasShape (none shape)
  | error fault =>
    rw [requireConvertible_error guarded]
    rfl

end

end ContractClient
