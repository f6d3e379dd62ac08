/-
This file says what the expressions that rebuild a value mean, and proves that they mean what they
should: every leaf that is a whole number is made one, at every depth of arrays and records, all
else stays as it is, and a rebuilt object has just the properties of its record
(`Shape.evaluate_rebuild`). The expressions are properly scoped as well: under an arrow only its
own variable and those around it occur, no two of which bear the same name, and no body of an
arrow begins as a block would (`Shape.rebuild_proper`).

Both hold of every type that is given in a run that asks for plain names, as far down as values
can be taken apart at all (`runEvents_rebuild`).
-/

import ContractClient.Proofs.Abi.TypeTag
import ContractClient.Proofs.Conversion.Rebuilding
import ContractClient.Proofs.Shape.Sharing

namespace ContractClient

/-! ### Values -/

/-- A value: a leaf, a list, or an object. -/
inductive Value (α : Type) where
  | leaf (raw : α)
  | list (items : List (Value α))
  | object (properties : List (String × Value α))

section

variable {α : Type}

mutual

/-- The value is a raw one of the shape. An object may have more properties than the record. -/
def Shape.Fits : Shape → Value α → Prop
  | .primitive _, value => ∃ raw, value = .leaf raw
  | .array item, value => ∃ items, value = .list items ∧ ∀ one ∈ items, item.Fits one
  | .record fields, value => ∃ properties, value = .object properties ∧ FieldsFit fields properties
termination_by structural shape => shape

/-- There is a property of its shape for each of the fields. -/
def FieldsFit : List (String × Shape) → List (String × Value α) → Prop
  | [], _ => True
  | (name, shape) :: rest, properties =>
    (∃ value, properties.lookup name = some value ∧ shape.Fits value) ∧ FieldsFit rest properties
termination_by structural fields => fields

end

mutual

/-- The value with every whole number in it made one. Where there is none, the value stays as it
is; an object is put together anew of the fields of its record. -/
def Shape.convert (bigInt : α → α) : Shape → Value α → Value α
  | .primitive name, .leaf raw => .leaf (if name = bigintName then bigInt raw else raw)
  | .array item, .list items =>
    if item.holdsNumbers then .list (items.map fun one => item.convert bigInt one)
    else .list items
  | .record fields, .object properties =>
    if Shape.anyHoldNumbers fields then .object (convertFields bigInt fields properties)
    else .object properties
  | _, value => value
termination_by structural shape => shape

/-- The properties of the fields, with every whole number in them made one. -/
def convertFields (bigInt : α → α) :
    List (String × Shape) → List (String × Value α) → List (String × Value α)
  | [], _ => []
  | (name, shape) :: rest, properties =>
    match properties.lookup name with
    | some value => (name, shape.convert bigInt value) :: convertFields bigInt rest properties
    | none => convertFields bigInt rest properties
termination_by structural fields => fields

end

/-! ### Evaluation -/

mutual

/-- The value of an expression, where the source has the given value, and the variables those that
are bound, the innermost first. -/
def Expr.evaluate (bigInt : α → α) (source : Value α) :
    Expr → List (String × Value α) → Option (Value α)
  | .source _, _ => some source
  | .variable name, bound => bound.lookup name
  | .property value name, bound =>
    match value.evaluate bigInt source bound with
    | some (.object properties) => properties.lookup name
    | _ => none
  | .bigInt value, bound =>
    match value.evaluate bigInt source bound with
    | some (.leaf raw) => some (.leaf (bigInt raw))
    | _ => none
  | .map list item image, bound =>
    match list.evaluate bigInt source bound with
    | some (.list items) =>
      (items.mapM fun one => image.evaluate bigInt source ((item, one) :: bound)).map .list
    | _ => none
  | .object properties, bound => (evaluateProperties bigInt source properties bound).map .object
termination_by structural expression => expression

/-- The values of the properties of an object. -/
def evaluateProperties (bigInt : α → α) (source : Value α) :
    List (String × Expr) → List (String × Value α) → Option (List (String × Value α))
  | [], _ => some []
  | (name, expression) :: rest, bound => do
    let value ← expression.evaluate bigInt source bound
    let values ← evaluateProperties bigInt source rest bound
    return (name, value) :: values
termination_by structural properties => properties

end

/-- The properties of a rebuilt object have the values of the converted fields, if each field is
rebuilt to its converted value. -/
theorem evaluateProperties_rebuildFields {bigInt : α → α} {source : Value α} (depth : Int)
    {value : Expr} {bound properties : List (String × Value α)} {fields : List (String × Shape)}
    (evaluates : value.evaluate bigInt source bound = some (.object properties))
    (fit : FieldsFit fields properties)
    (each : ∀ named ∈ fields, ∀ expression raw, named.2.Fits raw →
      expression.evaluate bigInt source bound = some raw →
        (named.2.rebuild depth expression).evaluate bigInt source bound =
          some (named.2.convert bigInt raw)) :
    evaluateProperties bigInt source (Shape.rebuildFields fields depth value) bound =
      some (convertFields bigInt fields properties) := by
  induction fields with
  | nil => rfl
  | cons field fields inductionHypothesis =>
    obtain ⟨name, shape⟩ := field
    rw [FieldsFit] at fit
    obtain ⟨⟨raw, found, fits⟩, fit⟩ := fit
    have rest := inductionHypothesis fit fun named member =>
      each named (List.mem_cons_of_mem _ member)
    have property : (Expr.property value name).evaluate bigInt source bound = some raw := by
      rw [Expr.evaluate, evaluates]
      exact found
    rw [Shape.rebuildFields, evaluateProperties, rest,
      each (name, shape) List.mem_cons_self _ raw fits property, convertFields, found]
    rfl

theorem mapM_eq_some_map {β γ : Type} {step : β → Option γ} {result : β → γ} {items : List β}
    (each : ∀ item ∈ items, step item = some (result item)) :
    items.mapM step = some (items.map result) := by
  induction items with
  | nil => rfl
  | cons item items inductionHypothesis =>
    rw [List.mapM_cons, each item List.mem_cons_self,
      inductionHypothesis fun other member => each other (List.mem_cons_of_mem _ member)]
    rfl

/-- The rebuilt expression has the converted value. -/
theorem Shape.evaluate_rebuild {bigInt : α → α} {source : Value α} {shape : Shape} {raw : Value α}
    (fits : shape.Fits raw) {depth : Int} {value : Expr} {bound : List (String × Value α)}
    (evaluates : value.evaluate bigInt source bound = some raw) :
    (shape.rebuild depth value).evaluate bigInt source bound =
      some (shape.convert bigInt raw) := by
  induction shape generalizing raw depth value bound with
  | primitive name =>
    rw [Fits] at fits
    obtain ⟨leaf, rfl⟩ := fits
    rw [rebuild, convert]
    by_cases isNumber : name = bigintName
    · rw [if_pos isNumber, if_pos isNumber, Expr.evaluate, evaluates]
    · rw [if_neg isNumber, if_neg isNumber, evaluates]
  | array item inductionHypothesis =>
    rw [Fits] at fits
    obtain ⟨items, rfl, fits⟩ := fits
    rw [rebuild, convert]
    cases item.holdsNumbers with
    | false => exact evaluates
    | true =>
      have images : (items.mapM fun one =>
          (item.rebuild (depth + 1) (.variable (itemName depth))).evaluate bigInt source
            ((itemName depth, one) :: bound)) =
          some (items.map fun one => item.convert bigInt one) := by
        refine mapM_eq_some_map fun one member => inductionHypothesis (fits one member) ?_
        rw [Expr.evaluate, List.lookup_cons_self]
      simp only [if_true, Expr.evaluate, evaluates, images, Option.map_some]
  | record fields inductionHypothesis =>
    rw [Fits] at fits
    obtain ⟨properties, rfl, fit⟩ := fits
    rw [rebuild, convert]
    cases anyHoldNumbers fields with
    | false => exact evaluates
    | true =>
      have values := evaluateProperties_rebuildFields depth evaluates fit
        fun named member expression raw fits => inductionHypothesis named member fits
      simp only [if_true, Expr.evaluate, values, Option.map_some]

end

/-! ### Scopes -/

/-- The arrow of a `map` is written with a body that does not begin as a block would; an object
stands in parentheses. -/
def Expr.Enclosed (list : Expr) (item : String) (image : Expr) : Prop :=
  ∃ body, (Expr.map list item image).text =
      list.text ++ ".map((" ++ item ++ ": any) => " ++ body ++ ")" ∧
    (image.isObject → body = "(" ++ image.text ++ ")") ∧ body.toList.head? ≠ some '\x7b'

/-- Under arrows that bind the names, the innermost first, the expression is built of the source
outside of all arrows and of bound variables inside; no arrow binds a name again, and every
arrow is written as it must be. -/
inductive Expr.Proper (source : String) : List String → Expr → Prop
  | source : Proper source [] (.source source)
  | variable {bound : List String} {name : String} : name ∈ bound →
      Proper source bound (.variable name)
  | property {bound : List String} {value : Expr} (name : String) : Proper source bound value →
      Proper source bound (.property value name)
  | bigInt {bound : List String} {value : Expr} : Proper source bound value →
      Proper source bound (.bigInt value)
  | map {bound : List String} {list image : Expr} {item : String} : Proper source bound list →
      item ∉ bound → Proper source (item :: bound) image → Expr.Enclosed list item image →
      Proper source bound (.map list item image)
  | object {bound : List String} {properties : List (String × Expr)} :
      (∀ property ∈ properties, Proper source bound property.2) →
      Proper source bound (.object properties)

theorem itemName_injective {left right : Int} (same : itemName left = itemName right) :
    left = right := by
  unfold itemName at same
  by_cases leftZero : left = 0
  · by_cases rightZero : right = 0
    · rw [leftZero, rightZero]
    · rw [if_pos leftZero, if_neg rightZero] at same
      have none : toString right = "" := by simpa using congrArg String.toList same
      exact absurd none (toString_int_ne_empty right)
  · by_cases rightZero : right = 0
    · rw [if_neg leftZero, if_pos rightZero] at same
      have none : toString left = "" := by simpa using congrArg String.toList same
      exact absurd none (toString_int_ne_empty left)
    · rw [if_neg leftZero, if_neg rightZero] at same
      exact toString_int_injective ((String.append_right_inj _).mp same)

/-- The text of the expression begins, and not as a block would. -/
def Expr.OpensPlainly (expression : Expr) : Prop :=
  ∃ first rest, expression.text.toList = first :: rest ∧ first ≠ '\x7b'

theorem Expr.variable_opensPlainly (depth : Int) :
    (Expr.variable (itemName depth)).OpensPlainly := by
  rw [OpensPlainly, text, itemName]
  by_cases zero : depth = 0
  · exact ⟨'e', [], by rw [if_pos zero]; rfl, by decide⟩
  · exact ⟨'e', (toString depth).toList, by rw [if_neg zero, String.toList_append]; rfl, by decide⟩

/-- What is rebuilt is an object, or begins as the value does or with the call that makes a
number. -/
theorem Shape.rebuild_opensPlainly (shape : Shape) (depth : Int) {value : Expr}
    (plain : value.OpensPlainly) :
    (shape.rebuild depth value).isObject = true ∨ (shape.rebuild depth value).OpensPlainly := by
  cases shape with
  | primitive name =>
    rw [rebuild]
    split
    · exact .inr ⟨'B', _, by rw [Expr.text, String.append_assoc, String.toList_append]; rfl,
        by decide⟩
    · exact .inr plain
  | array item =>
    rw [rebuild]
    split
    · refine .inr ?_
      obtain ⟨first, rest, opens, noBlock⟩ := plain
      simp only [Expr.OpensPlainly, Expr.text, String.toList_append, opens, List.cons_append]
      exact ⟨first, _, rfl, noBlock⟩
    · exact .inr plain
  | record fields =>
    rw [rebuild]
    split
    · exact .inl rfl
    · exact .inr plain

theorem Shape.rebuild_enclosed (list : Expr) (item : Shape) (depth : Int) :
    Expr.Enclosed list (itemName depth)
      (item.rebuild (depth + 1) (.variable (itemName depth))) := by
  have opens := item.rebuild_opensPlainly (depth + 1) (Expr.variable_opensPlainly depth)
  generalize item.rebuild (depth + 1) (.variable (itemName depth)) = image at opens
  refine ⟨_, rfl, ?_, ?_⟩
  · intro isObject
    rw [if_pos isObject]
  · split
    · simp
    · rename_i noObject
      obtain ⟨first, rest, opens, noBlock⟩ := opens.resolve_left noObject
      rw [opens]
      simpa using noBlock

theorem Shape.rebuildFields_proper {source : String} {bound : List String} {depth : Int}
    {value : Expr} {fields : List (String × Shape)} (proper : value.Proper source bound)
    (each : ∀ named ∈ fields, ∀ expression, Expr.Proper source bound expression →
      (named.2.rebuild depth expression).Proper source bound) :
    ∀ property ∈ rebuildFields fields depth value, property.2.Proper source bound := by
  induction fields with
  | nil => exact nofun
  | cons field fields inductionHypothesis =>
    intro property member
    rw [rebuildFields] at member
    rcases List.mem_cons.mp member with rfl | member
    · exact each field List.mem_cons_self _ (.property field.1 proper)
    · exact inductionHypothesis (fun named isField => each named (List.mem_cons_of_mem _ isField))
        property member

/-- Under arrows of lesser depths, what is rebuilt of a proper expression is proper. -/
theorem Shape.rebuild_proper {source : String} {shape : Shape} {bound : List String}
    {depth : Int} {value : Expr} (proper : value.Proper source bound)
    (outer : ∀ name ∈ bound, ∃ other, other < depth ∧ name = itemName other) :
    (shape.rebuild depth value).Proper source bound := by
  induction shape generalizing bound depth value with
  | primitive name =>
    rw [rebuild]
    split
    · exact .bigInt proper
    · exact proper
  | array item inductionHypothesis =>
    rw [rebuild]
    split
    · have new : itemName depth ∉ bound := by
        intro member
        obtain ⟨other, before, same⟩ := outer _ member
        exact absurd (itemName_injective same) (Int.ne_of_gt before)
      refine .map proper new (inductionHypothesis (.variable List.mem_cons_self) ?_)
        (rebuild_enclosed value item depth)
      intro name member
      rcases List.mem_cons.mp member with rfl | member
      · exact ⟨depth, Int.lt_succ depth, rfl⟩
      · obtain ⟨other, before, same⟩ := outer name member
        exact ⟨other, Int.lt_trans before (Int.lt_succ depth), same⟩
    · exact proper
  | record fields inductionHypothesis =>
    rw [rebuild]
    split
    · exact .object (rebuildFields_proper proper
        fun named member expression isProper => inductionHypothesis named member isProper outer)
    · exact proper

/-! ### Runs -/

/-- The expression rebuilds raw values of the shape that the source holds, and is properly built
of it. -/
structure Expr.Rebuilds (source : String) (shape : Shape) (expression : Expr) : Prop where
  proper : expression.Proper source []
  evaluates : ∀ {α : Type} (bigInt : α → α) (raw : Value α), shape.Fits raw →
    expression.evaluate bigInt raw [] = some (shape.convert bigInt raw)

theorem Shape.rebuild_rebuilds (source : String) (shape : Shape) (depth : Int) :
    (shape.rebuild depth (.source source)).Rebuilds source shape where
  proper := rebuild_proper .source nofun
  evaluates _ _ fits := evaluate_rebuild fits rfl

/-- In the run of the calls, every text that is given for a subject writes a type of the shape of
the subject, up to the order of fields, in every list of interfaces that the run comes to from
then on. Values of it are rebuilt from any source and at any depth of lists, unless they are too
deep to be taken apart, which fails. -/
def TextsRebuild (start : Registry) (calls : List Call) : Prop :=
  ∀ subject text interfaces, .given subject text interfaces ∈ runEvents calls start →
    ∀ later, interfaces <+: later → later <+: (runCalls calls start).interfaces →
      ∃ shape, subject.shape?.map Shape.canonical = some shape.canonical ∧
        HasShape later shape (Ty.ofText text) ∧
        ∀ source depth, ∃ expression, Expr.Rebuilds source shape expression ∧
          rebuildResult later (.source source) (Ty.ofText text) depth =
            if shape.rebuildDepth ≤ convertibleDepth then .ok expression
            else .error (.defect .tooDeep)

/-- Results are rebuilt in every run on a registry that starts without interfaces, in which only
plain names are asked for. -/
theorem runEvents_rebuild (levels : Nat) (reserved : List String) (resultSuffix : String)
    (contract : Json) (collector : Collector) (calls : List Call)
    (plain : ∀ name ∈ requestedNames (runEvents calls
      (Registry.freshWithin levels reserved resultSuffix contract collector)), PlainName name) :
    TextsRebuild (Registry.freshWithin levels reserved resultSuffix contract collector) calls := by
  have soundStart := Registry.freshWithin_sound levels reserved resultSuffix contract collector
  generalize starts : Registry.freshWithin levels reserved resultSuffix contract collector = start
    at plain soundStart
  have wellFormed := (runCalls_sound calls soundStart).1.wellFormed
  have log := runEvents_log calls soundStart
  have plainFinal := log.plainNames (starts ▸ rfl) plain
  intro subject text interfaces event later grown front
  obtain ⟨_, hasText⟩ := log.given subject text interfaces event
  obtain ⟨shape, isShape, expanded, hasShape, alike⟩ :=
    (hasText.mono grown.subset).hasShape (wellFormed.front front)
      fun interface member => plainFinal interface (front.subset member)
  refine ⟨expanded, by rw [isShape, Option.map_some, alike], hasShape, fun source depth => ?_⟩
  exact ⟨_, expanded.rebuild_rebuilds source depth,
    rebuildResult_of_hasShape hasShape (.source source) depth⟩

/-- A result with numbers in arrays and records, in which one struct is found in two places. -/
theorem runEvents_rebuild_orders :
    let amounts : Parameter := ⟨"amounts", "uint256[][3]", "", none⟩
    let maker : Parameter := ⟨"maker", "address", "", none⟩
    let orders : Parameter := ⟨"orders", "tuple[]", "struct Order[]", some [maker, amounts]⟩
    let first : Parameter := ⟨"", "tuple", "struct Order", some [amounts, maker]⟩
    let start := Registry.freshWithin 196 ["Market"] "Result" .null .absent
    let calls := [.result "book" [first, orders]]
    requestedNames (runEvents calls start) = ["Order", "Order", "BookResult"] ∧
      TextsRebuild start calls := by
  intro amounts maker orders first start calls
  refine ⟨by decide +kernel, ?_⟩
  exact runEvents_rebuild 196 ["Market"] "Result" .null .absent calls (by decide +kernel)

/-! ### Arrays of many dimensions -/

/-- Small numbers in arrays of the given number of dimensions. -/
def deepArray (rank : Nat) : Parameter :=
  ⟨"", String.ofList (['u', 'i', 'n', 't'] ++ ['8'] ++ bracketChars rank), "", none⟩

/-- The type of whole numbers in arrays of the given number of dimensions. -/
def deepNumbers (rank : Nat) : Ty :=
  ⟨bigintName, rank⟩

theorem runEvents_deepArray (rank : Nat) (start : Registry) :
    runEvents [.parameter "" (deepArray rank)] start =
      [.given (.parameter (deepArray rank)) (deepNumbers rank).text start.interfaces] := by
  have solid : ∀ character ∈ ['u', 'i', 'n', 't'] ++ ['8'], isBlank character = false := by
    have all : (['u', 'i', 'n', 't'] ++ ['8']).all (isBlank · == false) = true := by
      decide +kernel
    exact fun character member => beq_iff_eq.mp (List.all_eq_true.mp all character member)
  have parsed : TypeTag.parse (deepArray rank).tag =
      .ok ⟨.unsigned 8, List.replicate rank none⟩ := by
    have named : BaseType.ofChars (['u', 'i', 'n', 't'] ++ ['8']) = .ok (.unsigned 8) := by rfl
    rw [deepArray, TypeTag.parse_bracketChars rank solid (by decide), named]
    rfl
  have required := requireTag_eq_ok_iff.mpr parsed
  have mapped : mapParameter start.levels "" (deepArray rank) start =
      (.ok (deepNumbers rank), start) := by
    rw [deepArray] at required ⊢
    rw [mapParameter, locating, Registering.lift_bind_run, required]
    simp only [BaseType.primitive?, List.length_replicate]
    simp [deepNumbers, Ty.arrays]
    rfl
  have given : written (mapParameter start.levels "" (deepArray rank)) start =
      (.ok (deepNumbers rank).text, start) := by
    rw [written, bind_run, mapped]
    rfl
  show parameterEvents start.levels "" (deepArray rank) start ++ [] = _
  rw [deepArray] at required given ⊢
  rw [parameterEvents, required, given]
  rfl

theorem Shape.rebuildDepth_arrays (dimensions : Nat) (item : Shape) :
    (item.arrays dimensions).rebuildDepth = item.rebuildDepth + dimensions := by
  induction dimensions with
  | zero => rfl
  | succ dimensions inductionHypothesis =>
    rw [arrays, rebuildDepth, inductionHypothesis, Nat.add_assoc]

/-- Arrays of more dimensions than values can be taken apart are not rebuilt. -/
theorem deepArray_not_rebuilt :
    let start := Registry.freshWithin 196 [] "Result" .null .absent
    let calls := [.parameter "" (deepArray 1200)]
    requestedNames (runEvents calls start) = [] ∧
      .given (.parameter (deepArray 1200)) (deepNumbers 1200).text [] ∈ runEvents calls start ∧
      rebuildResult [] (.source "x") (Ty.ofText (deepNumbers 1200).text) 0 =
        .error (.defect .tooDeep) := by
  have bottom : HasShape [] (.primitive bigintName) ⟨bigintName, 0⟩ :=
    (hasShape_leaf (.inl rfl)).mpr rfl
  have hasShape : HasShape [] (Shape.arrays 1200 (.primitive bigintName)) (deepNumbers 1200) :=
    bottom.arrays 1200
  have reads : Ty.ofText (deepNumbers 1200).text = deepNumbers 1200 := by
    rw [Ty.ofText_text, deepNumbers, Ty.ofText_of_not_mem (by decide), Ty.arrays, Nat.zero_add]
  intro start calls
  rw [runEvents_deepArray]
  refine ⟨rfl, List.mem_singleton_self _, ?_⟩
  rw [reads, rebuildResult_of_hasShape hasShape, withinDepth_of_lt]
  rw [Shape.rebuildDepth_arrays, convertibleDepth]
  omega

end ContractClient
