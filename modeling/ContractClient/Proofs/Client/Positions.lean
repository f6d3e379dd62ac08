/-
This file proves that the items of a result land in the right fields. A query with several outputs
gives back an object of the interface that its result has, which a struct or another query may have
registered before, with its fields in another order. The object has the fields of that interface,
and the field for an output is rebuilt from the item at the place of the output, by the type that
the output has by itself (`positional_results`).
-/

import ContractClient.Proofs.Client.Answers
import ContractClient.Proofs.Client.Writing
import ContractClient.Proofs.Json.Sizes
import ContractClient.Proofs.Registry.Repeats
import ContractClient.Proofs.Registry.ResultFields

namespace ContractClient

/-! ### Sources of expressions -/

mutual

/-- The texts of the raw values that the expression reads. -/
def Expr.sources : Expr → List String
  | .source text => [text]
  | .variable _ => []
  | .property value _ => value.sources
  | .bigInt value => value.sources
  | .map list _ image => list.sources ++ image.sources
  | .object properties => propertySources properties
termination_by structural expression => expression

/-- The texts of the raw values that the properties read. -/
def propertySources : List (String × Expr) → List String
  | [] => []
  | (_, value) :: rest => value.sources ++ propertySources rest
termination_by structural properties => properties

end

mutual

/-- What is rebuilt of a value reads what the value reads. -/
theorem Shape.mem_sources_rebuild (text : String) :
    ∀ (shape : Shape) (depth : Int) (value : Expr),
      text ∈ (shape.rebuild depth value).sources ↔ text ∈ value.sources
  | .primitive name, depth, value => by
    rw [Shape.rebuild]
    split <;> rfl
  | .array item, depth, value => by
    rw [Shape.rebuild]
    split
    · have inner := Shape.mem_sources_rebuild text item (depth + 1) (.variable (itemName depth))
      rw [Expr.sources, List.mem_append, inner]
      exact or_iff_left List.not_mem_nil
    · rfl
  | .record fields, depth, value => by
    rw [Shape.rebuild]
    split
    · rename_i holds
      have some : fields ≠ [] := by
        rintro rfl
        cases holds
      rw [Expr.sources, Shape.mem_sources_rebuildFields text fields depth value]
      exact and_iff_right some
    · rfl

theorem Shape.mem_sources_rebuildFields (text : String) :
    ∀ (fields : List (String × Shape)) (depth : Int) (value : Expr),
      text ∈ propertySources (Shape.rebuildFields fields depth value) ↔
        fields ≠ [] ∧ text ∈ value.sources
  | [], _, _ => by
    rw [Shape.rebuildFields, propertySources]
    simp
  | (name, shape) :: rest, depth, value => by
    rw [Shape.rebuildFields, propertySources, List.mem_append,
      Shape.mem_sources_rebuild text shape depth (.property value name),
      Shape.mem_sources_rebuildFields text rest depth value, Expr.sources]
    simp only [ne_eq, List.cons_ne_nil, not_false_eq_true, true_and]
    exact or_iff_left_of_imp And.right

end

/-- What is rebuilt of a raw value reads nothing but what the value reads. -/
theorem mem_sources_of_rebuildResult {interfaces : List Interface} {value rebuilt : Expr} {ty : Ty}
    {depth : Int} (rebuilds : rebuildResult interfaces value ty depth = .ok rebuilt)
    (text : String) : text ∈ rebuilt.sources ↔ text ∈ value.sources := by
  by_cases hasShape : ∃ shape, HasShape interfaces shape ty
  · obtain ⟨shape, hasShape⟩ := hasShape
    rw [rebuildResult_of_hasShape hasShape, withinDepth] at rebuilds
    split at rebuilds
    · cases rebuilds
      exact shape.mem_sources_rebuild text depth value
    · cases rebuilds
  · rw [rebuildResult_of_not_hasShape (not_exists.mp hasShape)] at rebuilds
    cases rebuilds

/-- Items at different places are different raw values. -/
theorem rawItem_injective {first second : Nat} (same : rawItem first = rawItem second) :
    first = second := by
  have texts := Expr.source.inj same
  rw [String.append_left_inj, String.append_right_inj] at texts
  exact toString_injective texts

/-! ### Rebuilding by places -/

/-- The expression is what the item at the place is rebuilt to as a value of the type. It reads that
item, and no other. -/
structure RebuildsItem (interfaces : List Interface) (place : Nat) (ty : Ty) (rebuilt : Expr) :
    Prop where
  rebuilds : rebuildResult interfaces (rawItem place) ty 0 = .ok rebuilt
  reads : ∀ other text, rawItem other = .source text → (text ∈ rebuilt.sources ↔ other = place)
  readsItems : ∀ text ∈ rebuilt.sources, rawItem place = .source text

theorem RebuildsItem.of_rebuildResult {interfaces : List Interface} {place : Nat} {ty : Ty}
    {rebuilt : Expr} (rebuilds : rebuildResult interfaces (rawItem place) ty 0 = .ok rebuilt) :
    RebuildsItem interfaces place ty rebuilt := by
  have sources : ∀ text, text ∈ rebuilt.sources ↔ rawItem place = .source text := by
    intro text
    rw [mem_sources_of_rebuildResult rebuilds, rawItem, Expr.sources, List.mem_singleton,
      Expr.source.injEq, eq_comm]
  refine ⟨rebuilds, fun other text isOther => ?_, fun text isIn => (sources text).mp isIn⟩
  rw [sources text, ← isOther]
  exact ⟨fun same => (rawItem_injective same).symm, fun same => same ▸ rfl⟩

/-- Why the result of a query cannot be rebuilt where everything is registered: a line cannot be
indented, or the type of an output is nested too deep. -/
inductive CannotRebuild (pass : Pass) (tys : List Ty) : Defect → Prop
  | indent (depths : List Nat) (cause : Defect) :
      (Pass.requireLines depths pass).1 = .error (.defect cause) → CannotRebuild pass tys cause
  | nested (ty : Ty) : ty ∈ tys → ¬ ty.Rebuildable pass.registry.interfaces →
      CannotRebuild pass tys .tooDeep

theorem requireSize_failsByDefect (size : Nat) (count : Int) (uncountable : Defect) :
    FailsByDefect (Json.requireSize size count uncountable) := by
  unfold Json.requireSize
  exact .ite (.defect _) (.ite (.defect _) (.ite (.defect _) (.ok ())))

theorem requireMultiple_failsByDefect (value : Json) (count : Int) :
    FailsByDefect (value.requireMultiple count) := by
  unfold Json.requireMultiple
  cases value with
  | boolean | integer => exact .ok ()
  | null | object => exact .defect _
  | text | array => exact requireSize_failsByDefect _ _ _
  | float bits => exact .ite (.ok ()) (.defect _)

theorem requireIndentation_failsByDefect (style : Style) (levels : List Int) :
    FailsByDefect (style.requireIndentation levels) := by
  unfold Style.requireIndentation
  induction levels with
  | nil => exact .ok ()
  | cons level rest inductionHypothesis =>
    exact ((requireMultiple_failsByDefect _ _).bind fun _ =>
      Json.requireWithin_failsByDefect _ _).bind fun _ => inductionHypothesis

theorem rebuildResult_eq_error {interfaces : List Interface} {value : Expr} {ty : Ty} {depth : Int}
    {fault : Fault} (fails : rebuildResult interfaces value ty depth = .error fault) :
    fault = .defect .tooDeep ∧ ¬ ty.Rebuildable interfaces := by
  have ends := rebuildResult_outcome interfaces value ty depth
  rw [fails] at ends
  by_cases rebuildable : ty.Rebuildable interfaces
  · rw [requireDepth_of rebuildable] at ends
    cases ends
  · rw [requireDepth_of_not rebuildable] at ends
    exact ⟨Except.error.inj ends, rebuildable⟩

/-- A run that reads the pass ends with what is right, or fails by a defect that keeps the result
from being rebuilt. In neither case does it change the pass. -/
def Answers {α : Type} (pass : Pass) (tys : List Ty) (run : Except Fault α × Pass)
    (right : α → Prop) : Prop :=
  (∃ value, run = (.ok value, pass) ∧ right value) ∨
    ∃ cause, run = (.error (.defect cause), pass) ∧ CannotRebuild pass tys cause

section

variable {α β : Type} {pass : Pass} {tys : List Ty}

theorem Answers.pure {value : α} {right : α → Prop} (holds : right value) :
    Answers pass tys ((Pure.pure value : Building α) pass) right :=
  .inl ⟨value, rfl, holds⟩

theorem Answers.bind {step : Building α} {next : α → Building β} {between : α → Prop}
    {right : β → Prop} (first : Answers pass tys (step pass) between)
    (second : ∀ value, between value → Answers pass tys (next value pass) right) :
    Answers pass tys ((step >>= next) pass) right := by
  rw [Answers, bind_run]
  obtain ⟨value, run, holds⟩ | ⟨cause, run, cannot⟩ := first
  · rw [run]
    exact second value holds
  · rw [run]
    exact .inr ⟨cause, rfl, cannot⟩

theorem Answers.lines (depths : List Nat) :
    Answers pass tys (Pass.requireLines depths pass) fun _ => True := by
  have run := requireLines_run depths pass
  cases ended : pass.style.requireIndentation
      (depths.map fun depth => pass.level + Int.ofNat depth) with
  | ok _ =>
    rw [ended] at run
    exact .inl ⟨(), run, trivial⟩
  | error fault =>
    rw [ended] at run
    obtain ⟨cause, rfl⟩ := requireIndentation_failsByDefect _ _ fault ended
    exact .inr ⟨cause, run, .indent depths cause (congrArg Prod.fst run)⟩

theorem Answers.rebuild {ty : Ty} (isTy : ty ∈ tys) (place : Nat) :
    Answers pass tys
      ((liftM (rebuildResult pass.registry.interfaces (rawItem place) ty 0) : Building Expr) pass)
      fun rebuilt => RebuildsItem pass.registry.interfaces place ty rebuilt := by
  rw [Building.lift_run]
  cases ended : rebuildResult pass.registry.interfaces (rawItem place) ty 0 with
  | ok rebuilt => exact .inl ⟨rebuilt, rfl, .of_rebuildResult ended⟩
  | error fault =>
    obtain ⟨rfl, notRebuildable⟩ := rebuildResult_eq_error ended
    exact .inr ⟨.tooDeep, rfl, .nested ty isTy notRebuildable⟩

end

/-- The fields bear the names in their order, and each is rebuilt from the item at its place, the
first of which is given, as a value of the type at its place. -/
structure RebuildsItems (interfaces : List Interface) (names : List String) (tys : List Ty)
    (first : Nat) (fields : List (String × Expr)) : Prop where
  names : fields.map (·.1) = names
  items : ∀ (index : Nat) (name : String) (rebuilt : Expr) (ty : Ty),
    fields[index]? = some (name, rebuilt) → tys[index]? = some ty →
      RebuildsItem interfaces (first + index) ty rebuilt

/-- Where the fields of the interface have the types, they are rebuilt by their places. -/
theorem rebuildFields_positions {pass : Pass} {shape : Interface} {all tys : List Ty}
    {names : List String}
    (found : List.Forall₂ (fun name ty => shape.fieldType? name = some ty) names tys)
    (among : ∀ ty ∈ tys, ty ∈ all) (first : Nat) :
    Answers pass all (rebuildFields shape first names pass)
      (RebuildsItems pass.registry.interfaces names tys first) := by
  induction found generalizing first with
  | nil => exact .pure ⟨rfl, nofun⟩
  | @cons name ty names tys isFound _ inductionHypothesis =>
    rw [List.forall_mem_cons] at among
    rw [rebuildFields, isFound, Building.get_bind_run]
    dsimp only [Option.getD_some]
    refine (Answers.rebuild among.1 first).bind fun rebuilt rebuilds => ?_
    refine (Answers.lines [2]).bind fun _ _ => ?_
    refine (inductionHypothesis among.2 (first + 1)).bind fun fields rebuildsRest => .pure ?_
    constructor
    case names => rw [List.map_cons, rebuildsRest.names]
    case items =>
      intro index other expression otherTy isField isTy
      cases index with
      | zero =>
        cases isField
        cases isTy
        exact rebuilds
      | succ index =>
        rw [Nat.add_succ, ← Nat.succ_add]
        exact rebuildsRest.items index other expression otherTy isField isTy

/-! ### Results of several outputs -/

theorem FieldsHaveTypes.types {interfaces : List Interface} {parameters : List Parameter}
    {names : List String} {fields : List Field} (same : names.length = parameters.length)
    (haveTypes : FieldsHaveTypes interfaces parameters names fields) :
    List.Forall₂ (Parameter.HasTy interfaces) parameters (fields.map (·.ty)) := by
  induction parameters generalizing names fields with
  | nil =>
    rw [FieldsHaveTypes] at haveTypes
    · rw [haveTypes]
      exact .nil
    · simp
  | cons parameter parameters inductionHypothesis =>
    cases names with
    | nil => cases same
    | cons name names =>
      rw [FieldsHaveTypes] at haveTypes
      obtain ⟨ty, rest, rfl, hasTy, others⟩ := haveTypes
      exact .cons hasTy (inductionHypothesis (Nat.succ.inj same) others)

theorem requireParameter_of_mem {levels : Nat} {member : String} {parameters : List Parameter}
    (typable : requireParameters levels member parameters = .ok ()) :
    ∀ parameter ∈ parameters, requireParameter levels member parameter = .ok () :=
  fun parameter isParameter =>
    requireParameter_eq_ok_iff.mpr (requireParameters_eq_ok_iff.mp typable parameter isParameter)

/-- What a result that is resolved asks of its outputs. -/
theorem of_requireResult {levels : Nat} {resultSuffix member : String} {outputs : List Parameter}
    (passes : requireResult levels resultSuffix member outputs = .ok ()) :
    requireParameters levels member outputs = .ok () ∧ (outputFieldNames outputs).Nodup := by
  obtain ⟨shape, distinct⟩ := requireResult_eq_ok_iff.mp passes
  exact ⟨requireParameters_eq_ok_iff.mpr shape.mappable, distinct⟩

theorem exists_of_two_le_length {outputs : List Parameter} (several : 2 ≤ outputs.length) :
    ∃ first second rest, outputs = first :: second :: rest := by
  match outputs, several with
  | first :: second :: rest, _ => exact ⟨first, second, rest, rfl⟩

/-- The type of a result of several outputs is the interface that is resolved for them. -/
theorem exists_of_returnType {function : Member} {pass typed : Pass} {ty : Ty}
    (several : 2 ≤ function.outputs.length)
    (returns : returnType function.name function.outputs pass = (.ok ty, typed)) :
    resolveResult function.name function.outputs pass.registry = (.ok ty.text, typed.registry) := by
  have run : returnType function.name function.outputs =
      Pass.registering (resolveResult function.name function.outputs) >>= fun shape =>
        pure (Ty.ofText shape) := by
    obtain ⟨first, second, rest, outputs⟩ := exists_of_two_le_length several
    rw [outputs]
    rfl
  rw [run] at returns
  obtain ⟨shape, middle, registers, returns⟩ := exists_of_bind_run returns
  cases returns
  have ended := congrArg Prod.fst registers
  have left := congrArg (fun run => run.2.registry) registers
  rw [Ty.text_ofText]
  exact Prod.ext ended left

/-- The answer of several outputs is an object of the interface that is found for their type. -/
theorem buildAnswer_several {function : Member} {pass : Pass} {ty : Ty} {shape : Interface}
    (several : 2 ≤ function.outputs.length) (found : pass.registry.find? ty.text = some shape) :
    buildAnswer function ty pass =
      (Pass.requireLines [1] >>= fun _ =>
        rebuildFields shape 0 (outputFieldNames function.outputs) >>= fun fields =>
          pure (.record ty.text fields)) pass := by
  obtain ⟨first, second, rest, outputs⟩ := exists_of_two_le_length several
  unfold buildAnswer
  rw [Building.get_bind_run]
  simp only [outputs, found]

/-- The items of a result land in the right fields. Whatever has been registered before, if a query
has a type for its several outputs then this type is an interface whose fields, in whatever order,
are those that the outputs have, each with the type that its output has by itself. The object that
the query gives back has these fields, each once, in the order of the outputs, and rebuilds each of
them from the item at the place of its output and as a value of its type; a module with the query
has this object in its text, a line for each field. No interface is missing, so nothing keeps the
query from being built but lines that cannot be indented and types that are nested too deep. -/
theorem positional_results {levels : Nat} {reserved : List String} {resultSuffix : String}
    {contract : Json} {pass typed : Pass} {function : Member} {ty : Ty}
    (reachable : pass.registry.Reachable levels reserved resultSuffix contract)
    (several : 2 ≤ function.outputs.length)
    (returns : returnType function.name function.outputs pass = (.ok ty, typed)) :
    ∃ shape tys,
      typed.registry.find? ty.text = some shape ∧
      List.Forall₂ (fun output outputTy =>
          resolveParameter function.name output typed.registry = (.ok outputTy, typed.registry))
        function.outputs tys ∧
      (outputFieldNames function.outputs).Nodup ∧
      (outputFieldNames function.outputs).Perm (shape.fields.map (·.name)) ∧
      List.Forall₂ (fun name outputTy => shape.fieldType? name = some outputTy)
        (outputFieldNames function.outputs) tys ∧
      ∀ later : Pass, later.registry = typed.registry →
        Answers later tys (buildAnswer function ty later) fun answer =>
          ∃ fields, answer = .record ty.text fields ∧
            RebuildsItems typed.registry.interfaces (outputFieldNames function.outputs) tys 0
              fields ∧
            ∀ (module : ClientModule) (style : Style), ∀ method ∈ module.client.methods,
              method.call = .query answer →
                module.Writes style (renderLines style.indentUnit 1
                  ([⟨1, "const resultArr: any = " ++
                      ("await " ++ method.invocation ++ ".call(" ++ optionsName ++ ");")⟩,
                    ⟨1, "return \x7b"⟩] ++
                    fields.map (fun field => ⟨2, field.1 ++ ": " ++ field.2.text ++ ","⟩) ++
                    [⟨1, "\x7d;"⟩])) := by
  have resolved := exists_of_returnType several returns
  obtain ⟨sound, keeps, _, named⟩ :=
    resolveResult_yields reachable.sound function.name function.outputs
  have checks : Checks pass.registry (resolveResult function.name function.outputs) _ _ :=
    resolveResult_checks function.name function.outputs
  have ends := checks.ends
  rw [resolved] at sound keeps named ends
  obtain ⟨typable, distinct⟩ := of_requireResult ends.symm
  obtain ⟨fields, haveTypes, shaped⟩ := named ty.text rfl
  obtain ⟨shape, found, hasFields⟩ := shaped.fieldType?_eq sound.wellFormed haveTypes.known
  have sameLength : (outputFieldNames function.outputs).length = function.outputs.length :=
    length_fieldNamesFrom _ _ _
  have names := haveTypes.names_eq sameLength
  have fieldTypes : List.Forall₂ (fun name outputTy => shape.fieldType? name = some outputTy)
      (outputFieldNames function.outputs) (fields.map (·.ty)) := by
    rw [← names, List.forall₂_map_left_iff, List.forall₂_map_right_iff, List.forall₂_same]
    exact hasFields
  have again : List.Forall₂ (fun output outputTy =>
        resolveParameter function.name output typed.registry = (.ok outputTy, typed.registry))
      function.outputs (fields.map (·.ty)) := by
    have each := (List.forall₂_and_left _ _).mpr
      ⟨requireParameter_of_mem typable, haveTypes.types sameLength⟩
    refine each.imp fun output outputTy ⟨isTypable, hasTy⟩ => ?_
    exact resolveParameter_again sound hasTy (keeps.levels ▸ isTypable)
  have sameFields : (outputFieldNames function.outputs).Perm (shape.fields.map (·.name)) := by
    obtain ⟨interface, member, isNamed, perm⟩ := shaped.exists_names
    have foundToo := sound.wellFormed.findInterface?_eq_some_iff.mpr ⟨member, isNamed⟩
    rw [Option.some.inj (found.symm.trans foundToo), ← names]
    exact perm.symm
  refine ⟨shape, fields.map (·.ty), found, again, distinct, sameFields, fieldTypes, ?_⟩
  intro later same
  have foundLater : later.registry.find? ty.text = some shape := same ▸ found
  rw [buildAnswer_several several foundLater]
  refine (Answers.lines [1]).bind fun _ _ => ?_
  refine (rebuildFields_positions fieldTypes (fun _ isTy => isTy) 0).bind
    fun rebuilt rebuilds => .pure ⟨rebuilt, rfl, same ▸ rebuilds, ?_⟩
  intro module style method isMethod isQuery
  have writes := @ClientModule.writes_answer module style method _ isMethod isQuery
  rwa [Answer.lines] at writes

/-- A query with an amount and an owner as its outputs. -/
def pairQuery : Member :=
  ⟨.function, "pair", [], [⟨"amount", "uint256", "", none⟩, ⟨"owner", "address", "", none⟩], "view"⟩

/-- A registry with a struct that has an owner and an amount as its fields. -/
def pairRegistry : Registry :=
  ((Call.struct "Pair" pairQuery.outputs.reverse).perform
    (.freshWithin mappableLevels [] "Result" (.text "Token") .absent)).2

/-- The query gives back the struct, its fields in the order of the outputs. -/
theorem pairQuery_positions :
    ∃ typed shape tys fields,
      returnType pairQuery.name pairQuery.outputs
          { Pass.start (.text "Token") Options.standard.style .absent with
            registry := pairRegistry } = (.ok ⟨"Pair", 0⟩, typed) ∧
        typed.registry.find? "Pair" = some shape ∧
        shape.fields.map (·.name) = ["owner", "amount"] ∧
        List.Forall₂ (fun name ty => shape.fieldType? name = some ty) ["amount", "owner"] tys ∧
        buildAnswer pairQuery ⟨"Pair", 0⟩ typed = (.ok (.record "Pair" fields), typed) ∧
        RebuildsItems typed.registry.interfaces ["amount", "owner"] tys 0 fields := by
  have reachable : pairRegistry.Reachable mappableLevels [] "Result" (.text "Token") :=
    .call _ (.fresh .absent)
  have found : endsWell (fun ty after => ty == ⟨"Pair", 0⟩ &&
        (after.registry.find? "Pair").map (fun shape => shape.fields.map (·.name)) ==
          some ["owner", "amount"] &&
        endsWell (fun _ _ => true) (buildAnswer pairQuery ty after))
      (returnType pairQuery.name pairQuery.outputs
        { Pass.start (.text "Token") Options.standard.style .absent with
          registry := pairRegistry }) := by
    decide +kernel
  obtain ⟨ty, typed, returns, found⟩ := exists_of_endsWell found
  rw [Bool.and_eq_true, Bool.and_eq_true, beq_iff_eq, beq_iff_eq] at found
  obtain ⟨⟨rfl, names⟩, answers⟩ := found
  have text : (⟨"Pair", 0⟩ : Ty).text = "Pair" := rfl
  have fieldNames : outputFieldNames pairQuery.outputs = ["amount", "owner"] := rfl
  obtain ⟨shape, tys, isFound, _, _, _, fieldTypes, answered⟩ :=
    positional_results reachable (by decide) returns
  rw [text] at isFound
  rw [fieldNames] at fieldTypes
  rw [text, fieldNames] at answered
  rw [isFound] at names
  refine ⟨typed, shape, tys, ?_⟩
  obtain ⟨_, run, fields, rfl, rebuilds, _⟩ | ⟨cause, run, _⟩ := answered typed rfl
  · exact ⟨fields, returns, isFound, Option.some.inj names, fieldTypes, run, rebuilds⟩
  · rw [run] at answers
    cases answers

end ContractClient
