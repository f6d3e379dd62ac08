/-
This file says what the answers of a class are made of. Every value in them is rebuilt from the raw
result or from one of its items, along interfaces that the module has (`buildModule_isRebuilt`). So
the text of an answer stands on one line wherever the names of the fields do.
-/

import ContractClient.Proofs.Client.Discovery
import ContractClient.Proofs.Naming.Lines

namespace ContractClient

/-! ### The texts of rebuilt values -/

theorem oneLine_itemName (depth : Int) : OneLine (itemName depth) := by
  unfold itemName
  split
  · decide
  · exact OneLine.append (by decide) (oneLine_toString_int depth)

theorem oneLine_map {list image : Expr} (isList : OneLine list.text) (isImage : OneLine image.text)
    (depth : Int) : OneLine (Expr.map list (itemName depth) image).text := by
  have body : OneLine (if image.isObject then "(" ++ image.text ++ ")" else image.text) := by
    split
    · exact ((by decide : OneLine "(").append isImage).append (by decide)
    · exact isImage
  rw [Expr.text]
  exact ((((isList.append (by decide)).append (oneLine_itemName depth)).append (by decide)).append
    body).append (by decide)

theorem oneLine_propertyTexts {properties : List (String × Expr)}
    (each : ∀ property ∈ properties, OneLine property.1 ∧ OneLine property.2.text) :
    ∀ text ∈ propertyTexts properties, OneLine text := by
  induction properties with
  | nil => exact fun _ none => (List.not_mem_nil none).elim
  | cons property rest inductionHypothesis =>
    obtain ⟨isFirst, others⟩ := List.forall_mem_cons.mp each
    rw [propertyTexts]
    exact List.forall_mem_cons.mpr
      ⟨(isFirst.1.append (by decide)).append isFirst.2, inductionHypothesis others⟩

theorem convertList_oneLine {bottom : Int → Expr → Except Fault Expr}
    (atBottom : ∀ depth value rebuilt, OneLine value.text → bottom depth value = .ok rebuilt →
      OneLine rebuilt.text) {rank : Nat} {depth : Int} {value rebuilt : Expr}
    (isOne : OneLine value.text) (converts : convertList bottom rank depth value = .ok rebuilt) :
    OneLine rebuilt.text := by
  induction rank generalizing depth value rebuilt with
  | zero => exact atBottom depth value rebuilt isOne converts
  | succ rank inductionHypothesis =>
    obtain ⟨image, rebuilds, same⟩ := exists_of_bind_eq_ok converts
    have isItem : OneLine (Expr.variable (itemName depth)).text := oneLine_itemName depth
    rw [← Except.ok.inj same]
    exact oneLine_map isOne (inductionHypothesis isItem rebuilds) depth

section

variable {interfaces : List Interface}

/-- A value is rebuilt on one line along interfaces whose fields bear names of one line. -/
theorem convertWithin_oneLine
    (plain : ∀ interface ∈ interfaces, ∀ field ∈ interface.fields, OneLine field.name)
    {steps : Nat} {ty : Ty} {depth : Int} {value rebuilt : Expr} (isOne : OneLine value.text)
    (converts : convertWithin interfaces steps ty depth value = .ok rebuilt) :
    OneLine rebuilt.text := by
  induction steps generalizing ty depth value rebuilt with
  | zero => cases converts
  | succ steps inductionHypothesis =>
    rw [convertWithin] at converts
    obtain ⟨holds, _, converts⟩ := exists_of_bind_eq_ok converts
    split at converts
    · refine convertList_oneLine (fun depth value rebuilt isOne converts => ?_) isOne converts
      split at converts
      · rw [← Except.ok.inj converts]
        exact ((by decide : OneLine "BigInt(").append isOne).append (by decide)
      · obtain ⟨properties, rebuilds, same⟩ := exists_of_bind_eq_ok converts
        rw [← Except.ok.inj same, Expr.text]
        refine ((by decide : OneLine "\x7b ").append ?_).append (by decide)
        refine OneLine.intercalate (by decide) (oneLine_propertyTexts fun property isProperty => ?_)
        obtain ⟨field, isField, rebuildsField⟩ := exists_of_mem_mapM rebuilds property isProperty
        obtain ⟨inner, rebuildsInner, same⟩ := exists_of_bind_eq_ok rebuildsField
        obtain rfl := Except.ok.inj same
        have isPlain : OneLine field.name := by
          cases found : findInterface? interfaces ty.base with
          | none => simp [found] at isField
          | some interface =>
            rw [found] at isField
            exact plain interface (List.mem_of_find?_eq_some found) field isField
        refine ⟨isPlain, inductionHypothesis ?_ rebuildsInner⟩
        rw [Expr.text]
        exact (isOne.append (by decide)).append isPlain
    · rw [← Except.ok.inj converts]
      exact isOne

theorem rebuildResult_oneLine
    (plain : ∀ interface ∈ interfaces, ∀ field ∈ interface.fields, OneLine field.name)
    {ty : Ty} {depth : Int} {value rebuilt : Expr} (isOne : OneLine value.text)
    (rebuilds : rebuildResult interfaces value ty depth = .ok rebuilt) : OneLine rebuilt.text := by
  obtain ⟨_, _, converts⟩ := exists_of_bind_eq_ok rebuilds
  exact convertWithin_oneLine plain isOne converts

end

/-! ### Answers -/

/-- The expression is the raw result of a call or one of its items. -/
inductive IsRaw : Expr → Prop
  | result : IsRaw rawResult
  | item (index : Nat) : IsRaw (rawItem index)

/-- The expression rebuilds a raw value along some of the interfaces. -/
def IsRebuilt (interfaces : List Interface) (rebuilt : Expr) : Prop :=
  ∃ earlier value ty, earlier ⊆ interfaces ∧ IsRaw value ∧
    rebuildResult earlier value ty 0 = .ok rebuilt

theorem IsRebuilt.mono {earlier later : List Interface} (grown : earlier ⊆ later) {rebuilt : Expr}
    (isRebuilt : IsRebuilt earlier rebuilt) : IsRebuilt later rebuilt := by
  obtain ⟨first, value, ty, among, rebuilds⟩ := isRebuilt
  exact ⟨first, value, ty, List.Subset.trans among grown, rebuilds⟩

/-- A rebuilt value stands on one line if the fields of the interfaces bear names of one line. -/
theorem IsRebuilt.oneLine {interfaces : List Interface}
    (plain : ∀ interface ∈ interfaces, ∀ field ∈ interface.fields, OneLine field.name)
    {rebuilt : Expr} (isRebuilt : IsRebuilt interfaces rebuilt) : OneLine rebuilt.text := by
  obtain ⟨earlier, value, ty, among, isRaw, rebuilds⟩ := isRebuilt
  refine rebuildResult_oneLine (fun interface member => plain interface (among member)) ?_ rebuilds
  cases isRaw with
  | result => decide
  | item index =>
    exact ((by decide : OneLine "resultArr[").append (oneLine_toString index)).append (by decide)

/-- All values in what a call gives back are rebuilt, and its fields are those for the outputs. -/
def CallKind.IsRebuilt (interfaces : List Interface) (function : Member) : CallKind → Prop
  | .query .nothing => True
  | .query (.value _ rebuilt) => ContractClient.IsRebuilt interfaces rebuilt
  | .query (.record _ fields) => fields.map (·.1) = outputFieldNames function.outputs ∧
      ∀ field ∈ fields, ContractClient.IsRebuilt interfaces field.2
  | .transaction => True

theorem CallKind.IsRebuilt.mono {earlier later : List Interface} (grown : earlier ⊆ later)
    {function : Member} {call : CallKind} (isRebuilt : call.IsRebuilt earlier function) :
    call.IsRebuilt later function := by
  match call, isRebuilt with
  | .query .nothing, _ => trivial
  | .query (.value _ _), isRebuilt => exact ContractClient.IsRebuilt.mono grown isRebuilt
  | .query (.record _ _), ⟨names, areRebuilt⟩ =>
    exact ⟨names, fun field isField => (areRebuilt field isField).mono grown⟩
  | .transaction, _ => trivial

section

variable {reserved : List String} {start : Pass}

theorem rebuildFields_isRebuilt (shape : Interface) (index : Nat) (names : List String) :
    Gives reserved start (rebuildFields shape index names) fun after fields =>
      after = start ∧ fields.map (·.1) = names ∧
        ∀ field ∈ fields, IsRebuilt start.registry.interfaces field.2 := by
  induction names generalizing index with
  | nil => exact .pure ⟨rfl, rfl, fun _ none => (List.not_mem_nil none).elim⟩
  | cons name rest inductionHypothesis =>
    refine Gives.look (.afterCheck fun rebuilt rebuilds => ?_)
    refine (requireLines_gives _).bind ?_
    rintro _ _ _ rfl
    refine (inductionHypothesis _).bind ?_
    rintro fields _ _ ⟨rfl, named, areRebuilt⟩
    refine .pure ⟨rfl, by rw [List.map_cons, named], List.forall_mem_cons.mpr ⟨?_, areRebuilt⟩⟩
    exact ⟨_, _, _, List.Subset.refl _, .item index, rebuilds⟩

theorem buildAnswer_isRebuilt (function : Member) (ty : Ty) :
    Gives reserved start (buildAnswer function ty) fun after answer =>
      after = start ∧ (CallKind.query answer).IsRebuilt start.registry.interfaces function := by
  unfold buildAnswer
  refine Gives.look ?_
  split
  · refine (requireLines_gives _).bind ?_
    rintro _ _ _ rfl
    exact .pure ⟨rfl, trivial⟩
  · refine (requireLines_gives _).bind ?_
    rintro _ _ _ rfl
    refine .afterCheck fun rebuilt rebuilds => .pure ⟨rfl, ?_⟩
    exact ⟨_, _, _, List.Subset.refl _, .result, rebuilds⟩
  · cases registered : start.registry.find? ty.text with
    | none =>
      simp only [registered]
      exact .throw _
    | some shape =>
      simp only [registered]
      refine (requireLines_gives _).bind ?_
      rintro _ _ _ rfl
      refine (rebuildFields_isRebuilt _ _ _).bind ?_
      rintro fields _ _ ⟨rfl, isRebuilt⟩
      exact .pure ⟨rfl, isRebuilt⟩

theorem buildCall_isRebuilt (function : Member) :
    Gives reserved start (buildCall function) fun after call =>
      call.IsRebuilt after.registry.interfaces function := by
  unfold buildCall
  refine Gives.look ?_
  split
  · refine (returnType_gives _ _).bind fun ty _ _ _ => ?_
    refine (useImport_gives _ _).bind fun _ _ _ _ => ?_
    refine (buildAnswer_isRebuilt function ty).bind ?_
    rintro answer _ _ ⟨rfl, isRebuilt⟩
    refine (requireLines_gives _).bind ?_
    rintro _ _ _ rfl
    exact .pure isRebuilt
  · refine (check_gives _).bind fun _ _ _ _ => ?_
    refine (useImport_gives _ _).bind fun _ _ _ _ => ?_
    refine (useImport_gives _ _).bind fun _ _ _ _ => ?_
    exact (requireLines_gives _).bind fun _ _ _ _ => .pure trivial

theorem buildMethods_isRebuilt (functions : List Member) :
    Gives reserved start (buildMethods functions) fun after methods =>
      start.registry.Sound reserved → ∀ method ∈ methods,
        ∃ function ∈ functions, method.call.IsRebuilt after.registry.interfaces function := by
  induction functions generalizing start with
  | nil => exact .pure fun _ _ none => (List.not_mem_nil none).elim
  | cons function rest inductionHypothesis =>
    have first : Gives reserved start (buildMethod function) fun after method =>
        method.call.IsRebuilt after.registry.interfaces function := by
      unfold buildMethod
      refine (buildArguments_gives _ _).bind fun arguments _ _ _ => ?_
      refine (methodName_gives function).bind fun name _ _ _ => ?_
      exact (buildCall_isRebuilt function).bind fun call _ _ isRebuilt =>
        Gives.look (.pure isRebuilt)
    refine first.bind fun method middle toMiddle isFirst => ?_
    refine inductionHypothesis.bind fun methods last toLast areRest => .pure fun sound => ?_
    have middleSound := toMiddle.sound sound
    refine List.forall_mem_cons.mpr ⟨?_, fun other isOther => ?_⟩
    · exact ⟨function, List.mem_cons_self, isFirst.mono (toLast.grows middleSound).subset⟩
    · obtain ⟨own, isOwn, isRebuilt⟩ := areRest middleSound other isOther
      exact ⟨own, List.mem_cons_of_mem _ isOwn, isRebuilt⟩

theorem planned_isRebuilt (members : List Member) :
    Gives reserved start
      (do
        modify fun pass => { pass with level := 1 }
        Pass.requireLines [0, 1, 2, 3]
        let methods ← buildMethods (functionsAmong members)
        let constructor := constructorAmong members
        if constructor.isNone then modify fun pass => pass.notice (.defaultDeploy pass.contract)
        let deployArguments ← buildDeploy constructor
        return (⟨(← get).className, methods, deployArguments⟩ : ClientClass))
      fun after client => start.registry.Sound reserved → ∀ method ∈ client.methods,
        ∃ function ∈ functionsAmong members,
          method.call.IsRebuilt after.registry.interfaces function := by
  refine (Gives.change (.of_eq rfl rfl)).bind ?_
  rintro _ _ _ rfl
  refine (requireLines_gives _).bind ?_
  rintro _ _ _ rfl
  refine (buildMethods_isRebuilt (functionsAmong members)).bind
    fun methods middle toMiddle areRebuilt => ?_
  refine (finishClass_gives (constructorAmong members) methods).conclude ?_
  rintro after client toAfter ⟨rfl, _⟩ sound method isMethod
  obtain ⟨function, isFunction, isRebuilt⟩ := areRebuilt sound method isMethod
  have grown := (toAfter.grows (toMiddle.sound sound)).subset
  exact ⟨function, isFunction, isRebuilt.mono grown⟩

end

/-- What the methods of a module give back is rebuilt along the interfaces of the module. -/
theorem buildModule_isRebuilt {contract : Json} {members : List Member} {style : Style}
    {collector : Collector} {module : ClientModule} {after : Pass}
    (runs : buildModule members (.start contract style collector) = (.ok module, after)) :
    ∀ method ∈ module.client.methods, ∃ function ∈ functionsAmong members,
      method.call.IsRebuilt module.interfaces function := by
  obtain ⟨builds, sameInterfaces, _⟩ := buildClass_of_buildModule runs
  have builds : (Pass.useImport style.contractModule ["Contract"] >>= fun _ => _)
      (.start contract style collector) = _ := builds
  obtain ⟨_, imported, imports, builds⟩ := exists_of_bind_run builds
  obtain ⟨toImported, _⟩ :=
    @useImport_gives (style.reservedNames contract.display) _ _ _ _ _ imports
  obtain ⟨_, planned, plans, builds⟩ := exists_of_bind_run builds
  have isPlanned : planned = imported.planMethods members := by
    have right := (planNames_builds members).right () (congrArg Prod.fst plans)
    rw [plans] at right
    exact right.2
  have sound := Registry.freshWithin_sound mappableLevels
    (style.reservedNames contract.display) style.resultSuffix contract collector
  have plannedSound : planned.registry.Sound (style.reservedNames contract.display) := by
    rw [isPlanned, planMethods_eq]
    exact (toImported.sound sound).telling _
  rw [sameInterfaces]
  exact (planned_isRebuilt members _ _ builds).2 plannedSound

end ContractClient
