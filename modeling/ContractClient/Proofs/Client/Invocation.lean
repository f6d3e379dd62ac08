/-
This file says which function a method calls, and how. A contract answers to the name of a function
and to its signature. The accessor of a method is the name where no other function has it, and the
signature where one has; either way it belongs to no other function, as long as no name holds a
parenthesis and so looks like a signature (`accessor_answers_iff`).

What the method passes on are the arguments that it declares, one for each input in their order, and
the call is a query exactly for the functions that change nothing (`assembled_invokes`).
-/

import ContractClient.Proofs.Client.Surface
import ContractClient.Proofs.Client.Writing

namespace ContractClient

/-! ### Accessors -/

/-- What the accessor looks for among the functions of a contract. -/
def Accessor.key : Accessor → String
  | .byName name => name
  | .bySignature signature => signature

/-- A contract has its functions under their names and under their signatures. -/
def Member.AnswersTo (function : Member) (key : String) : Prop :=
  key = function.name ∨ key = function.signature

/-- Another one of the functions has the name of this one. -/
def SharesName (functions : List Member) (function : Member) : Prop :=
  ∃ other ∈ functions, other ≠ function ∧ other.name = function.name

theorem signature_has_parenthesis (function : Member) : '(' ∈ function.signature.toList := by
  simp [Member.signature]

section

variable {functions : List Member}

/-- A name stands more than once in the list of names exactly if another function has it. -/
theorem mem_repeatedNames_iff (distinct : functions.Nodup) {function : Member}
    (isFunction : function ∈ functions) :
    function.name ∈ MethodPlan.repeatedNames (functions.map Member.name) ↔
      SharesName functions function := by
  -- The function stands in the list once, so its name is counted there once for itself.
  obtain ⟨before, after, rfl⟩ := List.append_of_mem isFunction
  obtain ⟨isElsewhere, _⟩ := List.nodup_cons.mp (List.nodup_middle.mp distinct)
  have counted : ((before ++ function :: after).map Member.name).count function.name =
      ((before ++ after).map Member.name).count function.name + 1 := by
    simp only [List.map_append, List.map_cons, List.count_append, List.count_cons_self]
    omega
  rw [MethodPlan.mem_repeatedNames, counted, Nat.lt_add_left_iff_pos, List.count_pos_iff,
    List.mem_map]
  constructor
  · rintro ⟨other, isOther, sameName⟩
    have differs : other ≠ function := fun same => isElsewhere (same ▸ isOther)
    exact ⟨other, List.mem_append.mpr ((List.mem_append.mp isOther).imp_right
      (List.mem_cons_of_mem _)), differs, sameName⟩
  · rintro ⟨other, isOther, differs, sameName⟩
    refine ⟨other, ?_, sameName⟩
    simpa [differs] using isOther

/-- The accessor is the name of a function that no other one shares, and otherwise its
signature. -/
theorem accessor_cases {members : List Member} (distinct : (functionsAmong members).Nodup)
    {function : Member} (isFunction : function ∈ functionsAmong members) :
    let accessor := (MethodPlan.empty.extend members).1.accessor function
    accessor = .byName function.name ∧ ¬SharesName (functionsAmong members) function ∨
      accessor = .bySignature function.signature ∧
        SharesName (functionsAmong members) function := by
  intro accessor
  have marks : (MethodPlan.empty.extend members).1.overloaded =
      MethodPlan.repeatedNames ((functionsAmong members).map Member.name) :=
    MethodPlan.extend_overloaded members .empty
  have shares := mem_repeatedNames_iff distinct isFunction
  rw [← marks, ← List.contains_iff_mem] at shares
  by_cases isShared : SharesName (functionsAmong members) function
  · exact .inr ⟨if_pos (shares.mpr isShared), isShared⟩
  · exact .inl ⟨if_neg fun isMarked => isShared (shares.mp isMarked), isShared⟩

/-- Where no name holds a parenthesis, the accessor of a function belongs to no other one. -/
theorem accessor_answers_iff {function : Member} {accessor : Accessor}
    (isAccessor :
      accessor = .byName function.name ∧ ¬SharesName functions function ∨
        accessor = .bySignature function.signature ∧ SharesName functions function)
    (signatures : (functions.map Member.signature).Nodup)
    (plain : ∀ other ∈ functions, '(' ∉ other.name.toList) (isFunction : function ∈ functions)
    {other : Member} (isOther : other ∈ functions) :
    other.AnswersTo accessor.key ↔ other = function := by
  have noSignature : ∀ named ∈ functions, ∀ signed : Member, named.name ≠ signed.signature :=
    fun named isNamed signed same =>
      plain named isNamed (same ▸ signature_has_parenthesis signed)
  rcases isAccessor with ⟨rfl, alone⟩ | ⟨rfl, _⟩
  · constructor
    · rintro (sameName | isSignature)
      · exact Classical.byContradiction fun differs =>
          alone ⟨other, isOther, differs, sameName.symm⟩
      · exact (noSignature function isFunction other isSignature).elim
    · rintro rfl
      exact .inl rfl
  · constructor
    · rintro (isName | sameSignature)
      · exact (noSignature other isOther function isName.symm).elim
      · exact List.inj_on_of_nodup_map signatures isOther isFunction sameSignature.symm
    · rintro rfl
      exact .inr rfl

end

/-! ### Calls -/

/-- The method calls this one of the functions, with the arguments that it declares, one for each
input in their order, as a query exactly if the function changes nothing. -/
structure Method.Invokes (functions : List Member) (function : Member) (method : Method) :
    Prop where
  accessor : method.accessor = .byName function.name ∧ ¬SharesName functions function ∨
    method.accessor = .bySignature function.signature ∧ SharesName functions function
  denotes : ∀ other ∈ functions, other.AnswersTo method.accessor.key ↔ other = function
  declares : ∃ opening options closing,
    method.heading = opening ++ declaredArguments method.arguments options ++ closing
  arguments : method.arguments.map (·.name) = argumentNames function.inputs
  oneEach : (argumentNames function.inputs).length = function.inputs.length ∧
    (argumentNames function.inputs ++ [optionsName]).Nodup
  invocation : method.invocation = "this.contract!.methods" ++ method.accessor.text ++ "(" ++
    ", ".intercalate (argumentNames function.inputs) ++ ")"
  query : function.stateMutability ∈ ["view", "pure"] → ∃ opening rest,
    opening ∈ ["", "const result = ", "const resultArr: any = "] ∧
      method.callLines =
        ⟨1, opening ++ ("await " ++ method.invocation ++ ".call(" ++ optionsName ++ ");")⟩ :: rest
  transaction : function.stateMutability ∉ ["view", "pure"] →
    method.callLines =
      [⟨1, "return " ++ method.invocation ++ ".send(" ++ optionsName ++ ");"⟩]

theorem Method.heading_declares (method : Method) : ∃ opening options closing,
    method.heading = opening ++ declaredArguments method.arguments options ++ closing := by
  unfold Method.heading
  cases method.call with
  | query answer =>
    refine ⟨method.name ++ " = async (", optionsName ++ "?: CallOptions",
      "): Promise<" ++ answer.typeText ++ "> => \x7b", ?_⟩
    simp only [String.append_assoc]
  | transaction => exact ⟨_, _, _, rfl⟩

theorem mutability_eq_readOnly_iff {function : Member} (isFunction : function.kind = .function) :
    function.mutability = some .readOnly ↔ function.stateMutability ∈ ["view", "pure"] := by
  rw [Member.mutability, isFunction, readOnlyStates, ← List.contains_iff_mem]
  cases ["view", "pure"].contains function.stateMutability <;> simp

/-- The method of a function calls it. -/
theorem Method.IsFor.invokes {members : List Member} {function : Member} {method : Method}
    (signatures : ((functionsAmong members).map Member.signature).Nodup)
    (plain : ∀ other ∈ functionsAmong members, '(' ∉ other.name.toList)
    (isFunction : function ∈ functionsAmong members)
    (isFor : method.IsFor (MethodPlan.empty.extend members).1 function) :
    method.Invokes (functionsAmong members) function := by
  have isAccessor := accessor_cases (signatures.of_map _) isFunction
  rw [← isFor.accessor] at isAccessor
  have readOnly : function.mutability = some .readOnly ↔
      function.stateMutability ∈ ["view", "pure"] :=
    mutability_eq_readOnly_iff (beq_iff_eq.mp (List.mem_filter.mp isFunction).2)
  have fits := isFor.call
  refine ⟨isAccessor,
    fun other isOther => accessor_answers_iff isAccessor signatures plain isFunction isOther,
    method.heading_declares, isFor.arguments,
    ⟨length_argumentNamesFrom _ _ _, argumentNames_nodup _⟩, ?invocation, ?query, ?transaction⟩
  case invocation =>
    rw [← isFor.arguments]
    rfl
  case query =>
    intro isQuery
    cases called : method.call with
    | transaction =>
      rw [called] at fits
      exact (fits (readOnly.mpr isQuery)).elim
    | query answer =>
      simp only [Method.callLines, called]
      cases answer with
      | nothing => exact ⟨"", [], .head _, by rw [Answer.lines, String.empty_append]⟩
      | value ty rebuilt => exact ⟨"const result = ", _, .tail _ (.head _), rfl⟩
      | record shape fields =>
        exact ⟨"const resultArr: any = ", _, .tail _ (.tail _ (.head _)), rfl⟩
  case transaction =>
    intro isTransaction
    cases called : method.call with
    | transaction => simp only [Method.callLines, called]
    | query answer =>
      rw [called] at fits
      exact (isTransaction (readOnly.mp fits.1)).elim

/-- In the module that is assembled for an ABI, the method of each function calls that function and
no other one, and its lines stand in the class that the text has. -/
theorem assembled_invokes {contract abi : Json} {style : Style} {collector told last : Collector}
    {members : List Member} {text : String}
    (reads : readAbi contract abi collector = (.ok members, told))
    (plain : ∀ function ∈ functionsAmong members, '(' ∉ function.name.toList)
    (assembles : assembleModule contract members style told = (.ok text, last)) :
    ∃ module : ClientModule, text = module.render style ∧
      List.Forall₂ (fun function method => method.Invokes (functionsAmong members) function)
        (functionsAmong members) module.client.methods ∧
      ∀ method ∈ module.client.methods,
        module.Writes style (renderLines style.indentUnit 1 method.lines) := by
  have signatures := readAbi_signaturesDistinct reads
  obtain ⟨module, rendered, isFor, _⟩ := assembleModule_isFor assembles
  refine ⟨module, rendered, ?_, fun method isMethod => ?_⟩
  · exact ((List.forall₂_and_left _ _).mpr ⟨fun _ isFunction => isFunction, isFor.methods⟩).imp
      fun _ _ ⟨isFunction, isFor⟩ => isFor.invokes signatures plain isFunction
  · exact module.writes_part (ClientClass.lines_mem_parts isMethod)

/-- Two functions of one name are called by their signatures, and a third by its name. -/
theorem overloaded_invokes :
    ∃ (members : List Member) (module : ClientModule),
      List.Forall₂ (fun function method => method.Invokes (functionsAmong members) function)
        (functionsAmong members) module.client.methods ∧
      (functionsAmong members).map (MethodPlan.empty.extend members).1.accessor =
        [.bySignature "send(address)", .byName "deploy", .bySignature "send(address,uint256)"] := by
  obtain ⟨members, _, _, _, reads, assembles, plain, _, accessors, _⟩ := overloaded_assembles
  obtain ⟨module, _, invokes, _⟩ := assembled_invokes reads plain assembles
  exact ⟨members, module, invokes, accessors⟩

end ContractClient
