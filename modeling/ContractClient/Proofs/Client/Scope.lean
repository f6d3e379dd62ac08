/-
This file says what the names in a method stand for. A method binds its arguments, the options, and
the constants that its body declares; besides these, the body calls values that no method binds. The
scope is clean if no two bindings share a name, and every name stands for what it is meant for.

The arguments keep clear of one another and of the options, but not of the rest. A method is clean
exactly if none of its inputs is called like a constant of its body or like a value that it calls
(`built_clean_iff`). One that is called so leaves a method that is not (`resultInput_not_clean`).
-/

import ContractClient.Proofs.Abi.Reading
import ContractClient.Proofs.Client.Built

namespace ContractClient

/-! ### Scopes -/

/-- What a name in a method is meant for. -/
inductive Referent where
  | argument (place : Nat)
  | options
  | constant
  | global
deriving Repr, DecidableEq

/-- The names of a method: those of its arguments, those of the constants that its body declares,
and those of the values from outside that its body calls. -/
structure Scope where
  arguments : List String
  constants : List String
  globals : List String
deriving Repr, DecidableEq

namespace Scope

/-- The names that the method binds, with what they are bound to. -/
def bindings (scope : Scope) : List (String × Referent) :=
  scope.arguments.zipIdx.map (fun entry => (entry.1, .argument entry.2)) ++
    (optionsName, .options) :: scope.constants.map fun name => (name, .constant)

/-- The names that the method binds. -/
def names (scope : Scope) : List String :=
  scope.arguments ++ optionsName :: scope.constants

/-- What the name stands for in the body of the method. -/
def referent (scope : Scope) (name : String) : Referent :=
  (scope.bindings.lookup name).getD .global

/-- The names in the body, with what they are meant for: all bindings are used there. -/
def uses (scope : Scope) : List (String × Referent) :=
  scope.bindings ++ scope.globals.map fun name => (name, .global)

/-- No name is bound twice, and every name stands for what it is meant for. -/
structure Clean (scope : Scope) : Prop where
  distinct : (scope.bindings.map (·.1)).Nodup
  meant : ∀ use ∈ scope.uses, scope.referent use.1 = use.2

theorem map_bindings (scope : Scope) : scope.bindings.map (·.1) = scope.names := by
  simp [bindings, names, Function.comp_def]

/-- A name that is bound once stands for what it is bound to. -/
theorem referent_of_mem {scope : Scope} (distinct : scope.names.Nodup)
    {binding : String × Referent} (isBinding : binding ∈ scope.bindings) :
    scope.referent binding.1 = binding.2 := by
  rw [← map_bindings] at distinct
  have found : scope.bindings.lookup binding.1 = some binding.2 := by
    obtain ⟨before, after, split⟩ := List.append_of_mem isBinding
    rw [split, List.map_append, List.map_cons] at distinct
    refine List.lookup_eq_some_iff.mpr ⟨before, after, split, fun other isEarlier => ?_⟩
    refine bne_iff_ne.mpr fun same => (List.nodup_cons.mp (List.nodup_middle.mp distinct)).1 ?_
    exact List.mem_append_left _ (List.mem_map.mpr ⟨other, isEarlier, same.symm⟩)
  rw [referent, found, Option.getD_some]

theorem referent_eq_global_of_not_mem {scope : Scope} {name : String}
    (unbound : name ∉ scope.names) : scope.referent name = .global := by
  have missing : scope.bindings.lookup name = none := by
    refine List.lookup_eq_none_iff.mpr fun binding isBinding => bne_iff_ne.mpr ?_
    rintro rfl
    exact unbound (map_bindings scope ▸ List.mem_map_of_mem isBinding)
  rw [referent, missing, Option.getD_none]

theorem bound_ne_global {scope : Scope} {binding : String × Referent}
    (isBinding : binding ∈ scope.bindings) : binding.2 ≠ .global := by
  rcases List.mem_append.mp isBinding with isArgument | isOther
  · obtain ⟨_, _, rfl⟩ := List.mem_map.mp isArgument
    exact nofun
  · rcases List.mem_cons.mp isOther with rfl | isConstant
    · exact nofun
    · obtain ⟨_, _, rfl⟩ := List.mem_map.mp isConstant
      exact nofun

/-- A scope is clean if its names differ from one another and from all that the body calls. -/
theorem clean_iff (scope : Scope) :
    scope.Clean ↔ scope.names.Nodup ∧ ∀ name ∈ scope.globals, name ∉ scope.names := by
  constructor
  · rintro ⟨distinct, meant⟩
    rw [map_bindings] at distinct
    refine ⟨distinct, fun name isGlobal isBound => ?_⟩
    rw [← map_bindings] at isBound
    obtain ⟨binding, isBinding, rfl⟩ := List.mem_map.mp isBound
    have outside := meant (binding.1, .global)
      (List.mem_append_right _ (List.mem_map.mpr ⟨_, isGlobal, rfl⟩))
    exact bound_ne_global isBinding ((referent_of_mem distinct isBinding).symm.trans outside)
  · rintro ⟨distinct, free⟩
    refine ⟨map_bindings scope ▸ distinct, fun use isUse => ?_⟩
    rcases List.mem_append.mp isUse with isBinding | isGlobal
    · exact referent_of_mem distinct isBinding
    · obtain ⟨name, isCalled, rfl⟩ := List.mem_map.mp isGlobal
      exact referent_eq_global_of_not_mem (free name isCalled)

instance (scope : Scope) : Decidable scope.Clean :=
  decidable_of_iff _ (clean_iff scope).symm

end Scope

/-! ### Bodies -/

/-- The constant that a line of a body declares. -/
def declaredConstant? (line : Line) : Option String :=
  let text := line.text.toList
  if line.depth = 1 ∧ "const ".toList.isPrefixOf text then
    some (String.ofList ((text.drop 6).takeWhile Char.isAlphanum))
  else none

mutual

/-- The values from outside that an expression calls. -/
def Expr.globals : Expr → List String
  | .source _ => []
  | .variable _ => []
  | .property value _ => value.globals
  | .bigInt value => "BigInt" :: value.globals
  | .map list _ image => list.globals ++ image.globals
  | .object properties => propertyGlobals properties
termination_by structural expression => expression

/-- The values from outside that the properties of an object call. -/
def propertyGlobals : List (String × Expr) → List String
  | [] => []
  | (_, value) :: rest => value.globals ++ propertyGlobals rest
termination_by structural properties => properties

end

/-- The values from outside that a query calls for its answer. -/
def Answer.globals : Answer → List String
  | .nothing => []
  | .value _ rebuilt => rebuilt.globals
  | .record _ fields => propertyGlobals fields

/-- The names of a method for a function. -/
def Method.scope (method : Method) : Scope where
  arguments := method.arguments.map (·.name)
  constants := method.callLines.filterMap declaredConstant?
  globals := match method.call with
    | .query answer => answer.globals
    | .transaction => []

/-- The names of `deploy`, which makes an error where the contract cannot be deployed. -/
def deployScope (arguments : List Argument) : Scope where
  arguments := arguments.map (·.name)
  constants := (deployLines arguments).filterMap declaredConstant?
  globals := ["Error"]

/-- The constants that the method of a function needs for what the call gives. -/
def bodyConstants (function : Member) : List String :=
  match function.mutability, function.outputs with
  | some .readOnly, [_] => ["result"]
  | some .readOnly, _ :: _ :: _ => ["resultArr"]
  | _, _ => []

theorem declaredConstant?_of_head {depth : Nat} {text : String} {first : Char} {rest : List Char}
    (starts : text.toList = first :: rest) (differs : 'c' ≠ first) :
    declaredConstant? ⟨depth, text⟩ = none := by
  have noPrefix : "const ".toList.isPrefixOf text.toList = false := by
    rw [starts]
    show ('c' == first && _) = false
    rw [beq_eq_false_iff_ne.mpr differs, Bool.false_and]
  rw [declaredConstant?, noPrefix]
  simp

theorem declaredConstant?_of_depth {depth : Nat} (differs : depth ≠ 1) (text : String) :
    declaredConstant? ⟨depth, text⟩ = none :=
  if_neg fun both => differs both.1

theorem declaredConstant?_value (call : String) :
    declaredConstant? ⟨1, "const result = " ++ call⟩ = some "result" := by
  simp [declaredConstant?, String.toList_append]

theorem declaredConstant?_record (call : String) :
    declaredConstant? ⟨1, "const resultArr: any = " ++ call⟩ = some "resultArr" := by
  simp [declaredConstant?, String.toList_append]

theorem declaredConstant?_return (text : String) :
    declaredConstant? ⟨1, "return " ++ text⟩ = none :=
  declaredConstant?_of_head (String.toList_append ..) (by decide)

/-- The lines of an answer declare the constant that holds what the call gives. -/
theorem Answer.lines_declare {function : Member} {answer : Answer}
    (readOnly : function.mutability = some .readOnly) (fits : answer.Fits function.outputs)
    (call : String) :
    (answer.lines ("await " ++ call)).filterMap declaredConstant? = bodyConstants function := by
  unfold bodyConstants
  rw [readOnly]
  cases answer with
  | nothing =>
    have outputs : function.outputs = [] := fits
    have awaits : declaredConstant? ⟨1, "await " ++ call⟩ = none :=
      declaredConstant?_of_head (String.toList_append ..) (by decide)
    simp only [outputs, Answer.lines, List.filterMap_cons, awaits, List.filterMap_nil]
  | value ty rebuilt =>
    obtain ⟨output, outputs⟩ := List.length_eq_one_iff.mp fits
    have returns : declaredConstant? ⟨1, "return " ++ rebuilt.text ++ ";"⟩ = none := by
      rw [String.append_assoc]
      exact declaredConstant?_return _
    simp only [outputs, Answer.lines, List.filterMap_cons, declaredConstant?_value, returns,
      List.filterMap_nil]
  | record shape fields =>
    obtain ⟨first, second, others, outputs⟩ : ∃ first second others,
        function.outputs = first :: second :: others := by
      match outputs : function.outputs with
      | [] | [_] => simp [Answer.Fits, outputs] at fits
      | first :: second :: others => exact ⟨first, second, others, rfl⟩
    have inside : (fields.map fun field =>
        (⟨2, field.1 ++ ": " ++ field.2.text ++ ","⟩ : Line)).filterMap declaredConstant? = [] := by
      refine List.filterMap_eq_nil_iff.mpr fun line isLine => ?_
      obtain ⟨field, _, rfl⟩ := List.mem_map.mp isLine
      exact declaredConstant?_of_depth (by decide) _
    have opens : declaredConstant? ⟨1, "return \x7b"⟩ = none := rfl
    have closes : declaredConstant? ⟨1, "\x7d;"⟩ = none := rfl
    simp only [outputs, Answer.lines, List.filterMap_append, List.filterMap_cons,
      declaredConstant?_record, inside, opens, closes, List.filterMap_nil, List.append_nil]

theorem deployLines_declare (arguments : List Argument) :
    (deployLines arguments).filterMap declaredConstant? = [] := by
  refine List.filterMap_eq_nil_iff.mpr fun line isLine => ?_
  simp only [deployLines, List.mem_cons, List.not_mem_nil, or_false] at isLine
  rcases isLine with rfl | rfl | rfl | rfl | rfl | rfl | rfl | rfl | rfl | rfl <;> rfl

mutual

theorem Expr.globals_eq : ∀ expression : Expr, ∀ name ∈ expression.globals, name = "BigInt"
  | .source _ => nofun
  | .variable _ => nofun
  | .property value _ => Expr.globals_eq value
  | .bigInt value => by
    intro name isGlobal
    rcases List.mem_cons.mp isGlobal with same | isInner
    · exact same
    · exact Expr.globals_eq value name isInner
  | .map list _ image => by
    intro name isGlobal
    rcases List.mem_append.mp isGlobal with inList | inImage
    · exact Expr.globals_eq list name inList
    · exact Expr.globals_eq image name inImage
  | .object properties => propertyGlobals_eq properties

theorem propertyGlobals_eq :
    ∀ properties : List (String × Expr), ∀ name ∈ propertyGlobals properties, name = "BigInt"
  | [] => nofun
  | (_, value) :: rest => by
    intro name isGlobal
    rcases List.mem_append.mp isGlobal with isFirst | isLater
    · exact Expr.globals_eq value name isFirst
    · exact propertyGlobals_eq rest name isLater

end

theorem Answer.globals_eq (answer : Answer) : ∀ name ∈ answer.globals, name = "BigInt" := by
  cases answer with
  | nothing => exact nofun
  | value ty rebuilt => exact Expr.globals_eq rebuilt
  | record shape fields => exact propertyGlobals_eq fields

section

variable {plan : MethodPlan} {function : Member} {method : Method}

theorem Method.IsFor.constants_eq (isFor : method.IsFor plan function) :
    method.scope.constants = bodyConstants function := by
  have fits := isFor.call
  unfold Method.scope Method.callLines
  cases called : method.call with
  | transaction =>
    rw [called] at fits
    have none : bodyConstants function = [] := by
      unfold bodyConstants
      split
      · rename_i readOnly _
        exact (fits readOnly).elim
      · rename_i readOnly _
        exact (fits readOnly).elim
      · rfl
    rw [none]
    simp only [String.append_assoc, List.filterMap_cons, declaredConstant?_return,
      List.filterMap_nil]
  | query answer =>
    rw [called] at fits
    simp only [String.append_assoc]
    exact answer.lines_declare fits.1 fits.2 _

/-- What a body calls from outside is what makes whole numbers, and only a query does so. -/
theorem Method.globals_eq (method : Method) : ∀ name ∈ method.scope.globals, name = "BigInt" := by
  unfold Method.scope
  cases method.call with
  | transaction => exact nofun
  | query answer => exact answer.globals_eq

end

/-! ### Clean methods -/

/-- The names that bodies declare, and those that they call. -/
def bodyNames : List String :=
  ["result", "resultArr", "BigInt", "Error"]

/-- Nothing keeps an argument from being called like something in the body. -/
theorem mem_argumentNames_of_bodyName {name : String} (isBodyName : name ∈ bodyNames)
    (parameters : List Parameter) :
    name ∈ argumentNames parameters ↔
      ∃ parameter ∈ parameters, dropUnderscore parameter.name = name := by
  have properties : ∀ name ∈ bodyNames,
      name.toList.head? ≠ some 'a' ∧ isArgumentName name ∧ name ≠ optionsName := by
    decide +kernel
  obtain ⟨start, isName, notOptions⟩ := properties name isBodyName
  -- A numbered name starts with `arg`, and no body name starts with its first letter.
  have notNumbered : ∀ number, numberedArgument number ≠ name := by
    rintro number rfl
    rw [numberedArgument_chars] at start
    exact start rfl
  rw [mem_argumentNames_iff notNumbered]
  exact ⟨fun ⟨_, _, called⟩ => called, fun called => ⟨isName, notOptions, called⟩⟩

/-- A scope is clean exactly if no parameter is called like a constant or like a value from
outside. -/
theorem scope_clean_iff {scope : Scope} {parameters : List Parameter}
    (arguments : scope.arguments = argumentNames parameters)
    (constants : scope.constants.Nodup) (areBodyNames :
      ∀ name ∈ scope.constants ++ scope.globals, name ∈ bodyNames)
    (apart : ∀ name ∈ scope.globals, name ∉ scope.constants) :
    scope.Clean ↔ ∀ parameter ∈ parameters,
      dropUnderscore parameter.name ∉ scope.constants ++ scope.globals := by
  have notOptions : ∀ name ∈ scope.constants ++ scope.globals, name ≠ optionsName := by
    have differ : ∀ name ∈ bodyNames, name ≠ optionsName := by decide +kernel
    exact fun name isName => differ name (areBodyNames name isName)
  have isArgument : ∀ name ∈ scope.constants ++ scope.globals,
      (name ∈ scope.arguments ↔
        ∃ parameter ∈ parameters, dropUnderscore parameter.name = name) := by
    intro name isName
    rw [arguments, mem_argumentNames_of_bodyName (areBodyNames name isName)]
  have distinct : (scope.arguments ++ [optionsName]).Nodup :=
    arguments ▸ argumentNames_nodup parameters
  have names_eq : scope.names = (scope.arguments ++ [optionsName]) ++ scope.constants := by
    rw [Scope.names, List.append_assoc]
    rfl
  -- Arguments and options never meet, and body names do not either: what is left to clash is an
  -- argument with a body name.
  rw [Scope.clean_iff, names_eq]
  constructor
  · rintro ⟨different, free⟩ parameter isParameter isName
    have isBound := (isArgument _ isName).mpr ⟨parameter, isParameter, rfl⟩
    rcases List.mem_append.mp isName with isConstant | isGlobal
    · exact List.disjoint_of_nodup_append different (List.mem_append_left _ isBound) isConstant
    · exact free _ isGlobal (List.mem_append_left _ (List.mem_append_left _ isBound))
  · intro free
    have unbound : ∀ name ∈ scope.constants ++ scope.globals,
        name ∉ scope.arguments ++ [optionsName] := by
      intro name isName isBound
      rcases List.mem_append.mp isBound with isBound | isOptions
      · obtain ⟨parameter, isParameter, rfl⟩ := (isArgument name isName).mp isBound
        exact free parameter isParameter isName
      · exact notOptions name isName (List.mem_singleton.mp isOptions)
    refine ⟨List.Nodup.append distinct constants (List.disjoint_right.mpr fun name isConstant =>
      unbound name (List.mem_append_left _ isConstant)), fun name isGlobal isBound => ?_⟩
    rcases List.mem_append.mp isBound with isBound | isConstant
    · exact unbound name (List.mem_append_right _ isGlobal) isBound
    · exact apart name isGlobal isConstant

theorem bodyConstants_apart (function : Member) :
    (bodyConstants function).Nodup ∧ (∀ name ∈ bodyConstants function, name ∈ bodyNames) ∧
      "BigInt" ∉ bodyConstants function := by
  unfold bodyConstants
  split <;> decide +kernel

/-- The method that is built for a function declares the constant that its outputs ask for; it is
clean exactly if no input of the function is called like that constant, or like what makes whole
numbers if the body calls it. `deploy` is clean exactly if no input of the constructor is called
like what makes errors. -/
theorem built_clean_iff (start after : Pass) :
    (∀ (function : Member) (method : Method),
      buildMethod function start = (.ok method, after) →
        method.scope.constants = bodyConstants function ∧
          (∀ name ∈ method.scope.globals, name = "BigInt") ∧
          (method.scope.Clean ↔ ∀ input ∈ function.inputs,
            dropUnderscore input.name ∉ method.scope.constants ++ method.scope.globals)) ∧
    ∀ (constructor : Option Member) (arguments : List Argument),
      buildDeploy constructor start = (.ok arguments, after) →
        ((deployScope arguments).Clean ↔ ∀ input ∈ deployInputs constructor,
          dropUnderscore input.name ≠ "Error") := by
  constructor
  case left =>
    intro function method builds
    obtain ⟨_, isFor, _⟩ := @buildMethod_gives [] start function method after builds
    have constants := isFor.constants_eq
    obtain ⟨distinct, areBodyNames, apart⟩ := bodyConstants_apart function
    rw [← constants] at distinct areBodyNames apart
    refine ⟨constants, method.globals_eq, scope_clean_iff isFor.arguments distinct ?_ ?_⟩
    · intro name isName
      rcases List.mem_append.mp isName with isConstant | isGlobal
      · exact areBodyNames name isConstant
      · rw [method.globals_eq name isGlobal]
        decide +kernel
    · intro name isGlobal
      rw [method.globals_eq name isGlobal]
      exact apart
  case right =>
    intro constructor arguments builds
    obtain ⟨_, named, _⟩ := @buildDeploy_gives [] start constructor arguments after builds
    have constants : (deployScope arguments).constants = [] := deployLines_declare arguments
    have called : (deployScope arguments).constants ++ (deployScope arguments).globals =
        ["Error"] := by
      rw [constants]
      rfl
    have clean : (deployScope arguments).Clean ↔ ∀ input ∈ deployInputs constructor,
        dropUnderscore input.name ∉
          (deployScope arguments).constants ++ (deployScope arguments).globals := by
      refine scope_clean_iff named (constants ▸ .nil) ?_ ?_
      · rw [called]
        decide +kernel
      · rw [constants]
        exact fun _ _ => nofun
    simpa only [called, List.mem_singleton] using clean

/-! ### An input called like a constant -/

/-- A function with one output, whose only input is called as given. -/
def queryOf (input : String) : Member :=
  ⟨.function, "f", [⟨input, "uint256", "uint256", none⟩], [⟨"", "uint256", "uint256", none⟩],
    "view"⟩

/-- The pass in front of the first function of a contract. -/
def firstPass : Pass :=
  .start (.text "Token") Options.standard.style .absent

/-- A method whose argument is called unlike everything in its body is clean. -/
theorem amountInput_clean :
    ∃ (method : Method) (after : Pass),
      buildMethod (queryOf "amount") firstPass = (.ok method, after) ∧ method.scope.Clean := by
  have builds : endsWell (fun _ _ => true) (buildMethod (queryOf "amount") firstPass) := by
    decide +kernel
  obtain ⟨method, after, run, _⟩ := exists_of_endsWell builds
  obtain ⟨constants, globals, clean⟩ := (built_clean_iff firstPass after).1 _ _ run
  refine ⟨method, after, run, clean.mpr fun input isInput isName => ?_⟩
  obtain rfl := List.mem_singleton.mp isInput
  rcases List.mem_append.mp isName with isConstant | isGlobal
  · rw [constants] at isConstant
    exact absurd isConstant (by decide +kernel)
  · exact absurd (globals _ isGlobal) (by decide +kernel)

/-- A method whose argument is called `result` declares it again as a constant. -/
theorem resultInput_not_clean :
    ∃ (method : Method) (after : Pass),
      buildMethod (queryOf "result") firstPass = (.ok method, after) ∧ ¬method.scope.Clean := by
  have builds : endsWell (fun method _ => decide ¬method.scope.Clean)
      (buildMethod (queryOf "result") firstPass) := by
    decide +kernel
  obtain ⟨method, after, run, unclean⟩ := exists_of_endsWell builds
  exact ⟨method, after, run, of_decide_eq_true unclean⟩

end ContractClient
