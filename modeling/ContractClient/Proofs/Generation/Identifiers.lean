/-
This file is about the names that a module writes as they are: those of methods and of the functions
that they call, of arguments, of interfaces and of their fields. The names of arguments are always
names of a script. All others are taken over from the ABI, where nothing is asked of them but that
they are not empty; so all names that are written are names of a script exactly if those that are
taken over are (`ClientModule.names_iff`).
-/

import ContractClient.Proofs.Abi.Members
import ContractClient.Proofs.Generation.TopLevel
import ContractClient.Proofs.Naming.Identifiers

namespace ContractClient

/-! ### Names that are written -/

/-- The name that an accessor writes, unless it finds its function by the signature. -/
def Accessor.name? : Accessor → Option String
  | byName name => some name
  | bySignature _ => none

/-- The name of a method and, where it is written, that of the function it calls. -/
def Method.names (method : Method) : List String :=
  method.name :: method.accessor.name?.toList

/-- The names of the arguments of all methods, those of `deploy` among them. -/
def ClientClass.argumentNames (client : ClientClass) : List String :=
  client.methods.flatMap (fun method => method.arguments.map (·.name)) ++
    client.deployArguments.map (·.name)

/-- The names of an interface and of its fields. -/
def Interface.names (interface : Interface) : List String :=
  interface.name :: interface.fields.map (·.name)

/-- The names that a module writes as they are, apart from those that every module has. -/
def ClientModule.names (module : ClientModule) : List String :=
  module.client.methods.flatMap Method.names ++ module.client.argumentNames ++
    (contractInfo :: module.interfaces).flatMap Interface.names

/-! ### Names of fields -/

/-- The names of the fields of an interface for the source. -/
def Source.fieldNames : Source → List String
  | tuple parameter => (parameter.components.getD []).map (·.name)
  | result _ _ outputs => outputFieldNames outputs

/-- The interface for a source has the fields of the source. -/
theorem Source.HasName.exists_names {interfaces : List Interface} {source : Source} {name : String}
    (hasName : source.HasName interfaces name) :
    ∃ interface ∈ interfaces, interface.name = name ∧
      (interface.fields.map (·.name)).Perm source.fieldNames := by
  cases source with
  | tuple parameter =>
    rw [HasName] at hasName
    cases components : parameter.components with
    | none =>
      rw [components, ComponentsHaveName] at hasName
      exact hasName.elim
    | some components' =>
      rw [components, ComponentsHaveName] at hasName
      obtain ⟨fields, haveTypes, shaped⟩ := hasName
      rw [fieldNames, components, Option.getD_some, ← haveTypes.names_eq (List.length_map _)]
      exact shaped.exists_names
  | result suffix member outputs =>
    obtain ⟨fields, haveTypes, shaped⟩ := hasName
    have sameLength : (outputFieldNames outputs).length = outputs.length :=
      length_fieldNamesFrom _ _ _
    rw [fieldNames, ← haveTypes.names_eq sameLength]
    exact shaped.exists_names

/-- An interface that is called after a source has the fields of the source. -/
theorem Source.Names.fieldNames_perm {reserved : List String} {interfaces : List Interface}
    (wellFormed : WellFormed reserved interfaces) {source : Source} {interface : Interface}
    (member : interface ∈ interfaces) (names : source.Names interfaces interface) :
    (interface.fields.map (·.name)).Perm source.fieldNames := by
  obtain ⟨other, isOther, sameName, fields⟩ := names.stands.exists_names
  rwa [List.inj_on_of_nodup_map wellFormed.namesDistinct isOther member sameName] at fields

/-! ### Names that are taken over -/

theorem ne_empty_of_structName {tuple : Parameter} {name : String}
    (asks : tuple.structName = .ok name) : name ≠ "" := by
  obtain ⟨declared, _, names⟩ := exists_of_bind_eq_ok asks
  exact structName_ne_empty names

/-- The names that a module takes over from its members are names of a script: those of the
functions, those of components and of outputs that become fields, and those which are asked for by
the structs of its interfaces. -/
structure TakesOverNames (interfaces : List Interface) (members : List Member) : Prop where
  functions : ∀ function ∈ functionsAmong members, isScriptName function.name
  components : ∀ tuple ∈ tuplesAmong (writtenParameters members),
    ∀ component ∈ tuple.components.getD [], isScriptName component.name
  outputs : ∀ function ∈ functionsAmong members, 2 ≤ function.answered.length →
    ∀ output ∈ function.answered, output.name ≠ "" → isScriptName output.name
  structs : ∀ tuple ∈ tuplesAmong (writtenParameters members), ∀ interface ∈ interfaces,
    (Source.tuple tuple).Names interfaces interface →
      ∀ name, tuple.structName = .ok name → isScriptName name

/-! ### Methods -/

/-- What is written of a method are names of a script exactly if its function bears such a name. -/
theorem Method.IsFor.names_iff {plan : MethodPlan} {function : Member} {method : Method}
    (isFor : method.IsFor plan function)
    (isWish : MethodPlan.IsWish function.name method.name) (notEmpty : function.name ≠ "") :
    (∀ name ∈ method.names, isScriptName name) ↔ isScriptName function.name := by
  rw [Method.names, List.forall_mem_cons, isWish.isScriptName_iff notEmpty, isFor.accessor,
    MethodPlan.accessor]
  refine and_iff_left_of_imp fun isName => ?_
  split
  · exact fun _ member => (List.not_mem_nil member).elim
  · exact List.forall_mem_singleton.mpr isName

section

variable {members : List Member} {client : ClientClass}

theorem ClientClass.IsFor.methodNames_iff
    (isFor : client.IsFor (MethodPlan.empty.extend members).1 members)
    (distinct : ((functionsAmong members).map Member.signature).Nodup)
    (named : ∀ function ∈ functionsAmong members, function.name ≠ "") :
    (∀ method ∈ client.methods, ∀ name ∈ method.names, isScriptName name) ↔
      ∀ function ∈ functionsAmong members, isScriptName function.name := by
  have areFor := (List.forall₂_and_left _ _).mpr
    ⟨fun _ isFunction => isFunction, isFor.methods⟩
  refine (forall_mem_iff_of_forall₂ areFor fun function method ⟨isFunction, isFor⟩ => ?_).symm
  have isWish := MethodPlan.isWish_of_nameOf? distinct isFunction isFor.named
  exact (isFor.names_iff isWish (named function isFunction)).symm

/-- Every argument bears a name of a script. -/
theorem ClientClass.IsFor.argumentNames_are {plan : MethodPlan}
    (isFor : client.IsFor plan members) : ∀ name ∈ client.argumentNames, isScriptName name := by
  refine List.forall_mem_append.mpr ⟨List.forall_mem_flatMap.mpr ?methods, ?deploy⟩
  case methods =>
    refine (forall_mem_iff_of_forall₂ isFor.methods fun function method isFor => ?_).mp
      fun _ _ => trivial
    rw [isFor.arguments]
    exact iff_of_true trivial isScriptName_of_mem_argumentNames
  case deploy =>
    rw [isFor.deploy]
    exact isScriptName_of_mem_argumentNames

end

/-! ### Interfaces -/

section

variable {style : Style} {contract : Json} {members : List Member} {module : ClientModule}

/-- If all interfaces bear names of a script and so do their fields, the names are so that the
sources ask for and that fields take over. -/
theorem ClientModule.IsFoundFor.takesOverNames
    (found : module.IsFoundFor contract style members)
    (functions : ∀ function ∈ functionsAmong members, isScriptName function.name)
    (interfaces : ∀ interface ∈ module.interfaces, ∀ name ∈ interface.names, isScriptName name) :
    TakesOverNames module.interfaces members := by
  have fieldNames : ∀ source ∈ clientSources style members,
      ∀ name ∈ source.fieldNames, isScriptName name := by
    intro source isSource name isName
    obtain ⟨given, stands⟩ := found.accounted.stands source isSource
    obtain ⟨interface, member, _, fields⟩ := stands.exists_names
    exact interfaces interface member name (List.mem_cons_of_mem _ (fields.mem_iff.mpr isName))
  constructor
  case functions => exact functions
  case components =>
    intro tuple isTuple component isComponent
    exact fieldNames (.tuple tuple) (tuple_mem_clientSources_iff.mpr isTuple) _
      (List.mem_map_of_mem isComponent)
  case outputs =>
    intro function isFunction several
    have isSource := result_mem_clientSources_iff.mpr
      ⟨function, isFunction, several, @rfl _ style.resultSuffix, rfl, rfl⟩
    exact isScriptName_outputFieldNames_iff.mp (fieldNames _ isSource)
  case structs =>
    intro tuple isTuple interface member names asked asks
    obtain ⟨other, taken, asksToo, same⟩ := names.asked
    obtain rfl : asked = other := Except.ok.inj (asks.symm.trans asksToo)
    have isName := interfaces interface member _ List.mem_cons_self
    rwa [same, isScriptName_freeName_iff (ne_empty_of_structName asks)] at isName

/-- If the names that are taken over are names of a script, all interfaces and their fields bear
such names. -/
theorem TakesOverNames.interfaceNames (takesOver : TakesOverNames module.interfaces members)
    (found : module.IsFoundFor contract style members)
    (continues : ∀ character ∈ style.resultSuffix.toList, isScriptContinue character) :
    ∀ interface ∈ module.interfaces, ∀ name ∈ interface.names, isScriptName name := by
  intro interface member
  obtain ⟨source, isSource, names⟩ := found.named_source interface member
  obtain ⟨asked, taken, asks, same⟩ := names.asked
  have sameFields := names.fieldNames_perm found.wellFormed member
  suffices isScriptName asked ∧ ∀ name ∈ source.fieldNames, isScriptName name by
    refine List.forall_mem_cons.mpr ⟨?_, fun name isName =>
      this.2 name (sameFields.mem_iff.mp isName)⟩
    rw [same, isScriptName_freeName_iff (ne_empty_of_isScriptName this.1)]
    exact this.1
  cases source with
  | tuple tuple =>
    have isTuple := tuple_mem_clientSources_iff.mp isSource
    exact ⟨takesOver.structs tuple isTuple interface member names asked asks,
      List.forall_mem_map.mpr (takesOver.components tuple isTuple)⟩
  | result suffix name outputs =>
    obtain ⟨function, isFunction, several, rfl, rfl, rfl⟩ :=
      result_mem_clientSources_iff.mp isSource
    exact ⟨isScriptName_of_resultName asks (takesOver.functions function isFunction) continues,
      isScriptName_outputFieldNames_iff.mpr (takesOver.outputs function isFunction several)⟩

/-! ### Modules -/

/-- All names that a module writes are names of a script exactly if those that it takes over
are. -/
theorem ClientModule.names_iff (found : module.IsFoundFor contract style members)
    (continues : ∀ character ∈ style.resultSuffix.toList, isScriptContinue character)
    (isFor : module.client.IsFor (MethodPlan.empty.extend members).1 members)
    (distinct : ((functionsAmong members).map Member.signature).Nodup)
    (named : ∀ function ∈ functionsAmong members, function.name ≠ "") :
    (∀ name ∈ module.names, isScriptName name) ↔ TakesOverNames module.interfaces members := by
  have methods := isFor.methodNames_iff distinct named
  have infoNames : ∀ name ∈ contractInfo.names, isScriptName name := by decide
  rw [ClientModule.names, List.forall_mem_append, List.forall_mem_append, List.forall_mem_flatMap,
    List.forall_mem_flatMap, List.forall_mem_cons, methods]
  constructor
  · rintro ⟨⟨functions, _⟩, _, interfaces⟩
    exact found.takesOverNames functions interfaces
  · intro takesOver
    exact ⟨⟨takesOver.functions, isFor.argumentNames_are⟩, infoNames,
      takesOver.interfaceNames found continues⟩

end

/-! ### Accepted contracts -/

/-- For every contract that is accepted under the standard options: all arguments of its module bear
names of a script, and all names that the module writes as they are do so exactly if those do that
it takes over from the ABI. -/
theorem generate_names_iff {contract : Contract} {collector told : Collector} {result : Generated}
    (accepts : generate .standard contract collector = (.ok result, told)) :
    ∃ members listening module after, contract.name = .text result.name ∧
      readAbi (.text result.name) contract.abi collector = (.ok members, listening) ∧
      buildModule members (.start (.text result.name) Options.standard.style listening) =
        (.ok module, after) ∧
      result.client = module.render Options.standard.style ∧
      (∀ name ∈ module.client.argumentNames, isScriptName name) ∧
      ((∀ name ∈ module.names, isScriptName name) ↔
        TakesOverNames module.interfaces members) := by
  obtain ⟨members, listening, named, reads, assembles⟩ := exists_of_generate accepts
  obtain ⟨module, after, builds, rendered, found⟩ := assembleModule_finds assembles
  have isFor := (buildModule_isFor builds).1
  exact ⟨members, listening, module, after, named, reads, builds, rendered,
    isFor.argumentNames_are,
    module.names_iff found (List.all_eq_true.mp (by decide)) isFor
      (readAbi_signaturesDistinct reads) (readAbi_named reads)⟩

/-- An ABI whose only function takes a struct and gives two values back, one of them without a
name. -/
def orderAbi : Json :=
  .array [.object [
    ("type", .text "function"),
    ("name", .text "total$"),
    ("inputs", .array [.object [
      ("name", .text "_order"),
      ("type", .text "tuple"),
      ("internalType", .text "struct Shop.Order"),
      ("components", .array [.object [("name", .text "price"), ("type", .text "uint256")]])]]),
    ("outputs", .array [
      .object [("name", .text "sum"), ("type", .text "uint256")],
      .object [("name", .text ""), ("type", .text "uint8")]]),
    ("stateMutability", .text "view")]]

/-- Its module takes over names of a script and writes no others. -/
theorem order_names :
    ∃ (result : Generated) (told : Collector) (members : List Member) (module : ClientModule),
      generate .standard ⟨.text "Shop", orderAbi, .text "0x"⟩ .absent = (.ok result, told) ∧
        result.client = module.render Options.standard.style ∧
        module.names = ["total$", "total$", "order", "ContractInfo", "abi", "bytecode", "address",
          "Shop_Order", "price", "Total$Result", "sum", "value1"] ∧
        TakesOverNames module.interfaces members := by
  have ends : endsWell (fun _ _ => true)
      (generate .standard ⟨.text "Shop", orderAbi, .text "0x"⟩ .absent) := by
    decide +kernel
  have writes : endsWell
      (fun members listening => endsWell
        (fun module _ => decide (module.names =
          ["total$", "total$", "order", "ContractInfo", "abi", "bytecode", "address",
            "Shop_Order", "price", "Total$Result", "sum", "value1"]))
        (buildModule members (.start (.text "Shop") Options.standard.style listening)))
      (readAbi (.text "Shop") orderAbi .absent) := by
    decide +kernel
  obtain ⟨result, told, accepts, _⟩ := exists_of_endsWell ends
  obtain ⟨members, listening, module, after, named, reads, builds, rendered, _, names⟩ :=
    generate_names_iff accepts
  rw [← named] at reads builds
  have buildsWell := of_endsWell writes reads
  have passes := of_endsWell buildsWell builds
  have written := of_decide_eq_true passes
  refine ⟨result, told, members, module, accepts, rendered, written, names.mp ?_⟩
  rw [written]
  decide

/-- An ABI whose only function has a space in its name. -/
def spacedAbi : Json :=
  .array [.object [
    ("type", .text "function"),
    ("name", .text "a b"),
    ("inputs", .array []),
    ("outputs", .array []),
    ("stateMutability", .text "view")]]

/-- The contract is accepted, and its module writes the name as that of a method and of a
function. -/
theorem spaced_notScriptName :
    ∃ (result : Generated) (told listening : Collector) (members : List Member)
        (module : ClientModule) (after : Pass),
      generate .standard ⟨.text "Token", spacedAbi, .text "0x"⟩ .absent = (.ok result, told) ∧
        readAbi (.text "Token") spacedAbi .absent = (.ok members, listening) ∧
        buildModule members (.start (.text "Token") Options.standard.style listening) =
          (.ok module, after) ∧
        result.client = module.render Options.standard.style ∧
        (∃ method ∈ module.client.methods,
          method.heading = "a b = async (options?: CallOptions): Promise<void> => \x7b" ∧
            method.invocation = "this.contract!.methods.a b()") ∧
        ¬∀ name ∈ module.names, isScriptName name := by
  have ends : endsWell (fun _ _ => true)
      (generate .standard ⟨.text "Token", spacedAbi, .text "0x"⟩ .absent) := by
    decide +kernel
  have writes : endsWell
      (fun members listening => endsWell
        (fun module _ => decide (
          (∃ method ∈ module.client.methods,
            method.heading = "a b = async (options?: CallOptions): Promise<void> => \x7b" ∧
              method.invocation = "this.contract!.methods.a b()") ∧
          ¬∀ name ∈ module.names, isScriptName name))
        (buildModule members (.start (.text "Token") Options.standard.style listening)))
      (readAbi (.text "Token") spacedAbi .absent) := by
    decide +kernel
  obtain ⟨result, told, accepts, _⟩ := exists_of_endsWell ends
  obtain ⟨members, listening, named, reads, assembles⟩ := exists_of_generate accepts
  obtain ⟨module, after, builds, rendered⟩ := exists_of_assembleModule assembles
  rw [← named] at reads builds
  have buildsWell := of_endsWell writes reads
  have passes := of_endsWell buildsWell builds
  obtain ⟨method, notNames⟩ := of_decide_eq_true passes
  exact ⟨result, told, listening, members, module, after, accepts, reads, builds, rendered,
    method, notNames⟩

end ContractClient
