/-
This file is about the names that a module introduces at its top level: the import of web3, the
other imports, the interfaces and the class. Interfaces keep out of the way of one another and of
all other names. The class bears the name of its contract with the ending from the settings, and
nothing keeps that apart from what is imported: the names differ exactly if it is none of these
(`ClientModule.topLevelNames_nodup_iff`).

The names of the types that the language has itself are not kept free either. An interface bears
such a name exactly if it is that of a struct declared so (`declares_builtin_iff`); the names of
results begin with a capital letter and never do.
-/

import ContractClient.Generation
import ContractClient.Proofs.Client.Imported
import ContractClient.Proofs.Generation.Outputs
import ContractClient.Proofs.Text.Capitals

namespace ContractClient

/-! ### Names at the top level -/

/-- The names that a module introduces at its top level, in the order of its text. -/
def ClientModule.topLevelNames (module : ClientModule) (style : Style) : List String :=
  "Web3" :: (module.imports.modules style).flatMap module.imports.names ++
    (contractInfo :: module.interfaces).map (·.name) ++ [module.client.name]

/-- The names that the module of a contract has at its top level whatever its types are. -/
def standingNames (members : List Member) : List String :=
  "Web3" :: contractInfoName :: importedNames members

theorem standingNames_nodup (members : List Member) : (standingNames members).Nodup := by
  unfold standingNames importedNames contractImports coreImports
  split <;> split <;> decide

/-- No interface may bear a fixed name. -/
theorem standingNames_reserved (members : List Member) (style : Style) (contract : String) :
    ∀ name ∈ standingNames members, name ∈ style.reservedNames contract := by
  intro name isFixed
  have isReserved : name = contractInfoName ∨ name ∈ moduleTypeNames := by
    revert isFixed
    unfold standingNames importedNames contractImports coreImports
    split <;> split <;> revert name <;> decide
  rcases isReserved with rfl | isReserved
  · exact List.mem_cons_self
  · exact List.mem_cons_of_mem _ (List.mem_cons_of_mem _ isReserved)

section

variable {style : Style} {contractModule coreModule : String} {contract : Json}
  {members : List Member} {module : ClientModule}

/-- The names at the top level are the fixed ones, those of the interfaces and that of the
class. -/
theorem ClientModule.topLevelNames_perm (isContract : style.contractModule = .text contractModule)
    (isCore : style.coreModule = .text coreModule)
    (found : module.IsFoundFor contract style members) :
    (module.topLevelNames style).Perm
      (standingNames members ++ module.interfaces.map (·.name) ++
        [style.className contract.display]) := by
  have imported := imports_perm isContract isCore members
  rw [topLevelNames, found.imports, found.named, standingNames, List.map_cons]
  refine .append_right _ ?_
  rw [List.append_cons, List.cons_append, List.cons_append, List.cons_append]
  refine .cons _ (.trans (.append_right _ (List.perm_append_singleton _ _)) ?_)
  exact (imported.append_right _).cons _

/-- The names at the top level differ exactly if the class bears none of the fixed names. -/
theorem ClientModule.topLevelNames_nodup_iff
    (isContract : style.contractModule = .text contractModule)
    (isCore : style.coreModule = .text coreModule)
    (found : module.IsFoundFor contract style members) :
    (module.topLevelNames style).Nodup ↔
      style.className contract.display ∉ standingNames members := by
  rw [(topLevelNames_perm isContract isCore found).nodup_iff, List.nodup_append,
    List.nodup_append]
  have notReserved : ∀ interface ∈ module.interfaces,
      interface.name ∉ style.reservedNames contract.display := fun interface member =>
    (found.wellFormed.fits_of_mem member).choose_spec.2.notReserved
  constructor
  · rintro ⟨_, _, apart⟩ isFixed
    exact apart _ (List.mem_append_left _ isFixed) _ (List.mem_singleton_self _) rfl
  · intro notFixed
    refine ⟨⟨standingNames_nodup members, found.wellFormed.namesDistinct, ?_⟩,
      List.nodup_singleton _, ?_⟩
    · rintro name isFixed other isOther rfl
      obtain ⟨interface, member, rfl⟩ := List.mem_map.mp isOther
      exact notReserved interface member (standingNames_reserved members _ _ _ isFixed)
    · rintro name isName other isOther rfl
      rw [List.mem_singleton.mp isOther] at isName
      rcases List.mem_append.mp isName with isFixed | isInterface
      · exact notFixed isFixed
      · obtain ⟨interface, member, same⟩ := List.mem_map.mp isInterface
        exact notReserved interface member
          (same ▸ List.mem_cons_of_mem _ List.mem_cons_self)

/-! ### Types of the language -/

/-- The names of the types that a module is written with and that the language has itself. -/
def builtinTypes : List String := ["bigint", "string", "boolean", "any", "void"]

theorem builtin_noUnderscore : ∀ builtin ∈ builtinTypes, '_' ∉ builtin.toList := by
  decide

theorem builtin_small : ∀ builtin ∈ builtinTypes, builtin.toList.head?.any Char.isLower := by
  decide

/-- A name without an underscore that is free is the one that was asked for. -/
theorem eq_of_freeName_eq {taken : List String} {asked name : String}
    (plain : '_' ∉ name.toList) (same : freeName taken asked = name) : asked = name := by
  unfold freeName at same
  split at same
  · subst same
    exact (plain (by simp [freeNumbered, numbered])).elim
  · exact same

/-- A result never bears the name of a type of the language. -/
theorem Source.Names.not_builtin {interfaces : List Interface} {suffix member : String}
    {outputs : List Parameter} {interface : Interface}
    (ofResult : (Source.result suffix member outputs).Names interfaces interface) :
    interface.name ∉ builtinTypes := by
  intro isBuiltin
  obtain ⟨asked, taken, names, same⟩ := ofResult.asked
  rw [Source.asked] at names
  obtain rfl := eq_of_freeName_eq (builtin_noUnderscore _ isBuiltin) same.symm
  have isSmall := builtin_small _ isBuiltin
  unfold resultName at names
  split at names
  · cases names
  · rename_i named
    obtain ⟨head, rest, capital, notSmall⟩ := capitalized_head (beq_eq_false_iff_ne.mp (by
      simpa using named))
    rw [← Except.ok.inj names, String.toList_append, capital, List.cons_append, List.head?_cons,
      Option.any_some, notSmall] at isSmall
    cases isSmall

/-- An interface with the name of a type of the language is that of a struct which was declared
with this name. -/
theorem ClientModule.declares_builtin_iff (found : module.IsFoundFor contract style members)
    {builtin : String} (isBuiltin : builtin ∈ builtinTypes) :
    (∃ interface ∈ module.interfaces, interface.name = builtin) ↔
      ∃ tuple ∈ tuplesAmong (writtenParameters members), tuple.structName = .ok builtin ∧
        ComponentsHaveName module.interfaces tuple.components builtin := by
  constructor
  · rintro ⟨interface, member, rfl⟩
    obtain ⟨source, isSource, names⟩ := found.named_source interface member
    cases source with
    | result suffix member outputs => exact (names.not_builtin isBuiltin).elim
    | tuple tuple =>
      obtain ⟨asked, taken, asks, same⟩ := names.asked
      have isAsked := eq_of_freeName_eq (builtin_noUnderscore _ isBuiltin) same.symm
      exact ⟨tuple, tuple_mem_clientSources_iff.mp isSource, isAsked ▸ asks, names.stands⟩
  · rintro ⟨tuple, _, _, stands⟩
    cases components : tuple.components with
    | none =>
      rw [components, ComponentsHaveName] at stands
      exact stands.elim
    | some components' =>
      rw [components, ComponentsHaveName] at stands
      obtain ⟨_, _, interface, member, named, _⟩ := stands
      exact ⟨interface, member, named⟩

end

/-! ### Accepted contracts -/

/-- What is generated for a contract comes of the members that are read from its ABI. -/
theorem exists_of_generate {options : Options} {contract : Contract} {collector told : Collector}
    {result : Generated} (accepts : generate options contract collector = (.ok result, told)) :
    ∃ members listening, contract.name = .text result.name ∧
      readAbi (.text result.name) contract.abi collector = (.ok members, listening) ∧
      assembleModule (.text result.name) members options.style listening =
        (.ok result.client, told) := by
  obtain ⟨named, isClient, _, _⟩ := generate_eq_ok_iff.mp accepts
  obtain ⟨members, listening, reads, assembles⟩ := generateClient_eq_ok_iff.mp isClient
  exact ⟨members, listening, (requireContractName_eq_ok named).1, reads, assembles⟩

/-- For every contract that is accepted, where the imports come from modules named by texts: the
names at the top level of its module differ exactly if the name of the class is none of those that
every client of such members has; and an interface bears the name of a type of the language exactly
if it stands for a struct that is written and was declared so. -/
theorem generate_topLevelNames {options : Options} {contract : Contract}
    {collector told : Collector} {result : Generated} {contractModule coreModule : String}
    (isContract : options.value .contractModule = .text contractModule)
    (isCore : options.value .coreModule = .text coreModule)
    (accepts : generate options contract collector = (.ok result, told)) :
    ∃ members listening module after, contract.name = .text result.name ∧
      readAbi (.text result.name) contract.abi collector = (.ok members, listening) ∧
      buildModule members (.start (.text result.name) options.style listening) =
        (.ok module, after) ∧
      result.client = module.render options.style ∧
      ((module.topLevelNames options.style).Nodup ↔
        options.style.className result.name ∉ standingNames members) ∧
      ∀ builtin ∈ builtinTypes,
        (∃ interface ∈ module.interfaces, interface.name = builtin) ↔
          ∃ tuple ∈ tuplesAmong (writtenParameters members), tuple.structName = .ok builtin ∧
            ComponentsHaveName module.interfaces tuple.components builtin := by
  obtain ⟨members, listening, named, reads, assembles⟩ := exists_of_generate accepts
  obtain ⟨module, after, builds, rendered, found⟩ := assembleModule_finds assembles
  exact ⟨members, listening, module, after, named, reads, builds, rendered,
    ClientModule.topLevelNames_nodup_iff isContract isCore found,
    fun _ isBuiltin => ClientModule.declares_builtin_iff found isBuiltin⟩

/-- Where classes get no ending, the class of a contract called `Contract` bears the name of an
import. -/
theorem contract_topLevelNames :
    ∃ (result : Generated) (told : Collector) (module : ClientModule),
      let options := Options.standard.set .classSuffix (.text "")
      generate options ⟨.text "Contract", .array [], .text "0x"⟩ .absent = (.ok result, told) ∧
        result.client = module.render options.style ∧
        ¬(module.topLevelNames options.style).Nodup := by
  have ends : endsWell (fun result _ => result.name == "Contract")
      (generate (Options.standard.set .classSuffix (.text ""))
        ⟨.text "Contract", .array [], .text "0x"⟩ .absent) := by
    decide +kernel
  obtain ⟨result, told, accepts, named⟩ := exists_of_endsWell ends
  obtain ⟨members, _, module, _, _, _, _, rendered, differ, _⟩ :=
    generate_topLevelNames rfl rfl accepts
  refine ⟨result, told, module, accepts, rendered, fun distinct => differ.mp distinct ?_⟩
  rw [eq_of_beq named]
  show "Contract" ∈ standingNames members
  simp [standingNames, importedNames, contractImports]

/-! ### A struct with the name of a type -/

/-- An ABI whose only function takes a struct called `string` that holds a number. -/
def stringStruct : Json :=
  .array [.object [
    ("type", .text "function"),
    ("name", .text "store"),
    ("inputs", .array [.object [
      ("name", .text "entry"),
      ("type", .text "tuple"),
      ("internalType", .text "struct string"),
      ("components", .array [.object [
        ("name", .text "value"),
        ("type", .text "uint256"),
        ("internalType", .text "uint256")]])]]),
    ("outputs", .array []),
    ("stateMutability", .text "view")]]

/-- The module that is generated for it declares an interface with the name of a type of the
language. -/
theorem stringStruct_declares_builtin :
    ∃ (result : Generated) (told listening : Collector) (members : List Member)
        (module : ClientModule) (after : Pass),
      generate .standard ⟨.text "Token", stringStruct, .text "0x"⟩ .absent = (.ok result, told) ∧
        readAbi (.text "Token") stringStruct .absent = (.ok members, listening) ∧
        buildModule members (.start (.text "Token") Options.standard.style listening) =
          (.ok module, after) ∧
        result.client = module.render Options.standard.style ∧
        ∃ interface ∈ module.interfaces, interface.name ∈ builtinTypes := by
  have ends : endsWell (fun _ _ => true)
      (generate .standard ⟨.text "Token", stringStruct, .text "0x"⟩ .absent) := by
    decide +kernel
  have declares : endsWell
      (fun members listening => endsWell
        (fun module _ => decide (∃ interface ∈ module.interfaces, interface.name ∈ builtinTypes))
        (buildModule members (.start (.text "Token") Options.standard.style listening)))
      (readAbi (.text "Token") stringStruct .absent) := by
    decide +kernel
  obtain ⟨result, told, accepts, _⟩ := exists_of_endsWell ends
  obtain ⟨members, listening, named, reads, assembles⟩ := exists_of_generate accepts
  obtain ⟨module, after, builds, rendered⟩ := exists_of_assembleModule assembles
  rw [← named] at reads builds
  rw [reads] at declares
  dsimp only [endsWell] at declares
  rw [builds] at declares
  exact ⟨result, told, listening, members, module, after, accepts, reads, builds, rendered,
    of_decide_eq_true declares⟩

end ContractClient
