/-
This file says which names a module imports, where the modules it imports from are named by texts.
A name is imported from a module exactly if it was used from there (`mem_names_useAll`), and no
name twice from one module.

The client of a contract needs two names in any case, a third one for queries and two more for
transactions, and imports these and nothing else, even where both modules are one
(`imports_perm`).
-/

import ContractClient.Proofs.Client.Discovery

namespace ContractClient

/-! ### Names of modules -/

theorem NameKey.ofFraction_ne_text (negative : Bool) (numerator places : Nat) (name : String) :
    ofFraction negative numerator places ≠ .text name := by
  induction places generalizing numerator with
  | zero => exact nofun
  | succ places inductionHypothesis =>
    rw [ofFraction]
    split
    · exact inductionHypothesis _
    · exact nofun

theorem NameKey.ofBits_ne_text (bits : UInt64) (name : String) : ofBits bits ≠ .text name := by
  unfold ofBits
  split
  · exact nofun
  · exact nofun
  · exact ofFraction_ne_text _ _ _ _

/-- Only a text counts as one name with a text. -/
theorem Json.sameName_text_iff {value : Json} {name : String} :
    value.sameName (.text name) = true ↔ value = .text name := by
  rw [sameName_eq, Bool.and_eq_true, beq_iff_eq]
  cases value with
  | float bits => simp [nameKey?, NameKey.ofBits_ne_text]
  | _ => simp [isPlain, nameKey?]

namespace Imports

/-! ### Adding names -/

theorem mem_addNames {names others : List String} {name : String} :
    name ∈ addNames names others ↔ name ∈ names ∨ name ∈ others := by
  induction others generalizing names with
  | nil => simp [addNames]
  | cons other rest inductionHypothesis =>
    show name ∈ addNames (if names.contains other then names else names ++ [other]) rest ↔ _
    rw [inductionHypothesis, List.mem_cons]
    split
    · rename_i known
      have isKnown := List.contains_iff_mem.mp known
      constructor
      · rintro (before | later)
        · exact .inl before
        · exact .inr (.inr later)
      · rintro (before | rfl | later)
        · exact .inl before
        · exact .inl isKnown
        · exact .inr later
    · rw [List.mem_append, List.mem_singleton, or_assoc]

theorem addNames_nodup {names : List String} (distinct : names.Nodup) (others : List String) :
    (addNames names others).Nodup := by
  induction others generalizing names with
  | nil => exact distinct
  | cons other rest inductionHypothesis =>
    show (addNames (if names.contains other then names else names ++ [other]) rest).Nodup
    apply inductionHypothesis
    split
    · exact distinct
    · rename_i new
      refine List.nodup_append.mpr ⟨distinct, List.nodup_singleton _, ?_⟩
      rintro first isFirst second isSecond rfl
      rw [List.mem_singleton.mp isSecond] at isFirst
      exact new (List.contains_iff_mem.mpr isFirst)

/-! ### Imports from a module -/

theorem mem_names_iff {imports : Imports} {module : Json} {name : String} :
    name ∈ imports.names module ↔
      ∃ entry, imports.find? (·.1.sameName module) = some entry ∧ name ∈ entry.2 := by
  unfold names
  split
  · rename_i entry found
    rw [(inOrder_perm _ _).mem_iff, found]
    simp
  · rename_i none
    simp [none]

/-- A further use of names imports these, from its module, besides all others. -/
theorem mem_names_use {imports : Imports} {module other : String} {names : List String}
    {name : String} :
    name ∈ (imports.use (.text module) names).names (.text other) ↔
      name ∈ imports.names (.text other) ∨ module = other ∧ name ∈ names := by
  rw [mem_names_iff, mem_names_iff]
  induction imports with
  | nil =>
    by_cases same : module = other <;> simp [use, same, mem_addNames]
  | cons entry rest inductionHypothesis =>
    obtain ⟨first, known⟩ := entry
    by_cases isModule : first.sameName (.text module)
    · obtain rfl := Json.sameName_text_iff.mp isModule
      by_cases same : module = other <;> simp [use, same, mem_addNames]
    · rw [use, if_neg isModule]
      by_cases isOther : first.sameName (.text other)
      · have differs : module ≠ other := fun same => isModule (same ▸ isOther)
        simp [isOther, differs]
      · simpa [isOther] using inductionHypothesis

theorem mem_names_useAll {imports : Imports} {uses : List (Json × List String)}
    (named : ∀ entry ∈ uses, ∃ module, entry.1 = .text module) {other name : String} :
    name ∈ (imports.useAll uses).names (.text other) ↔
      name ∈ imports.names (.text other) ∨ ∃ entry ∈ uses, entry.1 = .text other ∧
        name ∈ entry.2 := by
  induction uses generalizing imports with
  | nil => simp [useAll]
  | cons entry rest inductionHypothesis =>
    obtain ⟨first, names⟩ := entry
    obtain ⟨module, rfl⟩ := named _ List.mem_cons_self
    show name ∈ ((imports.use (.text module) names).useAll rest).names (.text other) ↔ _
    rw [inductionHypothesis fun entry member => named entry (List.mem_cons_of_mem _ member),
      mem_names_use, or_assoc]
    simp

/-- No name is imported twice from one module. -/
theorem use_nodup {imports : Imports} (distinct : ∀ entry ∈ imports, entry.2.Nodup)
    (module : Json) (names : List String) :
    ∀ entry ∈ imports.use module names, entry.2.Nodup := by
  induction imports with
  | nil =>
    intro entry member
    rw [List.mem_singleton.mp member]
    exact addNames_nodup List.nodup_nil names
  | cons first rest inductionHypothesis =>
    have others := fun entry member => distinct entry (List.mem_cons_of_mem _ member)
    rw [use]
    split
    · rintro entry (_ | ⟨_, member⟩)
      · exact addNames_nodup (distinct _ List.mem_cons_self) names
      · exact others entry member
    · rintro entry (_ | ⟨_, member⟩)
      · exact distinct _ List.mem_cons_self
      · exact inductionHypothesis others entry member

theorem useAll_nodup {imports : Imports} (distinct : ∀ entry ∈ imports, entry.2.Nodup)
    (uses : List (Json × List String)) : ∀ entry ∈ imports.useAll uses, entry.2.Nodup := by
  induction uses generalizing imports with
  | nil => exact distinct
  | cons entry rest inductionHypothesis =>
    exact inductionHypothesis (use_nodup distinct entry.1 entry.2)

theorem names_nodup {imports : Imports} (distinct : ∀ entry ∈ imports, entry.2.Nodup)
    (module : Json) : (imports.names module).Nodup := by
  unfold names
  split
  · rename_i entry found
    exact (inOrder_perm _ _).nodup_iff.mpr (distinct entry (List.mem_of_find?_eq_some found))
  · exact List.nodup_nil

/-- Names are imported from the modules that they are used from, and from no others. -/
theorem use_modules (imports : Imports) (module : Json) (names : List String) :
    ∀ entry ∈ imports.use module names,
      entry.1 = module ∨ ∃ known ∈ imports, known.1 = entry.1 := by
  induction imports with
  | nil =>
    intro entry member
    rw [List.mem_singleton.mp member]
    exact .inl rfl
  | cons first rest inductionHypothesis =>
    rw [use]
    split
    · rintro entry (_ | ⟨_, member⟩)
      · exact .inr ⟨first, List.mem_cons_self, rfl⟩
      · exact .inr ⟨entry, List.mem_cons_of_mem _ member, rfl⟩
    · rintro entry (_ | ⟨_, member⟩)
      · exact .inr ⟨first, List.mem_cons_self, rfl⟩
      · refine (inductionHypothesis entry member).imp_right ?_
        exact fun ⟨known, isKnown, same⟩ => ⟨known, List.mem_cons_of_mem _ isKnown, same⟩

theorem useAll_modules (imports : Imports) (uses : List (Json × List String)) :
    ∀ entry ∈ imports.useAll uses, (∃ used ∈ uses, used.1 = entry.1) ∨
      ∃ known ∈ imports, known.1 = entry.1 := by
  induction uses generalizing imports with
  | nil => exact fun entry member => .inr ⟨entry, member, rfl⟩
  | cons first rest inductionHypothesis =>
    intro entry member
    rcases inductionHypothesis (imports.use first.1 first.2) entry member with
      ⟨used, isUsed, same⟩ | ⟨known, isKnown, same⟩
    · exact .inl ⟨used, List.mem_cons_of_mem _ isUsed, same⟩
    · rcases use_modules imports first.1 first.2 known isKnown with isFirst | before
      · exact .inl ⟨first, List.mem_cons_self, isFirst.symm.trans same⟩
      · exact .inr (same ▸ before)

end Imports

/-! ### The imports of a client -/

/-- The names that a client imports from the module of contracts. -/
def contractImports (members : List Member) : List String :=
  ["Contract", "SendOptions"] ++
    if (functionsAmong members).any (·.mutability == some .readOnly) then ["CallOptions"] else []

/-- The names that a client imports from the core module. -/
def coreImports (members : List Member) : List String :=
  if (functionsAmong members).any (·.mutability != some .readOnly) then
    ["PromiEvent", "TransactionReceipt"]
  else []

/-- The names that the client of a contract imports. -/
def importedNames (members : List Member) : List String :=
  contractImports members ++ coreImports members

theorem importedNames_nodup (members : List Member) : (importedNames members).Nodup := by
  unfold importedNames contractImports coreImports
  split <;> split <;> decide

/-- The function uses names of the module of contracts, and those of the core module if it is a
transaction. -/
theorem Member.mem_uses_iff (function : Member) {style : Style} {module : Json} {name : String} :
    (∃ entry ∈ function.uses style, entry.1 = module ∧ name ∈ entry.2) ↔
      style.contractModule = module ∧
          name = (if function.mutability == some .readOnly then "CallOptions"
            else "SendOptions") ∨
        style.coreModule = module ∧ function.mutability != some .readOnly ∧
          name ∈ ["PromiEvent", "TransactionReceipt"] := by
  unfold uses
  generalize function.mutability = called
  rcases called with _ | (_ | _) <;> simp

theorem mem_contractImports {members : List Member} {name : String} :
    name ∈ contractImports members ↔ name = "Contract" ∨ name = "SendOptions" ∨
      name = "CallOptions" ∧
        ∃ function ∈ functionsAmong members, function.mutability == some .readOnly := by
  rw [contractImports, List.mem_append, ← List.any_eq_true]
  generalize (functionsAmong members).any (·.mutability == some .readOnly) = queries
  cases queries <;> simp [or_assoc]

theorem mem_coreImports {members : List Member} {name : String} :
    name ∈ coreImports members ↔ name ∈ ["PromiEvent", "TransactionReceipt"] ∧
      ∃ function ∈ functionsAmong members, function.mutability != some .readOnly := by
  rw [coreImports, ← List.any_eq_true]
  generalize (functionsAmong members).any (·.mutability != some .readOnly) = transactions
  cases transactions <;> simp

/-- The names that a client uses come from two modules. -/
theorem mem_clientUses_iff {style : Style} {members : List Member} {module : Json}
    {name : String} :
    (∃ entry ∈ clientUses style members, entry.1 = module ∧ name ∈ entry.2) ↔
      style.contractModule = module ∧ name ∈ contractImports members ∨
        style.coreModule = module ∧ name ∈ coreImports members := by
  rw [mem_contractImports, mem_coreImports]
  constructor
  · rintro ⟨entry, isEntry, isModule, isName⟩
    rcases List.mem_cons.mp isEntry with rfl | isEntry
    · exact .inl ⟨isModule, .inl (List.mem_singleton.mp isName)⟩
    rcases List.mem_append.mp isEntry with isEntry | isLast
    · obtain ⟨function, isFunction, isEntry⟩ := List.mem_flatMap.mp isEntry
      rcases function.mem_uses_iff.mp ⟨entry, isEntry, isModule, isName⟩ with
        ⟨isContract, isName⟩ | ⟨isCore, isTransaction, isName⟩
      · refine .inl ⟨isContract, ?_⟩
        split at isName
        · rename_i isQuery
          exact .inr (.inr ⟨isName, function, isFunction, isQuery⟩)
        · exact .inr (.inl isName)
      · exact .inr ⟨isCore, isName, function, isFunction, isTransaction⟩
    · obtain rfl := List.mem_singleton.mp isLast
      simp only [List.mem_cons, List.not_mem_nil, or_false] at isName
      exact .inl ⟨isModule, isName.imp_right .inl⟩
  · have ofFunction : ∀ function ∈ functionsAmong members,
        (∃ entry ∈ function.uses style, entry.1 = module ∧ name ∈ entry.2) →
          ∃ entry ∈ clientUses style members, entry.1 = module ∧ name ∈ entry.2 := by
      rintro function isFunction ⟨entry, isEntry, holds⟩
      refine ⟨entry, List.mem_cons_of_mem _ (List.mem_append_left _ ?_), holds⟩
      exact List.mem_flatMap.mpr ⟨function, isFunction, isEntry⟩
    have ofDeploy : (style.contractModule, ["Contract", "SendOptions"]) ∈
        clientUses style members :=
      List.mem_cons_of_mem _ (List.mem_append_right _ (List.mem_singleton_self _))
    rintro (⟨isContract, rfl | rfl | ⟨rfl, function, isFunction, isQuery⟩⟩ |
      ⟨isCore, isName, function, isFunction, isTransaction⟩)
    · exact ⟨_, ofDeploy, isContract, List.mem_cons_self⟩
    · exact ⟨_, ofDeploy, isContract, List.mem_cons_of_mem _ (List.mem_singleton_self _)⟩
    · refine ofFunction function isFunction (function.mem_uses_iff.mpr (.inl ⟨isContract, ?_⟩))
      rw [if_pos isQuery]
    · exact ofFunction function isFunction
        (function.mem_uses_iff.mpr (.inr ⟨isCore, isTransaction, isName⟩))

theorem clientUses_modules {style : Style} {members : List Member} :
    ∀ entry ∈ clientUses style members,
      entry.1 = style.contractModule ∨ entry.1 = style.coreModule := by
  intro entry isEntry
  rcases List.mem_cons.mp isEntry with rfl | isEntry
  · exact .inl rfl
  rcases List.mem_append.mp isEntry with isEntry | isLast
  · obtain ⟨function, _, isEntry⟩ := List.mem_flatMap.mp isEntry
    unfold Member.uses at isEntry
    split at isEntry
    · exact .inl (congrArg Prod.fst (List.mem_singleton.mp isEntry))
    · rcases List.mem_cons.mp isEntry with rfl | isSecond
      · exact .inl rfl
      · exact .inr (congrArg Prod.fst (List.mem_singleton.mp isSecond))
  · exact .inl (congrArg Prod.fst (List.mem_singleton.mp isLast))

section

variable {style : Style} {contractModule coreModule : String}

/-- A client imports from the two fixed modules alone. -/
theorem modules_clientUses (isContract : style.contractModule = .text contractModule)
    (isCore : style.coreModule = .text coreModule) (members : List Member) :
    (Imports.useAll [] (clientUses style members)).modules style = Imports.fixedModules style := by
  have isFixed : ∀ module, module = style.contractModule ∨ module = style.coreModule →
      module.isAmong (Imports.fixedModules style) := by
    intro module isModule
    unfold Imports.fixedModules Json.isAmong
    rw [isContract, isCore] at isModule ⊢
    by_cases same : contractModule = coreModule <;> rcases isModule with rfl | rfl <;> simp [same]
  have noOther :
      (Imports.useAll [] (clientUses style members)).otherModules style = [] := by
    refine List.filter_eq_nil_iff.mpr fun module member => ?_
    obtain ⟨entry, isEntry, rfl⟩ := List.mem_map.mp member
    rcases Imports.useAll_modules [] _ entry isEntry with ⟨used, isUsed, same⟩ | ⟨_, none, _⟩
    · simp [isFixed entry.1 (same ▸ clientUses_modules used isUsed)]
    · cases none
  rw [Imports.modules, noOther]
  exact List.append_nil _

/-- A client imports from the module of contracts and from the core module what its members need
from there. -/
theorem mem_names_clientUses (isContract : style.contractModule = .text contractModule)
    (isCore : style.coreModule = .text coreModule) (members : List Member)
    {module name : String} :
    name ∈ (Imports.useAll [] (clientUses style members)).names (.text module) ↔
      contractModule = module ∧ name ∈ contractImports members ∨
        coreModule = module ∧ name ∈ coreImports members := by
  have named : ∀ entry ∈ clientUses style members, ∃ module, entry.1 = .text module := by
    intro entry isEntry
    rcases clientUses_modules entry isEntry with same | same
    · exact ⟨contractModule, same.trans isContract⟩
    · exact ⟨coreModule, same.trans isCore⟩
  rw [Imports.mem_names_useAll named, mem_clientUses_iff, isContract, isCore]
  simp [Imports.names]

/-- A client imports the names that its members need, in some order. -/
theorem imports_perm (isContract : style.contractModule = .text contractModule)
    (isCore : style.coreModule = .text coreModule) (members : List Member) :
    let imports := Imports.useAll [] (clientUses style members)
    ((imports.modules style).flatMap imports.names).Perm (importedNames members) := by
  intro imports
  have mem_names : ∀ {module name : String}, name ∈ imports.names (.text module) ↔
      contractModule = module ∧ name ∈ contractImports members ∨
        coreModule = module ∧ name ∈ coreImports members :=
    mem_names_clientUses isContract isCore members
  have none : ∀ entry ∈ ([] : Imports), entry.2.Nodup := fun _ => nofun
  have names_nodup : ∀ module, (imports.names module).Nodup :=
    Imports.names_nodup (Imports.useAll_nodup none _)
  rw [modules_clientUses isContract isCore members, Imports.fixedModules, isContract, isCore]
  have apart := importedNames_nodup members
  refine (List.perm_ext_iff_of_nodup ?_ apart).mpr fun name => ?_
  · by_cases same : contractModule = coreModule
    · simpa [same] using names_nodup _
    · have differs : coreModule ≠ contractModule := fun equal => same equal.symm
      simp only [Json.sameName_text, same, decide_false, Bool.false_eq_true, if_false,
        List.flatMap_cons, List.flatMap_nil, List.append_nil]
      refine List.nodup_append.mpr ⟨names_nodup _, names_nodup _, ?_⟩
      rintro first isFirst _ isSecond rfl
      have ofContract : first ∈ contractImports members := by
        simpa [mem_names, differs] using isFirst
      have ofCore : first ∈ coreImports members := by simpa [mem_names, same] using isSecond
      exact List.disjoint_of_nodup_append apart ofContract ofCore
  · by_cases same : contractModule = coreModule
    · simp [same, mem_names, importedNames]
    · have differs : coreModule ≠ contractModule := fun equal => same equal.symm
      simp [same, differs, mem_names, importedNames]

end

end ContractClient
