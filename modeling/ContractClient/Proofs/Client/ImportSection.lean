/-
This file says what the import section of a client module holds. Its first line imports Web3; behind
it stands one statement for each module that anything is imported from, with the names in order.

A class is written with the types of its fields, of its arguments and of what its methods give back.
The types that its module does not have itself are imported, each of them from the module that the
settings name for it and in one statement only, and nothing else is (`importSection_exact`). Whether
the settings name one module for all of them or two makes no difference.
-/

import ContractClient.Proofs.Client.Imported
import ContractClient.Proofs.Client.References

namespace ContractClient

/-! ### Statements -/

/-- A statement that imports names from a module. -/
structure ImportStatement where
  module : String
  names : List String
deriving Repr, DecidableEq

/-- The text of a statement. -/
def ImportStatement.text (statement : ImportStatement) : String :=
  "import \x7b " ++ ", ".intercalate statement.names ++ " \x7d from '" ++ statement.module ++ "';"

/-- The line that imports Web3, which is all that its module exports. -/
def web3Statement (style : Style) : String :=
  "import Web3 from '" ++ style.web3Module ++ "';"

namespace Imports

/-- The statements for what is imported from the modules. -/
def statements (imports : Imports) (modules : List String) : List ImportStatement :=
  (modules.map fun module => ⟨module, imports.names (.text module)⟩).filter (·.names != [])

theorem statement?_text (imports : Imports) (module : String) :
    imports.statement? (.text module) =
      if imports.names (.text module) = [] then none
      else some (ImportStatement.text ⟨module, imports.names (.text module)⟩) := by
  unfold statement?
  cases imports.names (.text module) <;> rfl

theorem map_text_statements (imports : Imports) (modules : List String) :
    (imports.statements modules).map ImportStatement.text =
      (modules.map Json.text).filterMap imports.statement? := by
  induction modules with
  | nil => rfl
  | cons module rest inductionHypothesis =>
    rw [List.map_cons, List.filterMap_cons, ← inductionHypothesis, statement?_text]
    by_cases none : imports.names (.text module) = [] <;> simp [statements, none]

theorem mem_statements_iff {imports : Imports} {modules : List String}
    {statement : ImportStatement} :
    statement ∈ imports.statements modules ↔
      statement.module ∈ modules ∧ statement.names = imports.names (.text statement.module) ∧
        statement.names ≠ [] := by
  obtain ⟨module, names⟩ := statement
  simp only [statements, List.mem_filter, List.mem_map, ImportStatement.mk.injEq, bne_iff_ne]
  constructor
  · rintro ⟨⟨_, isModule, rfl, rfl⟩, filled⟩
    exact ⟨isModule, rfl, filled⟩
  · rintro ⟨isModule, rfl, filled⟩
    exact ⟨⟨_, isModule, rfl, rfl⟩, filled⟩

/-- No two statements import from one module. -/
theorem statements_modules_nodup (imports : Imports) {modules : List String}
    (distinct : modules.Nodup) : ((imports.statements modules).map (·.module)).Nodup := by
  have sublist : ((imports.statements modules).map (·.module)).Sublist
      ((modules.map fun module =>
        (⟨module, imports.names (.text module)⟩ : ImportStatement)).map (·.module)) :=
    List.filter_sublist.map _
  rw [List.map_map, show ImportStatement.module ∘ _ = id from rfl, List.map_id] at sublist
  exact distinct.sublist sublist

/-- The statements import all names that are imported from the modules. -/
theorem flatMap_names_statements (imports : Imports) (modules : List String) :
    (imports.statements modules).flatMap (·.names) =
      (modules.map Json.text).flatMap imports.names := by
  induction modules with
  | nil => rfl
  | cons module rest inductionHypothesis =>
    rw [List.map_cons, List.flatMap_cons, ← inductionHypothesis]
    by_cases none : imports.names (.text module) = [] <;> simp [statements, none]

/-- A statement lists its names in order. -/
theorem names_increasing {imports : Imports} (distinct : ∀ entry ∈ imports, entry.2.Nodup)
    (module : Json) : (imports.names module).Pairwise (· < ·) := by
  have nodup := names_nodup distinct module
  have ordered : (imports.names module).Pairwise fun left right => textLe left right = true := by
    unfold names
    split
    · exact inOrder_pairwise textLe_total textLe_trans _
    · exact .nil
  refine (ordered.and nodup).imp fun {left right} ⟨before, differ⟩ => ?_
  refine Decidable.byContradiction fun notBefore => differ ?_
  exact String.le_antisymm (of_decide_eq_true before) (String.not_lt.mp notBefore)

end Imports

/-! ### The types that a class is written with -/

/-- The fields of a class, each with the types that it may have. -/
def fieldTypes : List (String × List String) :=
  [("web3", ["Web3"]), ("contract", ["Contract", "undefined"]), ("abi", ["any", "undefined"]),
    ("address", ["string", "undefined"]), ("bytecode", ["string", "undefined"])]

/-- The types of what the constructor of a class takes. -/
def constructorTypes : List String := ["Web3", contractInfoName]

/-- The types of what a call takes and gives: that of its options, that of what it gives at once,
and that of what this brings in the end. -/
structure CallTypes where
  options : String
  promise : String
  brought : String

namespace CallTypes

/-- All types of a call. -/
def all (types : CallTypes) : List String :=
  [types.options, types.promise, types.brought]

/-- The first line of what makes a call. -/
def heading (types : CallTypes) (opening mark : String) (arguments : List Argument) : String :=
  opening ++ declaredArguments arguments (optionsName ++ mark ++ types.options) ++ "): " ++
    types.promise ++ "<" ++ types.brought ++ "> => \x7b"

end CallTypes

/-- The types of a call by a method. -/
def CallKind.types : CallKind → CallTypes
  | query answer => ⟨"CallOptions", "Promise", answer.typeText⟩
  | transaction => ⟨"SendOptions", "PromiEvent", "TransactionReceipt"⟩

/-- The types of the call that deploys a contract. -/
def deployTypes : CallTypes := ⟨"SendOptions", "Promise", "Contract"⟩

/-- The types of the query for the balance of a contract, which takes nothing. -/
def balanceTypes : List String := ["Promise", bigintName]

/-- The types that every class is written with. -/
def classTypes : List String :=
  fieldTypes.flatMap (·.2) ++ constructorTypes ++ balanceTypes ++ deployTypes.all

/-- The types that a class is written with, as often as they are written. -/
def ClientClass.types (client : ClientClass) : List String :=
  classTypes ++ client.methods.flatMap (fun method =>
    argumentTexts method.arguments ++ method.call.types.all) ++
      argumentTexts client.deployArguments

/-- The fields of a class are written with their types. -/
theorem fieldLines_types :
    fieldLines = fieldTypes.map fun field =>
      ⟨0, "private " ++ field.1 ++ ": " ++ " | ".intercalate field.2 ++ ";"⟩ := by
  decide +kernel

theorem constructorLines_types :
    constructorLines.head?.map (·.text) = some ("constructor(" ++ ", ".intercalate
      (List.zipWith (fun name type => name ++ ": " ++ type) ["web3", "contractInfo?"]
        constructorTypes) ++ ") \x7b") := by
  decide +kernel

theorem balanceLines_types :
    balanceLines.head?.map (·.text) =
      some ("balance = async (): " ++ "<".intercalate balanceTypes ++ "> => \x7b") := by
  decide +kernel

/-- A method is written with its types. -/
theorem Method.heading_types (method : Method) :
    method.heading = match method.call with
      | .query _ =>
        method.call.types.heading (method.name ++ " = async (") "?: " method.arguments
      | .transaction =>
        method.call.types.heading (method.name ++ " = (") ": " method.arguments := by
  unfold heading
  cases method.call <;> simp [CallKind.types, CallTypes.heading, String.append_assoc]

theorem deployLines_types (arguments : List Argument) :
    (deployLines arguments).head?.map (·.text) =
      some (deployTypes.heading "deploy = async (" ": " arguments) := by
  simp [deployLines, deployTypes, CallTypes.heading, String.append_assoc]

/-! ### What a class refers to -/

/-- The class of the module refers to the name: it is written with a type of that name, or with a
list of such, and the type is none that the module or the language has itself. -/
def ClientModule.RefersTo (module : ClientModule) (name : String) : Prop :=
  ∃ text ∈ module.client.types,
    (∃ dimensions, text = name ++ String.ofList (bracketChars dimensions)) ∧
      ¬ Refers module.interfaces text

/-- A text that does not end in a bracket is no type of a list. -/
theorem eq_of_append_brackets {text name : String} {dimensions : Nat}
    (plain : text.toList.getLast? ≠ some ']')
    (same : text = name ++ String.ofList (bracketChars dimensions)) : text = name := by
  cases dimensions with
  | zero => simpa using same
  | succ dimensions =>
    rw [same, String.toList_append, String.toList_ofList, bracketChars_add] at plain
    exact (plain (by simp [bracketChars])).elim

/-- The names that a class may need from the module of contracts. -/
def contractTypeNames : List String := ["Contract", "SendOptions", "CallOptions"]

/-- The names that a class may need from the core module. -/
def coreTypeNames : List String := ["PromiEvent", "TransactionReceipt"]

/-- The names that a module may import, besides Web3. -/
def importableNames : List String := contractTypeNames ++ coreTypeNames

/-- The types that the module of a class does not have itself. -/
def foreignTypes : List String :=
  classTypes ++ (CallKind.query .nothing).types.all ++ CallKind.transaction.types.all

theorem foreign_plain : ∀ text ∈ foreignTypes ++ moduleTypeNames,
    text.toList.getLast? ≠ some ']' := by
  decide +kernel

section

variable {style : Style} {contract : Json} {members : List Member} {module : ClientModule}

/-- No type of the module or of the language bears a name that is kept free. -/
theorem ClientModule.IsFoundFor.not_refers (found : module.IsFoundFor contract style members)
    {name : String} (isFree : name ∈ moduleTypeNames) : ¬ Refers module.interfaces name := by
  rintro ⟨known, dimensions, same, isKnown⟩
  obtain rfl := eq_of_append_brackets
    (foreign_plain name (List.mem_append_right _ isFree)) same
  rcases isKnown with isPrimitive | ⟨interface, member, rfl⟩
  · have apart : ∀ free ∈ moduleTypeNames, free ∉ primitiveNames := by decide +kernel
    exact apart name isFree isPrimitive
  · obtain ⟨_, _, fits⟩ := found.wellFormed.fits_of_mem member
    exact fits.notReserved (List.mem_cons_of_mem _ (List.mem_cons_of_mem _ isFree))

theorem ClientModule.IsFoundFor.refersTo_of_mem (found : module.IsFoundFor contract style members)
    {name : String} (isFree : name ∈ moduleTypeNames) (isType : name ∈ module.client.types) :
    module.RefersTo name :=
  ⟨name, isType, ⟨0, by simp⟩, found.not_refers isFree⟩

/-- A class queries its contract exactly if one of the functions changes nothing. -/
theorem ClientClass.IsFor.exists_query_iff {plan : MethodPlan} {client : ClientClass}
    (isFor : client.IsFor plan members) :
    (∃ method ∈ client.methods, ∃ answer, method.call = .query answer) ↔
      ∃ function ∈ functionsAmong members, function.mutability == some .readOnly := by
  refine (exists_mem_iff_of_forall₂ isFor.methods fun function method isFor => ?_).symm
  have fits := isFor.call
  cases called : method.call <;> simp_all [CallKind.Fits]

/-- A class sends transactions exactly if one of the functions may change something. -/
theorem ClientClass.IsFor.exists_transaction_iff {plan : MethodPlan} {client : ClientClass}
    (isFor : client.IsFor plan members) :
    (∃ method ∈ client.methods, method.call = .transaction) ↔
      ∃ function ∈ functionsAmong members, function.mutability != some .readOnly := by
  refine (exists_mem_iff_of_forall₂ isFor.methods fun function method isFor => ?_).symm
  have fits := isFor.call
  cases called : method.call <;> simp_all [CallKind.Fits]

/-- A type that the module does not know is one of those that all classes or all calls of a kind
are written with. -/
theorem ClientModule.IsFoundFor.mem_types_cases (found : module.IsFoundFor contract style members)
    {text : String} (isType : text ∈ module.client.types)
    (isForeign : ¬ Refers module.interfaces text) :
    text ∈ classTypes ∨
      (∃ method ∈ module.client.methods, ∃ answer, method.call = .query answer) ∧
        text ∈ (CallKind.query .nothing).types.all ∨
      (∃ method ∈ module.client.methods, method.call = .transaction) ∧
        text ∈ CallKind.transaction.types.all := by
  have notKnown : text ∉ module.client.texts := fun isKnown =>
    isForeign (found.known text isKnown)
  simp only [ClientClass.texts, List.mem_append, not_or] at notKnown
  simp only [ClientClass.types, List.mem_append, notKnown.2, or_false] at isType
  rcases isType with isClassType | isMethodType
  · exact .inl isClassType
  obtain ⟨method, isMethod, isMethodType⟩ := List.mem_flatMap.mp isMethodType
  have notOfMethod : text ∉ method.texts := fun isText =>
    notKnown.1 (List.mem_flatMap.mpr ⟨method, isMethod, isText⟩)
  rw [Method.texts, List.mem_append, not_or] at notOfMethod
  have isCallType := (List.mem_append.mp isMethodType).resolve_left notOfMethod.1
  cases called : method.call with
  | transaction => exact .inr (.inr ⟨⟨method, isMethod, called⟩, called ▸ isCallType⟩)
  | query answer =>
    refine .inr (.inl ⟨⟨method, isMethod, answer, called⟩, ?_⟩)
    rw [called] at isCallType notOfMethod
    rcases answer.typeText_cases with ⟨rfl, _⟩ | isText
    · exact isCallType
    · simp only [CallKind.types, CallTypes.all, List.mem_cons, List.not_mem_nil, or_false]
        at isCallType ⊢
      rcases isCallType with rfl | rfl | rfl
      · exact .inl rfl
      · exact .inr (.inl rfl)
      · exact (notOfMethod.2 isText).elim

/-- A class refers to the names that it imports, and to no other of those that could be imported. -/
theorem ClientModule.IsFoundFor.refersTo_iff (found : module.IsFoundFor contract style members)
    {plan : MethodPlan} (isFor : module.client.IsFor plan members) {name : String}
    (isImportable : name ∈ importableNames) :
    module.RefersTo name ↔ name ∈ importedNames members := by
  rw [importedNames, List.mem_append, mem_contractImports, mem_coreImports,
    ← isFor.exists_query_iff, ← isFor.exists_transaction_iff]
  constructor
  · rintro ⟨text, isType, ⟨dimensions, same⟩, isForeign⟩
    have isOneOf := found.mem_types_cases isType isForeign
    have isPlain : text ∈ foreignTypes := by
      simp only [foreignTypes, List.mem_append]
      rcases isOneOf with isClass | ⟨_, isQuery⟩ | ⟨_, isTransaction⟩
      · exact .inl (.inl isClass)
      · exact .inl (.inr isQuery)
      · exact .inr isTransaction
    obtain rfl := eq_of_append_brackets (foreign_plain text (List.mem_append_left _ isPlain)) same
    have ofClass : ∀ name ∈ importableNames, name ∈ classTypes →
        name = "Contract" ∨ name = "SendOptions" := by decide +kernel
    have ofQuery : ∀ name ∈ importableNames, name ∈ (CallKind.query .nothing).types.all →
        name = "CallOptions" := by decide +kernel
    have ofTransaction : ∀ name ∈ importableNames, name ∈ CallKind.transaction.types.all →
        name = "SendOptions" ∨ name ∈ ["PromiEvent", "TransactionReceipt"] := by decide +kernel
    rcases isOneOf with isClass | ⟨queries, isQuery⟩ | ⟨sends, isTransaction⟩
    · exact .inl ((ofClass text isImportable isClass).imp_right .inl)
    · exact .inl (.inr (.inr ⟨ofQuery text isImportable isQuery, queries⟩))
    · rcases ofTransaction text isImportable isTransaction with isOptions | isCore
      · exact .inl (.inr (.inl isOptions))
      · exact .inr ⟨isCore, sends⟩
  · intro isImported
    have areFree : ∀ name ∈ importableNames, name ∈ moduleTypeNames := by decide +kernel
    refine found.refersTo_of_mem (areFree name isImportable) ?_
    have ofClass : ∀ name ∈ classTypes, name ∈ module.client.types := fun _ isClass =>
      List.mem_append_left _ (List.mem_append_left _ isClass)
    have ofMethod : ∀ method ∈ module.client.methods, ∀ name ∈ method.call.types.all,
        name ∈ module.client.types := fun method isMethod _ isName =>
      List.mem_append_left _ (List.mem_append_right _
        (List.mem_flatMap.mpr ⟨method, isMethod, List.mem_append_right _ isName⟩))
    rcases isImported with (rfl | rfl | ⟨rfl, method, isMethod, answer, isQuery⟩) |
      ⟨isCore, method, isMethod, isTransaction⟩
    · exact ofClass _ (by decide +kernel)
    · exact ofClass _ (by decide +kernel)
    · exact ofMethod method isMethod _ (isQuery ▸ List.mem_cons_self)
    · exact ofMethod method isMethod _ (isTransaction ▸ List.mem_cons_of_mem _ isCore)

end

/-! ### Import sections -/

/-- The modules that a client imports from, each of them once. -/
def importModules (contractModule coreModule : String) : List String :=
  if contractModule = coreModule then [contractModule] else [contractModule, coreModule]

/-- The names that a module may import, besides Web3, with the modules that they come from. -/
def importOrigins (contractModule coreModule : String) : List (String × String) :=
  contractTypeNames.map (·, contractModule) ++ coreTypeNames.map (·, coreModule)

/-- The statements import exactly what the module refers to: each name from the module it comes
from and in one statement only, with one statement for each module and its names in order. -/
structure ClientModule.IsImportedBy (module : ClientModule) (origins : List (String × String))
    (statements : List ImportStatement) : Prop where
  oneEach : (statements.map (·.module)).Nodup
  filled : ∀ statement ∈ statements, statement.names ≠ []
  increasing : ∀ statement ∈ statements, statement.names.Pairwise (· < ·)
  once : (statements.flatMap (·.names)).Nodup
  exact : ∀ name origin,
    (∃ statement ∈ statements, statement.module = origin ∧ name ∈ statement.names) ↔
      (name, origin) ∈ origins ∧ module.RefersTo name

section

variable {style : Style} {contract : Json} {contractModule coreModule : String}
  {members : List Member} {module : ClientModule}

theorem fixedModules_text (isContract : style.contractModule = .text contractModule)
    (isCore : style.coreModule = .text coreModule) :
    Imports.fixedModules style = (importModules contractModule coreModule).map .text := by
  rw [Imports.fixedModules, importModules, isContract, isCore]
  by_cases same : contractModule = coreModule <;> simp [same]

theorem importModules_nodup (contractModule coreModule : String) :
    (importModules contractModule coreModule).Nodup := by
  unfold importModules
  split
  · exact List.nodup_singleton _
  · rename_i differ
    simpa using differ

theorem mem_importModules_iff {module : String} :
    module ∈ importModules contractModule coreModule ↔
      module = contractModule ∨ module = coreModule := by
  unfold importModules
  split
  · rename_i same
    simp [same]
  · simp

theorem mem_importOrigins_iff {name origin : String} :
    (name, origin) ∈ importOrigins contractModule coreModule ↔
      contractModule = origin ∧ name ∈ contractTypeNames ∨
        coreModule = origin ∧ name ∈ coreTypeNames := by
  simp only [importOrigins, List.mem_append, List.mem_map, Prod.mk.injEq]
  constructor
  · rintro (⟨_, isName, rfl, rfl⟩ | ⟨_, isName, rfl, rfl⟩)
    · exact .inl ⟨rfl, isName⟩
    · exact .inr ⟨rfl, isName⟩
  · rintro (⟨rfl, isName⟩ | ⟨rfl, isName⟩)
    · exact .inl ⟨_, isName, rfl, rfl⟩
    · exact .inr ⟨_, isName, rfl, rfl⟩

theorem contractImports_subset {members : List Member} :
    contractImports members ⊆ contractTypeNames := by
  unfold contractImports
  split <;> decide +kernel

theorem coreImports_subset {members : List Member} : coreImports members ⊆ coreTypeNames := by
  unfold coreImports
  split <;> decide +kernel

/-- The import section is that of Web3 and of the other statements. -/
theorem render_clientUses (isContract : style.contractModule = .text contractModule)
    (isCore : style.coreModule = .text coreModule) (members : List Member) :
    (Imports.useAll [] (clientUses style members)).render style =
      "\n".intercalate (web3Statement style ::
        ((Imports.useAll [] (clientUses style members)).statements
          (importModules contractModule coreModule)).map (·.text)) := by
  rw [Imports.render, modules_clientUses isContract isCore, fixedModules_text isContract isCore,
    Imports.map_text_statements]
  rfl

theorem ClientModule.IsFoundFor.isImportedBy (found : module.IsFoundFor contract style members)
    {plan : MethodPlan} (isFor : module.client.IsFor plan members)
    (isContract : style.contractModule = .text contractModule)
    (isCore : style.coreModule = .text coreModule) :
    module.IsImportedBy (importOrigins contractModule coreModule)
      (module.imports.statements (importModules contractModule coreModule)) := by
  have distinct : ∀ entry ∈ module.imports, entry.2.Nodup :=
    found.imports ▸ Imports.useAll_nodup (fun _ none => (List.not_mem_nil none).elim) _
  have mem_names : ∀ {origin name : String}, name ∈ module.imports.names (.text origin) ↔
      contractModule = origin ∧ name ∈ contractImports members ∨
        coreModule = origin ∧ name ∈ coreImports members :=
    found.imports ▸ mem_names_clientUses isContract isCore members
  constructor
  case oneEach => exact module.imports.statements_modules_nodup (importModules_nodup _ _)
  case filled => exact fun statement isStatement => (Imports.mem_statements_iff.mp isStatement).2.2
  case increasing =>
    intro statement isStatement
    rw [(Imports.mem_statements_iff.mp isStatement).2.1]
    exact Imports.names_increasing distinct _
  case once =>
    have perm : (((Imports.useAll [] (clientUses style members)).modules style).flatMap
        (Imports.useAll [] (clientUses style members)).names).Perm (importedNames members) :=
      imports_perm isContract isCore members
    rw [modules_clientUses isContract isCore, fixedModules_text isContract isCore,
      ← found.imports] at perm
    rw [Imports.flatMap_names_statements]
    exact perm.nodup_iff.mpr (importedNames_nodup members)
  case exact =>
    intro name origin
    have isStated : (∃ statement ∈
        module.imports.statements (importModules contractModule coreModule),
          statement.module = origin ∧ name ∈ statement.names) ↔
        name ∈ module.imports.names (.text origin) := by
      simp only [Imports.mem_statements_iff, mem_importModules_iff]
      constructor
      · rintro ⟨statement, ⟨_, same, _⟩, rfl, isName⟩
        exact same ▸ isName
      · intro isName
        refine ⟨⟨origin, module.imports.names (.text origin)⟩, ⟨?_, rfl, ?_⟩, rfl, isName⟩
        · exact (mem_names.mp isName).imp (·.1.symm) (·.1.symm)
        · exact List.ne_nil_of_mem isName
    have apart : ∀ name ∈ contractTypeNames, name ∉ coreTypeNames := by decide +kernel
    rw [isStated, mem_names, mem_importOrigins_iff]
    constructor
    · rintro (⟨same, isImported⟩ | ⟨same, isImported⟩)
      · have isOne := contractImports_subset isImported
        exact ⟨.inl ⟨same, isOne⟩, (found.refersTo_iff isFor (List.mem_append_left _ isOne)).mpr
          (List.mem_append_left _ isImported)⟩
      · have isOne := coreImports_subset isImported
        exact ⟨.inr ⟨same, isOne⟩, (found.refersTo_iff isFor (List.mem_append_right _ isOne)).mpr
          (List.mem_append_right _ isImported)⟩
    · rintro ⟨⟨same, isOne⟩ | ⟨same, isOne⟩, refers⟩
      · have isImported := (found.refersTo_iff isFor (List.mem_append_left _ isOne)).mp refers
        refine .inl ⟨same, (List.mem_append.mp isImported).resolve_right fun isCore => ?_⟩
        exact apart name isOne (coreImports_subset isCore)
      · have isImported := (found.refersTo_iff isFor (List.mem_append_right _ isOne)).mp refers
        refine .inr ⟨same, (List.mem_append.mp isImported).resolve_left fun isContract => ?_⟩
        exact apart name (contractImports_subset isContract) isOne

/-- A module always has an import section. -/
theorem ClientModule.imports_mem_sections (module : ClientModule) (style : Style) :
    module.imports.render style ∈ module.sections style := by
  have filled : module.imports.render style ≠ "" := by
    intro empty
    have starts := congrArg (fun text => text.toList.head?) empty
    unfold Imports.render at starts
    cases others : (module.imports.modules style).filterMap module.imports.statement? with
    | nil => simp [others, String.toList_append] at starts
    | cons first rest => simp [others, String.intercalate_cons_cons, String.toList_append] at starts
  exact List.mem_filter.mpr ⟨List.mem_cons_of_mem _ List.mem_cons_self, by simpa using filled⟩

/-- A function that is no query is a transaction. -/
theorem exists_transaction_iff (members : List Member) :
    (∃ function ∈ functionsAmong members, function.mutability != some .readOnly) ↔
      ∃ function ∈ functionsAmong members, function.mutability = some .mutating := by
  refine exists_congr fun function => and_congr_right fun isFunction => ?_
  have kind : function.kind = .function := by simpa using (List.mem_filter.mp isFunction).2
  unfold Member.mutability
  rw [kind]
  simp only
  split <;> simp

end

/-- For all members, settings and collectors: a module that is assembled imports Web3, and exactly
what its class refers to besides. That is `Contract` and `SendOptions` always, `CallOptions` if
there is a query, and `PromiEvent` and `TransactionReceipt` if there is a transaction. -/
theorem importSection_exact {contract : Json} {members : List Member} {style : Style}
    {collector told : Collector} {text contractModule coreModule : String}
    (isContract : style.contractModule = .text contractModule)
    (isCore : style.coreModule = .text coreModule)
    (assembles : assembleModule contract members style collector = (.ok text, told)) :
    ∃ module after, buildModule members (.start contract style collector) = (.ok module, after) ∧
      text = module.render style ∧
      module.imports.render style ∈ module.sections style ∧
      (∃ statements : List ImportStatement,
        module.imports.render style =
          "\n".intercalate (web3Statement style :: statements.map (·.text)) ∧
        module.IsImportedBy (importOrigins contractModule coreModule) statements) ∧
      module.RefersTo "Contract" ∧ module.RefersTo "SendOptions" ∧
      (module.RefersTo "CallOptions" ↔
        ∃ function ∈ functionsAmong members, function.mutability = some .readOnly) ∧
      ∀ name ∈ ["PromiEvent", "TransactionReceipt"], (module.RefersTo name ↔
        ∃ function ∈ functionsAmong members, function.mutability = some .mutating) := by
  obtain ⟨module, after, builds, rendered, found⟩ := assembleModule_finds assembles
  have isFor := (buildModule_isFor builds).1
  have refersTo : ∀ name ∈ importableNames,
      (module.RefersTo name ↔ name ∈ contractImports members ∨ name ∈ coreImports members) :=
    fun name isImportable => (found.refersTo_iff isFor isImportable).trans List.mem_append
  simp only [mem_contractImports, mem_coreImports, exists_transaction_iff, beq_iff_eq] at refersTo
  refine ⟨module, after, builds, rendered, module.imports_mem_sections style,
    ⟨_, ?_, found.isImportedBy isFor isContract isCore⟩, ?_, ?_, ?_, ?_⟩
  · rw [found.imports]
    exact render_clientUses isContract isCore members
  · exact (refersTo _ (by decide)).mpr (.inl (.inl rfl))
  · exact (refersTo _ (by decide)).mpr (.inl (.inr (.inl rfl)))
  · exact (refersTo _ (by decide)).trans (by simp)
  · intro name isCore
    rw [refersTo name (List.mem_append_right contractTypeNames isCore)]
    rcases List.mem_cons.mp isCore with rfl | isLast
    · simp
    · rw [List.mem_singleton.mp isLast]
      simp

/-- The settings for a module that imports everything from one module. -/
def oneModuleStyle : Style :=
  { Options.standard.style with contractModule := .text "web3-core" }

/-- A query and a transaction need all names, and one statement imports them. -/
theorem orderMembers_importSection :
    ∃ (module : ClientModule) (statements : List ImportStatement),
      module.imports.render oneModuleStyle = "\n".intercalate
        ["import Web3 from 'web3';",
          "import \x7b CallOptions, Contract, PromiEvent, SendOptions, TransactionReceipt " ++
            "\x7d from 'web3-core';"] ∧
      module.IsImportedBy (importOrigins "web3-core" "web3-core") statements ∧
      module.RefersTo "CallOptions" ∧ module.RefersTo "TransactionReceipt" := by
  have assembles : endsWell (fun _ _ => true)
      (assembleModule (.text "Shop") orderMembers oneModuleStyle .absent) := by
    decide +kernel
  have builds : endsWell
      (fun module _ => module.imports.render oneModuleStyle == "\n".intercalate
        ["import Web3 from 'web3';",
          "import \x7b CallOptions, Contract, PromiEvent, SendOptions, TransactionReceipt " ++
            "\x7d from 'web3-core';"])
      (buildModule orderMembers (.start (.text "Shop") oneModuleStyle .absent)) := by
    decide +kernel
  obtain ⟨text, told, assembles, _⟩ := exists_of_endsWell assembles
  have isCore : oneModuleStyle.coreModule = .text "web3-core" := rfl
  obtain ⟨module, after, runs, _, _, ⟨statements, _, isImported⟩, _, _, queries, sends⟩ :=
    importSection_exact rfl isCore assembles
  have written := of_endsWell builds runs
  refine ⟨module, statements, eq_of_beq written, isImported, queries.mpr ?_,
    (sends "TransactionReceipt" (by decide)).mpr ?_⟩ <;>
    decide +kernel

end ContractClient
