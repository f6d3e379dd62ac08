/-
This file proves that a client module has no stray empty lines. Where the settings and the names of
a contract have no line breaks, the text of its module is laid out in its sections, with a single
empty line between any two of them, and no two lines in a row are empty (`assembled_isLaidOut`).

There is one exception. The types of inputs are read without the blanks around them, but the
signature of a function keeps them as they are given; and a method writes this signature where
functions share their name (`brokenType_hasGap`).
-/

import ContractClient.Proofs.Client.ImportSection
import ContractClient.Proofs.Client.Rebuilt
import ContractClient.Proofs.Client.Sections
import ContractClient.Proofs.Generation.Identifiers

namespace ContractClient

/-! ### Names and settings without line breaks -/

/-- No setting brings a line break into a module, and its header has no gap once it is trimmed. -/
structure Style.IsPlain (style : Style) : Prop where
  indentUnit : OneLine style.indentUnit.display
  resultSuffix : OneLine style.resultSuffix
  classSuffix : OneLine style.classSuffix
  web3Module : OneLine style.web3Module
  contractModule : OneLine style.contractModule.display
  coreModule : OneLine style.coreModule.display
  header : ∀ header ∈ style.header, ¬ HasGap (strip header)

/-- No name that a contract brings into its module has a line break: neither its own, nor those of
its functions, of their outputs, of the components of tuples and of the structs that these are. -/
structure OneLineNames (contract : Json) (members : List Member) : Prop where
  contract : OneLine contract.display
  functions : ∀ function ∈ functionsAmong members, OneLine function.name
  outputs : ∀ function ∈ functionsAmong members, ∀ output ∈ function.outputs, OneLine output.name
  components : ∀ tuple ∈ tuplesAmong (writtenParameters members),
    ∀ component ∈ tuple.components.getD [], OneLine component.name
  structs : ∀ tuple ∈ tuplesAmong (writtenParameters members),
    ∀ name, tuple.structName = .ok name → OneLine name

/-! ### Types -/

/-- A type is written on one line if the interfaces bear names of one line. -/
theorem Refers.oneLine {interfaces : List Interface}
    (named : ∀ interface ∈ interfaces, OneLine interface.name) {text : String}
    (refers : Refers interfaces text) : OneLine text := by
  obtain ⟨name, dimensions, rfl, isName⟩ := refers
  refine OneLine.append ?_ (oneLine_ofList_iff.mpr ?_)
  · have primitives : ∀ name ∈ primitiveNames, OneLine name := by decide
    rcases isName with primitive | ⟨interface, member, rfl⟩
    · exact primitives name primitive
    · exact named interface member
  · rw [bracketChars, List.mem_flatten]
    rintro ⟨brackets, isCopy, isBreak⟩
    rw [List.eq_of_mem_replicate isCopy] at isBreak
    exact absurd isBreak (by decide)

/-! ### Signatures -/

/-- The signature of a function with a name of one line begins and ends with other characters than
line breaks. -/
theorem Member.signature_framed {member : Member} (isOne : OneLine member.name) :
    Framed member.signature := by
  have front : IsLine (member.name ++ "(") := .append_left (by decide) isOne
  have back : IsLine ")" := by decide
  exact .append front.framed.starts.append_right back.framed.ends

/-- An accessor has the gaps of the signature, if that is what the function is found by. -/
theorem MethodPlan.accessor_laidOut (plan : MethodPlan) {function : Member}
    (isOne : OneLine function.name) :
    LaidOut (plan.accessor function).text
      (function.name ∈ plan.overloaded ∧ HasGap function.signature) := by
  unfold MethodPlan.accessor
  split
  · rename_i shared
    have laidOut := (function.signature_framed isOne).laidOut.surround (by decide : OneLine "['")
      (by decide : OneLine "']")
    exact ⟨laidOut.framed, laidOut.hasGap_iff.trans
      (and_iff_right (List.contains_iff_mem.mp shared)).symm⟩
  · rename_i alone
    have isLine : IsLine ("." ++ function.name) := .append_right (by decide) isOne
    refine ⟨isLine.framed, iff_of_false isLine.oneLine.not_hasGap fun ⟨shared, _⟩ => alone ?_⟩
    exact List.contains_iff_mem.mpr shared

/-! ### What is built is plain -/

section

variable {contract : Json} {members : List Member} {style : Style} {module : ClientModule}

theorem clientUses_isPlain (plain : style.IsPlain) (members : List Member) :
    Imports.IsPlain (clientUses style members) := by
  have query : ∀ name ∈ ["CallOptions"], OneLine name := by decide
  have transaction : ∀ name ∈ ["SendOptions"], OneLine name := by decide
  have core : ∀ name ∈ ["PromiEvent", "TransactionReceipt"], OneLine name := by decide
  have first : ∀ name ∈ ["Contract"], OneLine name := by decide
  have last : ∀ name ∈ ["Contract", "SendOptions"], OneLine name := by decide
  have uses : ∀ function ∈ functionsAmong members, Imports.IsPlain (function.uses style) := by
    intro function _
    unfold Member.uses
    split
    · exact List.forall_mem_singleton.mpr ⟨plain.contractModule, query⟩
    · exact List.forall_mem_cons.mpr ⟨⟨plain.contractModule, transaction⟩,
        List.forall_mem_singleton.mpr ⟨plain.coreModule, core⟩⟩
  refine List.forall_mem_cons.mpr ⟨⟨plain.contractModule, first⟩, ?_⟩
  refine List.forall_mem_append.mpr ⟨List.forall_mem_flatMap.mpr uses, ?_⟩
  exact List.forall_mem_singleton.mpr ⟨plain.contractModule, last⟩

/-- All interfaces bear names of one line, and so do their fields. -/
theorem OneLineNames.interfaceNames (names : OneLineNames contract members)
    (suffix : OneLine style.resultSuffix) (found : module.IsFoundFor contract style members) :
    ∀ interface ∈ module.interfaces, ∀ name ∈ interface.names, OneLine name := by
  intro interface member
  obtain ⟨source, isSource, named⟩ := found.named_source interface member
  obtain ⟨asked, taken, asks, same⟩ := named.asked
  have sameFields := named.fieldNames_perm found.wellFormed member
  suffices OneLine asked ∧ ∀ name ∈ source.fieldNames, OneLine name by
    refine List.forall_mem_cons.mpr ⟨same ▸ this.1.freeName taken, fun name isName => ?_⟩
    exact this.2 name (sameFields.mem_iff.mp isName)
  cases source with
  | tuple tuple =>
    have isTuple := tuple_mem_clientSources_iff.mp isSource
    exact ⟨names.structs tuple isTuple asked asks,
      List.forall_mem_map.mpr (names.components tuple isTuple)⟩
  | result ownSuffix name outputs =>
    obtain ⟨function, isFunction, several, rfl, rfl, rfl⟩ :=
      result_mem_clientSources_iff.mp isSource
    refine ⟨oneLine_of_resultName asks (names.functions function isFunction) suffix,
      oneLine_of_mem_outputFieldNames fun output isOutput => ?_⟩
    refine names.outputs function isFunction output ?_
    unfold Member.answered at isOutput
    split at isOutput
    · exact isOutput
    · exact (List.not_mem_nil isOutput).elim

/-- Arguments of one line, given their names and types. -/
theorem oneLine_arguments {arguments : List Argument} {parameters : List Parameter}
    (named : arguments.map (·.name) = argumentNames parameters)
    (types : ∀ argument ∈ arguments, OneLine argument.ty.text) :
    ∀ argument ∈ arguments, OneLine argument.text := by
  intro argument isArgument
  have isName : argument.name ∈ argumentNames parameters :=
    named ▸ List.mem_map_of_mem isArgument
  exact ((oneLine_of_mem_argumentNames _ isName).append (by decide)).append
    (types argument isArgument)

/-- What a call gives back is plain if its type and its values are written on one line each. -/
theorem CallKind.IsRebuilt.isPlain {interfaces : List Interface} {function : Member}
    {call : CallKind} (isRebuilt : call.IsRebuilt interfaces function)
    (fields : ∀ interface ∈ interfaces, ∀ field ∈ interface.fields, OneLine field.name)
    (outputs : ∀ output ∈ function.outputs, OneLine output.name)
    (types : ∀ answer, call = .query answer → OneLine answer.typeText) : call.IsPlain := by
  match call, isRebuilt with
  | .transaction, _ => trivial
  | .query .nothing, _ => exact ⟨types _ rfl, trivial⟩
  | .query (.value _ _), isRebuilt => exact ⟨types _ rfl, isRebuilt.oneLine fields⟩
  | .query (.record _ rebuilt), ⟨named, areRebuilt⟩ =>
    refine ⟨types _ rfl, fun field isField => ⟨?_, (areRebuilt field isField).oneLine fields⟩⟩
    exact oneLine_of_mem_outputFieldNames outputs _ (named ▸ List.mem_map_of_mem isField)

/-- What is built under plain names and plain settings is a plain module. -/
theorem OneLineNames.isPlain (names : OneLineNames contract members) (plain : style.IsPlain)
    {collector : Collector} {after : Pass}
    (builds : buildModule members (.start contract style collector) = (.ok module, after))
    (found : module.IsFoundFor contract style members)
    (header : style.header = some module.header) : module.IsPlain := by
  obtain ⟨isFor, _⟩ := buildModule_isFor builds
  have closed := found.closed
  have interfaceNames := names.interfaceNames plain.resultSuffix found
  have named : ∀ interface ∈ module.interfaces, OneLine interface.name := fun interface member =>
    interfaceNames interface member _ List.mem_cons_self
  have fields : ∀ interface ∈ module.interfaces, ∀ field ∈ interface.fields,
      OneLine field.name := fun interface member field isField =>
    interfaceNames interface member _ (List.mem_cons_of_mem _ (List.mem_map_of_mem isField))
  refine ⟨plain.header _ header, ?imports, fun interface member => ⟨named interface member, ?_⟩,
    ?name, ?methods, ?deploy⟩
  case imports =>
    rw [found.imports]
    exact Imports.IsPlain.useAll (fun _ none => (List.not_mem_nil none).elim)
      (clientUses_isPlain plain members)
  · exact fun field isField => ⟨fields interface member field isField,
      (closed.fields interface member field isField).oneLine named⟩
  case name =>
    rw [found.named]
    exact names.contract.append plain.classSuffix
  case deploy =>
    exact oneLine_arguments isFor.deploy fun argument isArgument =>
      (closed.deploy argument isArgument).oneLine named
  case methods =>
    intro method isMethod
    obtain ⟨function, isFunction, isMethodFor⟩ :=
      exists_of_mem_forall₂ isFor.methods method isMethod
    obtain ⟨wishing, isWishing, _, isWish⟩ := MethodPlan.exists_wish_of_nameOf? isMethodFor.named
    obtain ⟨answering, isAnswering, isRebuilt⟩ := buildModule_isRebuilt builds method isMethod
    refine ⟨isWish.oneLine (names.functions wishing isWishing), ?_, ?_, ?_⟩
    · exact oneLine_arguments isMethodFor.arguments fun argument isArgument =>
        (closed.arguments method isMethod argument isArgument).oneLine named
    · rw [isMethodFor.accessor]
      exact (MethodPlan.accessor_laidOut _ (names.functions function isFunction)).framed
    · refine isRebuilt.isPlain fields (names.outputs answering isAnswering) fun answer isQuery => ?_
      rcases closed.answers method isMethod answer isQuery with ⟨_, isVoid⟩ | refers
      · rw [isVoid]
        decide
      · exact refers.oneLine named

/-- The methods of a module have the gaps of the signatures of functions that share their names. -/
theorem OneLineNames.accessors_iff (names : OneLineNames contract members) {client : ClientClass}
    (isFor : client.IsFor (MethodPlan.empty.extend members).1 members) :
    (∃ method ∈ client.methods, HasGap method.accessor.text) ↔
      ∃ function ∈ functionsAmong members,
        1 < ((functionsAmong members).map Member.name).count function.name ∧
          HasGap function.signature := by
  have overloaded : ∀ name, name ∈ (MethodPlan.empty.extend members).1.overloaded ↔
      1 < ((functionsAmong members).map Member.name).count name := by
    intro name
    rw [MethodPlan.extend_overloaded, ← MethodPlan.mem_repeatedNames]
    exact Iff.rfl
  have areFor := (List.forall₂_and_left _ _).mpr ⟨names.functions, isFor.methods⟩
  refine (exists_mem_iff_of_forall₂ areFor fun function method ⟨isOne, isFor⟩ => ?_).symm
  rw [← overloaded, isFor.accessor]
  exact (MethodPlan.accessor_laidOut _ isOne).hasGap_iff.symm

/-- A module that is built has the header of its settings. -/
theorem header_of_buildModule {collector : Collector} {after : Pass}
    (builds : buildModule members (.start contract style collector) = (.ok module, after)) :
    style.header = some module.header := by
  obtain ⟨buildsClass, _, _, header⟩ := buildClass_of_buildModule builds
  obtain ⟨_, finds⟩ :=
    @buildClass_finds (style.reservedNames contract.display) _ _ _ _ buildsClass
  have sameStyle : after.style = style := finds.style
  rwa [sameStyle] at header

end

/-! ### Layout -/

/-- For all members, settings and collectors: where no name and no setting has a line break and the
trimmed header has no gap, the text that is assembled is laid out in its sections, the header first
if it says anything. Two lines of it in a row are empty only where that is so in the signature of a
function that shares its name with another one. -/
theorem assembled_isLaidOut {contract : Json} {members : List Member} {style : Style}
    {collector told : Collector} {text : String} (plain : style.IsPlain)
    (names : OneLineNames contract members)
    (assembles : assembleModule contract members style collector = (.ok text, told)) :
    ∃ module after, buildModule members (.start contract style collector) = (.ok module, after) ∧
      style.header = some module.header ∧
      IsLaidOut text (headerSections module.header ++ [module.imports.render style,
        renderInterfaces module.interfaces style, module.client.render style]) ∧
      (HasGap text ↔ ∃ function ∈ functionsAmong members,
        1 < ((functionsAmong members).map Member.name).count function.name ∧
          HasGap function.signature) := by
  obtain ⟨module, after, builds, rfl, found⟩ := assembleModule_finds assembles
  have header := header_of_buildModule builds
  have isFor := (buildModule_isFor builds).1
  obtain ⟨laidOut, gaps⟩ :=
    (names.isPlain plain builds found header).isLaidOut plain.indentUnit plain.web3Module
  exact ⟨module, after, builds, header, laidOut, gaps.trans (names.accessors_iff isFor)⟩

/-- The settings for a module whose header holds nothing but blanks. -/
def blankHeaderStyle : Style :=
  { Options.standard.style with header := some " \n\n\n\t" }

/-- A header of blanks leaves no section and no empty line behind. -/
theorem orderMembers_isLaidOut :
    ∃ (module : ClientModule) (text : String) (told : Collector),
      assembleModule (.text "Shop") orderMembers blankHeaderStyle .absent = (.ok text, told) ∧
        IsLaidOut text [module.imports.render blankHeaderStyle,
          renderInterfaces module.interfaces blankHeaderStyle,
          module.client.render blankHeaderStyle] ∧
        ¬ HasGap text := by
  have ends : endsWell (fun _ _ => true)
      (assembleModule (.text "Shop") orderMembers blankHeaderStyle .absent) := by
    decide +kernel
  have structs : ∀ tuple ∈ tuplesAmong (writtenParameters orderMembers),
      ∀ name ∈ tuple.structName.toOption, OneLine name := by
    decide +kernel
  obtain ⟨text, told, assembles, _⟩ := exists_of_endsWell ends
  have plain : blankHeaderStyle.IsPlain := by
    constructor <;> decide +kernel
  have names : OneLineNames (.text "Shop") orderMembers := by
    refine ⟨by decide, by decide +kernel, by decide +kernel, by decide +kernel, ?_⟩
    exact fun tuple isTuple name asks => structs tuple isTuple name (asks ▸ rfl)
  obtain ⟨module, _, _, isHeader, laidOut, gaps⟩ := assembled_isLaidOut plain names assembles
  have blank : headerSections " \n\n\n\t" = [] := by decide +kernel
  rw [← Option.some.inj isHeader, blank, List.nil_append] at laidOut
  exact ⟨module, text, told, assembles, laidOut,
    fun gap => absurd (gaps.mp gap) (by decide +kernel)⟩

/-- Two queries that share their name, one of which takes a number whose type stands behind empty
lines. -/
def brokenTypeMembers : List Member :=
  [⟨.function, "f", [], [], "view"⟩,
    ⟨.function, "f", [⟨"value", "\n\n\nuint256", "", none⟩], [], "view"⟩]

/-- No name has a line break here, but the module is assembled with two empty lines in a row. -/
theorem brokenType_hasGap :
    Options.standard.style.IsPlain ∧ OneLineNames (.text "Token") brokenTypeMembers ∧
      ∃ text told, assembleModule (.text "Token") brokenTypeMembers Options.standard.style .absent =
        (.ok text, told) ∧ HasGap text := by
  have ends : endsWell (fun _ _ => true)
      (assembleModule (.text "Token") brokenTypeMembers Options.standard.style .absent) := by
    decide +kernel
  have plain : Options.standard.style.IsPlain := by
    constructor <;> decide +kernel
  have names : OneLineNames (.text "Token") brokenTypeMembers := by
    refine ⟨by decide, by decide +kernel, by decide +kernel, by decide +kernel, ?_⟩
    have none : tuplesAmong (writtenParameters brokenTypeMembers) = [] := by decide +kernel
    exact none ▸ fun _ isTuple => (List.not_mem_nil isTuple).elim
  obtain ⟨text, told, assembles, _⟩ := exists_of_endsWell ends
  obtain ⟨module, after, builds, rfl, found⟩ := assembleModule_finds assembles
  have isPlain := names.isPlain plain builds found (header_of_buildModule builds)
  have isFor := (buildModule_isFor builds).1
  refine ⟨plain, names, _, told, assembles, ?_⟩
  rw [(isPlain.isLaidOut plain.indentUnit plain.web3Module).2, names.accessors_iff isFor]
  decide +kernel

end ContractClient
