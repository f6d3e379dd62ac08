/-
This file shows that the references of a client module come out even. Every type that the module
writes in a signature or in a field is a primitive one, or names an interface of the module; and
every interface is reached from a signature, so that what was registered for outputs that are not
written in the end, or for a struct whose shape was there already, leaves nothing behind.

Nothing is asked of the names of the structs. Where such a name ends in brackets itself, its text
can be read in two ways, and what is reached is reached by one of them; a name without an opening
bracket is read in one way only.
-/

import ContractClient.Proofs.Abi.Reading
import ContractClient.Proofs.Client.Discovery
import ContractClient.Proofs.Client.Writing

namespace ContractClient

/-! ### Closed modules -/

/-- The types of the module refer to primitive types and to its interfaces, and every interface is
reached from the signature of a method. -/
structure ClientModule.Closed (module : ClientModule) : Prop where
  arguments : ∀ method ∈ module.client.methods, ∀ argument ∈ method.arguments,
    Refers module.interfaces argument.ty.text
  deploy : ∀ argument ∈ module.client.deployArguments, Refers module.interfaces argument.ty.text
  answers : ∀ method ∈ module.client.methods, ∀ answer, method.call = .query answer →
    answer = .nothing ∧ answer.typeText = "void" ∨ Refers module.interfaces answer.typeText
  fields : ∀ interface ∈ module.interfaces, ∀ field ∈ interface.fields,
    Refers module.interfaces field.ty.text
  infoFields : ∀ field ∈ contractInfo.fields,
    field.ty.text = "any" ∨ Refers module.interfaces field.ty.text
  reached : ∀ interface ∈ module.interfaces, ∃ text ∈ module.client.texts,
    Reached module.interfaces text interface

theorem Method.mem_texts_of_argument {method : Method} {argument : Argument}
    (isArgument : argument ∈ method.arguments) : argument.ty.text ∈ method.texts :=
  List.mem_append_left _ (List.mem_map_of_mem isArgument)

theorem ClientClass.mem_texts_of_method {client : ClientClass} {method : Method} {text : String}
    (isMethod : method ∈ client.methods) (isText : text ∈ method.texts) : text ∈ client.texts :=
  List.mem_append_left _ (List.mem_flatMap.mpr ⟨method, isMethod, isText⟩)

/-- The type of an answer stands in the signature of its method, unless there is nothing to give
back. -/
theorem Answer.typeText_cases (answer : Answer) :
    answer = .nothing ∧ answer.typeText = "void" ∨ answer.typeText ∈ answer.texts := by
  cases answer with
  | nothing => exact .inl ⟨rfl, rfl⟩
  | value ty rebuilt => exact .inr (List.mem_singleton_self _)
  | record shape fields => exact .inr (List.mem_singleton_self _)

/-- What is found for the members of a contract makes up a closed module. -/
theorem ClientModule.IsFoundFor.closed {contract : Json} {style : Style} {members : List Member}
    {module : ClientModule} (found : module.IsFoundFor contract style members) :
    module.Closed := by
  constructor
  case arguments =>
    exact fun method isMethod argument isArgument => found.known _
      (ClientClass.mem_texts_of_method isMethod (Method.mem_texts_of_argument isArgument))
  case deploy =>
    exact fun argument isArgument => found.known _
      (List.mem_append_right _ (List.mem_map_of_mem isArgument))
  case answers =>
    intro method isMethod answer isQuery
    refine answer.typeText_cases.imp_right fun isText => found.known _ ?_
    refine ClientClass.mem_texts_of_method isMethod (List.mem_append_right _ ?_)
    rw [isQuery]
    exact isText
  case fields =>
    intro interface member field isField
    obtain ⟨earlier, front, fits⟩ := found.wellFormed.fits_of_mem member
    exact (fits.fieldsKnown field isField).refers.mono front
  case infoFields =>
    have string : Refers module.interfaces "string" := ⟨"string", 0, rfl, .inl (by decide)⟩
    simp only [contractInfo, List.forall_mem_cons]
    exact ⟨.inl rfl, .inr string, .inr string, nofun⟩
  case reached =>
    exact fun interface member =>
      (found.accounted.reached interface member).resolve_left List.not_mem_nil

/-- For all members, settings and collectors: a module that is assembled is closed. Its interfaces
are those that its text has, and its text has the signatures that refer to them. -/
theorem assembled_closed {contract : Json} {members : List Member} {style : Style}
    {collector told : Collector} {text : String}
    (assembles : assembleModule contract members style collector = (.ok text, told)) :
    ∃ module after, buildModule members (.start contract style collector) = (.ok module, after) ∧
      text = module.render style ∧ module.Closed ∧
      renderInterfaces module.interfaces style ∈ module.sections style ∧
      (∀ interface ∈ contractInfo :: module.interfaces,
        module.Writes style (interface.render style)) ∧
      ∀ part ∈ module.client.parts,
        module.Writes style (renderLines style.indentUnit 1 part) := by
  obtain ⟨module, after, builds, rendered, found⟩ := assembleModule_finds assembles
  exact ⟨module, after, builds, rendered, found.closed, module.interfaces_mem_sections style,
    fun _ member => module.writes_interface member, fun _ member => module.writes_part member⟩

/-! ### A module with nested structs -/

/-- A query that takes orders of items and gives two values back, and a transaction whose output is
a struct of its own. -/
def orderMembers : List Member :=
  let item : Parameter := ⟨"item", "tuple", "struct Shop.Item",
    some [⟨"label", "string", "string", none⟩, ⟨"prices", "uint256[]", "uint256[]", none⟩]⟩
  let order : Parameter := ⟨"orders", "tuple[]", "struct Shop.Order[]",
    some [item, ⟨"open", "bool", "bool", none⟩]⟩
  let receipt : Parameter := ⟨"", "tuple", "struct Shop.Receipt",
    some [⟨"number", "uint256", "uint256", none⟩]⟩
  [⟨.function, "total", [order],
      [⟨"sum", "uint256", "uint256", none⟩, ⟨"count", "uint8", "uint8", none⟩], "view"⟩,
    ⟨.function, "pay", [⟨"amount", "uint256", "uint256", none⟩], [receipt], "payable"⟩]

/-- The receipt of the transaction is written nowhere, and no interface is left behind for it. -/
theorem orderMembers_closed :
    ∃ module : ClientModule, module.Closed ∧
      module.interfaces.map (·.name) = ["Shop_Item", "Shop_Order", "TotalResult"] ∧
      module.client.texts = ["Shop_Order[]", "TotalResult", "bigint"] := by
  have assembles : endsWell (fun _ _ => true)
      (assembleModule (.text "Shop") orderMembers Options.standard.style .absent) := by
    decide +kernel
  have builds : endsWell
      (fun module _ => decide (
        module.interfaces.map (·.name) = ["Shop_Item", "Shop_Order", "TotalResult"] ∧
          module.client.texts = ["Shop_Order[]", "TotalResult", "bigint"]))
      (buildModule orderMembers (.start (.text "Shop") Options.standard.style .absent)) := by
    decide +kernel
  obtain ⟨text, told, assembles, _⟩ := exists_of_endsWell assembles
  obtain ⟨module, after, runs, _, closed, _⟩ := assembled_closed assembles
  rw [runs] at builds
  exact ⟨module, closed, of_decide_eq_true builds⟩

end ContractClient
