/-
This file says what the class of a client shows to its users. Behind the parts that every class has
there is one method for each function entry of the ABI, in their order, under the name that was
planned for the signature of the function; `deploy` stands at the end, and takes what the
constructor entry asks for. No two of these members bear one name (`assembled_surface`).

The names that are planned are those of one signature each, and never change, however many plans
are made one after the other.
-/

import ContractClient.Proofs.Abi.Members
import ContractClient.Proofs.Client.Built

namespace ContractClient

/-! ### Names in the class -/

/-- The parts that every class begins with. -/
def fixedParts : List (List Line) :=
  [fieldLines, constructorLines, checkLines, balanceLines]

/-- The name that a line at the level of the class declares: the letters and digits at its start,
behind the word that makes it private. -/
def declaredName? (line : Line) : Option String :=
  if line.depth = 0 then
    let text := line.text.toList
    let name := (if "private ".toList.isPrefixOf text then text.drop 8 else text).takeWhile
      Char.isAlphanum
    if name.isEmpty then none else some (String.ofList name)
  else none

/-- The names that the fixed parts declare. -/
def fixedNames : List String :=
  fixedParts.flatMap fun part => part.filterMap declaredName?

/-- The members that every class has are those of the fixed parts, and `deploy`. -/
theorem classMembers_eq : classMembers = fixedNames ++ ["deploy"] := by
  decide +kernel

/-- The lines are those of a class member of the name. -/
def Introduces (part : List Line) (name : String) : Prop :=
  ∃ value rest, part = ⟨0, name ++ " = " ++ value⟩ :: rest

theorem Method.lines_introduce (method : Method) : Introduces method.lines method.name := by
  have query : " = async (" = " = " ++ "async (" := rfl
  have transaction : " = (" = " = " ++ "(" := rfl
  unfold Introduces Method.lines Method.heading
  cases method.call with
  | query answer =>
    simp only [query, String.append_assoc]
    exact ⟨_, _, rfl⟩
  | transaction =>
    simp only [transaction, String.append_assoc]
    exact ⟨_, _, rfl⟩

theorem deployLines_introduce (arguments : List Argument) :
    Introduces (deployLines arguments) "deploy" := by
  have heading : "deploy = async (" = "deploy" ++ (" = " ++ "async (") := rfl
  unfold Introduces deployLines
  simp only [heading, String.append_assoc]
  exact ⟨_, _, rfl⟩

/-! ### Names of methods -/

section

variable {plan : MethodPlan} {functions : List Member} {methods : List Method}

/-- The methods bear the names that are planned for the signatures, in their order. -/
theorem map_nameOf?_eq
    (isFor : List.Forall₂ (fun function method => method.IsFor plan function) functions methods) :
    (functions.map Member.signature).map plan.nameOf? = (methods.map Method.name).map some := by
  induction isFor with
  | nil => rfl
  | cons isFirst _ inductionHypothesis =>
    simp only [List.map_cons, isFirst.named, inductionHypothesis]

/-- Methods of functions with signatures of their own have names of their own. -/
theorem methodNames_nodup (distinct : plan.taken.Nodup)
    (isFor : List.Forall₂ (fun function method => method.IsFor plan function) functions methods)
    (signatures : (functions.map Member.signature).Nodup) :
    (methods.map Method.name).Nodup := by
  refine List.Nodup.of_map some ?_
  rw [← map_nameOf?_eq isFor]
  refine List.Nodup.map_on (fun first isFirst second _ same => ?_) signatures
  have isName : plan.nameOf? first ∈ (methods.map Method.name).map some := by
    rw [← map_nameOf?_eq isFor]
    exact List.mem_map_of_mem isFirst
  obtain ⟨name, _, named⟩ := List.mem_map.mp isName
  exact MethodPlan.nameOf?_injective distinct named.symm (same ▸ named.symm)

/-- No method has the name of a member that every class has. -/
theorem methodNames_disjoint (distinct : plan.taken.Nodup)
    (isFor : List.Forall₂ (fun function method => method.IsFor plan function) functions methods) :
    ∀ name ∈ methods.map Method.name, name ∉ classMembers := by
  intro name isName
  have isPlanned : some name ∈ (functions.map Member.signature).map plan.nameOf? := by
    rw [map_nameOf?_eq isFor]
    exact List.mem_map_of_mem isName
  obtain ⟨signature, _, named⟩ := List.mem_map.mp isPlanned
  exact MethodPlan.nameOf?_not_mem distinct named

end

/-! ### Classes -/

/-- What the class of a client consists of: the fixed parts, the method of each function in their
order, and `deploy`. Each of them stands under its name, and the names of all of them differ. -/
structure ClientClass.Surface (plan : MethodPlan) (members : List Member) (client : ClientClass) :
    Prop where
  isFor : client.IsFor plan members
  parts : client.parts =
    fixedParts ++ client.methods.map Method.lines ++ [deployLines client.deployArguments]
  introduced : List.Forall₂ Introduces
    (client.methods.map Method.lines ++ [deployLines client.deployArguments])
    (client.methods.map Method.name ++ ["deploy"])
  distinct : (fixedNames ++ client.methods.map Method.name ++ ["deploy"]).Nodup

theorem ClientClass.IsFor.surface {plan : MethodPlan} {members : List Member}
    {client : ClientClass} (distinct : plan.taken.Nodup) (isFor : client.IsFor plan members)
    (signatures : ((functionsAmong members).map Member.signature).Nodup) :
    client.Surface plan members := by
  have methodsIntroduced : List.Forall₂ Introduces (client.methods.map Method.lines)
      (client.methods.map Method.name) := by
    rw [List.forall₂_map_left_iff, List.forall₂_map_right_iff, List.forall₂_same]
    exact fun method _ => method.lines_introduce
  refine ⟨isFor, rfl, ?introduced, ?distinct⟩
  case introduced =>
    exact List.rel_append methodsIntroduced (.cons (deployLines_introduce _) .nil)
  case distinct =>
    have together : (classMembers ++ client.methods.map Method.name).Nodup := by
      refine List.Nodup.append ?_ (methodNames_nodup distinct isFor.methods signatures) ?_
      · exact (List.nodup_append.mp distinct).1
      · exact List.disjoint_right.mpr (methodNames_disjoint distinct isFor.methods)
    rw [classMembers_eq, List.append_assoc] at together
    rw [List.append_assoc]
    exact (List.perm_append_comm.append_left fixedNames).nodup_iff.mp together

/-- The members of every ABI that is read come from its entries in their order; the class that is
assembled for them has one method for each function, under the name that is planned for its
signature, and `deploy` at the end, with distinct names. However many plans are made, each name is
that of one signature, is none of a class member, and stays. -/
theorem assembled_surface :
    (∀ (contract abi : Json) (style : Style) (collector told last : Collector)
        (members : List Member) (text : String),
      readAbi contract abi collector = (.ok members, told) →
      assembleModule contract members style told = (.ok text, last) →
        ∃ (items : List Json) (module : ClientModule), abi = .array items ∧
          MembersRead items members ∧ text = module.render style ∧
          module.client.Surface (MethodPlan.empty.extend members).1 members ∧
          module.client.IsTyped module.interfaces members) ∧
    ∀ (contract : Json) (style : Style) (collector : Collector)
        (earlier later : List (List Member)),
      (∀ members ∈ earlier ++ later, ((functionsAmong members).map Member.signature).Nodup) →
        let before := (planEach earlier (.start contract style collector)).plan
        let after := (planEach (earlier ++ later) (.start contract style collector)).plan
        before.Keeps after ∧
          (∀ first second name, after.nameOf? first = some name →
            after.nameOf? second = some name → first = second) ∧
          ∀ signature name, after.nameOf? signature = some name → name ∉ classMembers := by
  constructor
  case left =>
    intro contract abi style collector told last members text reads assembles
    obtain ⟨items, rfl⟩ := exists_items_of_readAbi reads
    have read := readAbi_members reads
    obtain ⟨module, rendered, isFor, isTyped⟩ := assembleModule_isFor assembles
    exact ⟨items, module, rfl, read, rendered,
      isFor.surface (MethodPlan.extend_taken members empty_taken) read.signaturesDistinct,
      isTyped⟩
  case right =>
    intro contract style collector earlier later distinct before after
    have named : after.taken.Nodup := planEach_taken (earlier ++ later) empty_taken
    refine ⟨?_, fun _ _ _ => MethodPlan.nameOf?_injective named,
      fun _ _ => MethodPlan.nameOf?_not_mem named⟩
    have keeps := planEach_keeps
      (fun members isLater => distinct members (List.mem_append_right _ isLater))
      (planEach earlier (.start contract style collector))
    rw [← planEach_append] at keeps
    exact keeps

/-! ### A class with overloads -/

/-- An ABI with two functions of one name, and one with the name of a class member between them. -/
def overloadedAbi : Json :=
  .array [
    .object [("type", .text "function"), ("name", .text "send"),
      ("inputs", .array [.object [("name", .text "to"), ("type", .text "address")]])],
    .object [("type", .text "function"), ("name", .text "deploy"),
      ("stateMutability", .text "view")],
    .object [("type", .text "constructor"),
      ("inputs", .array [.object [("name", .text "_supply"), ("type", .text "uint256")]])],
    .object [("type", .text "function"), ("name", .text "send"),
      ("inputs", .array [.object [("name", .text "to"), ("type", .text "address")],
        .object [("name", .text "amount"), ("type", .text "uint256")]])]]

/-- A module is assembled for the ABI, whose names hold no parenthesis. -/
theorem overloaded_assembles :
    ∃ (members : List Member) (told last : Collector) (text : String),
      readAbi (.text "Token") overloadedAbi .absent = (.ok members, told) ∧
        assembleModule (.text "Token") members Options.standard.style told = (.ok text, last) ∧
        (∀ function ∈ functionsAmong members, '(' ∉ function.name.toList) ∧
        ((functionsAmong members).map Member.signature).map
            (MethodPlan.empty.extend members).1.nameOf? =
          [some "send", some "deploy_", some "send_2"] ∧
        (functionsAmong members).map (MethodPlan.empty.extend members).1.accessor =
          [.bySignature "send(address)", .byName "deploy",
            .bySignature "send(address,uint256)"] ∧
        argumentNames (deployInputs (constructorAmong members)) = ["supply"] := by
  -- The members are known only behind the reading, so all of this is found by one evaluation.
  have found : endsWell (fun members told =>
      endsWell (fun _ _ => true)
          (assembleModule (.text "Token") members Options.standard.style told) &&
        decide ((∀ function ∈ functionsAmong members, '(' ∉ function.name.toList) ∧
          ((functionsAmong members).map Member.signature).map
              (MethodPlan.empty.extend members).1.nameOf? =
            [some "send", some "deploy_", some "send_2"] ∧
          (functionsAmong members).map (MethodPlan.empty.extend members).1.accessor =
            [.bySignature "send(address)", .byName "deploy",
              .bySignature "send(address,uint256)"] ∧
          argumentNames (deployInputs (constructorAmong members)) = ["supply"]))
      (readAbi (.text "Token") overloadedAbi .absent) := by
    decide +kernel
  obtain ⟨members, told, reads, found⟩ := exists_of_endsWell found
  obtain ⟨assembled, planned⟩ := Bool.and_eq_true_iff.mp found
  obtain ⟨text, last, assembles, _⟩ := exists_of_endsWell assembled
  exact ⟨members, told, last, text, reads, assembles, of_decide_eq_true planned⟩

/-- The second function of a name is numbered, and a function leaves `deploy` to the class. -/
theorem overloaded_surface :
    ∃ (members : List Member) (module : ClientModule),
      module.client.Surface (MethodPlan.empty.extend members).1 members ∧
        module.client.methods.map Method.name = ["send", "deploy_", "send_2"] ∧
        module.client.deployArguments.map (·.name) = ["supply"] := by
  obtain ⟨members, _, _, _, reads, assembles, _, names, _, arguments⟩ := overloaded_assembles
  obtain ⟨_, module, _, _, _, surface, _⟩ := assembled_surface.1 _ _ _ _ _ _ _ _ reads assembles
  refine ⟨members, module, surface, ?_, surface.isFor.deploy.trans arguments⟩
  rw [map_nameOf?_eq surface.isFor.methods] at names
  exact List.map_injective_iff.mpr (fun _ _ same => Option.some.inj same) names

end ContractClient
