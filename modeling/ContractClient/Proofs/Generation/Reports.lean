/-
This file proves that whoever listens is told of every deviation and of nothing else. When a
contract is accepted, the entries that were skipped are told first, in the order of the ABI. Then
come the functions whose methods do not bear their own names, in the same order, then the interfaces
that did not get the names requested for them, in the order in which they were registered, and at
last, if the ABI has no constructor, that there is a default `deploy` (`generate_notices`).

The notices are those of the module that is written, and not of what was done on the way: a function
is compared with its method, and an interface with the name that the first of its sources asks for.
-/

import ContractClient.Proofs.Abi.WellFormed
import ContractClient.Proofs.Client.Reports
import ContractClient.Proofs.Generation.TopLevel

namespace ContractClient

/-! ### The notices of a module -/

/-- What is told of the client of an ABI: the functions that do not have their own names as methods,
the interfaces that did not get the names requested for them, and that there is no constructor, if
that is so. -/
def clientNotices (contract : Json) (items : List Json) (methods : List Method)
    (requests : List (String × Interface)) : List Notice :=
  overloadNotices contract (functionsAmong (describedMembers items)) methods ++
    renamedNotices contract requests ++
      if (entriesOfKind .constructor items).isEmpty then [.defaultDeploy contract] else []

/-- The members have no constructor exactly if the ABI has no entry for one. -/
theorem MembersRead.constructorAmong_isNone {items : List Json} {members : List Member}
    (read : MembersRead items members) :
    (constructorAmong members).isNone = (entriesOfKind .constructor items).isEmpty := by
  have each := read.read .constructor
  show (membersOfKind .constructor members).getLast?.isNone = _
  generalize membersOfKind .constructor members = constructors at each ⊢
  generalize entriesOfKind .constructor items = entries at each ⊢
  cases each with
  | nil => rfl
  | cons _ _ =>
    rw [List.getLast?_cons]
    rfl

/-! ### Nothing is told twice -/

theorem eq_of_overloadNotice? {contract : Json} {entry : Member × Method} {notice : Notice}
    (isTold : overloadNotice? contract entry = some notice) :
    notice = .overloadRenamed entry.1.signature entry.2.name contract := by
  unfold overloadNotice? at isTold
  split at isTold
  · cases isTold
  · exact (Option.some.inj isTold).symm

theorem eq_of_renamedNotice? {contract : Json} {request : String × Interface} {notice : Notice}
    (isTold : renamedNotice? contract request = some notice) :
    notice = .interfaceRenamed request.1 request.2.name contract := by
  unfold renamedNotice? at isTold
  split at isTold
  · cases isTold
  · exact (Option.some.inj isTold).symm

/-- Functions that have signatures of their own are not told of twice. -/
theorem overloadNotices_nodup {functions : List Member} {methods : List Method} (contract : Json)
    (sameLength : functions.length = methods.length)
    (distinct : (functions.map Member.signature).Nodup) :
    (overloadNotices contract functions methods).Nodup := by
  have apart : (functions.zip methods).Pairwise fun first second =>
      first.1.signature ≠ second.1.signature := by
    rw [← List.map_fst_zip (Nat.le_of_eq sameLength), List.map_map] at distinct
    exact List.pairwise_map.mp distinct
  refine apart.filterMap _ fun first second differs notice isFirst other isSecond same => ?_
  rw [eq_of_overloadNotice? isFirst, eq_of_overloadNotice? isSecond] at same
  exact differs (Notice.overloadRenamed.inj same).1

/-- Interfaces that have names of their own are not told of twice. -/
theorem renamedNotices_nodup {requests : List (String × Interface)} (contract : Json)
    (distinct : (requests.map (·.2.name)).Nodup) : (renamedNotices contract requests).Nodup := by
  have apart : requests.Pairwise fun first second => first.2.name ≠ second.2.name :=
    List.pairwise_map.mp distinct
  refine apart.filterMap _ fun first second differs notice isFirst other isSecond same => ?_
  rw [eq_of_renamedNotice? isFirst, eq_of_renamedNotice? isSecond] at same
  exact differs (Notice.interfaceRenamed.inj same).2.1

theorem clientNotices_nodup {contract : Json} {items : List Json} {methods : List Method}
    {requests : List (String × Interface)}
    (sameLength : (functionsAmong (describedMembers items)).length = methods.length)
    (signatures : ((functionsAmong (describedMembers items)).map Member.signature).Nodup)
    (names : (requests.map (·.2.name)).Nodup) :
    (clientNotices contract items methods requests).Nodup := by
  have areOverloads : ∀ notice ∈ overloadNotices contract (functionsAmong (describedMembers items))
      methods, ∃ signature name, notice = .overloadRenamed signature name contract := by
    intro notice isTold
    obtain ⟨entry, _, isTold⟩ := List.mem_filterMap.mp isTold
    exact ⟨_, _, eq_of_overloadNotice? isTold⟩
  have areRenamed : ∀ notice ∈ renamedNotices contract requests,
      ∃ requested name, notice = .interfaceRenamed requested name contract := by
    intro notice isTold
    obtain ⟨request, _, isTold⟩ := List.mem_filterMap.mp isTold
    exact ⟨_, _, eq_of_renamedNotice? isTold⟩
  have areDeploy : ∀ notice ∈ if (entriesOfKind .constructor items).isEmpty then
      [Notice.defaultDeploy contract] else [], notice = .defaultDeploy contract := by
    intro notice isTold
    split at isTold
    · exact List.mem_singleton.mp isTold
    · cases isTold
  rw [clientNotices, List.nodup_append, List.nodup_append]
  refine ⟨⟨overloadNotices_nodup contract sameLength signatures,
    renamedNotices_nodup contract names, ?_⟩, ?_, ?_⟩
  · rintro notice isOverload other isRenamed rfl
    obtain ⟨_, _, rfl⟩ := areOverloads notice isOverload
    obtain ⟨_, _, ⟨⟩⟩ := areRenamed _ isRenamed
  · split
    · exact List.nodup_singleton _
    · exact .nil
  · rintro notice isOther other isDeploy rfl
    obtain rfl := areDeploy notice isDeploy
    rcases List.mem_append.mp isOther with isOverload | isRenamed
    · obtain ⟨_, _, ⟨⟩⟩ := areOverloads _ isOverload
    · obtain ⟨_, _, ⟨⟩⟩ := areRenamed _ isRenamed

/-! ### Whole contracts -/

/-- For every contract that is accepted while somebody listens: there is the module of its client,
whose interfaces are requested in turn by the parameters and results of the members, and what is
told besides what was told before are the skipped entries of the ABI and the notices of this module,
in this order. Of the module, nothing is told twice. -/
theorem generate_notices {options : Options} {contract : Contract} {before : List Notice}
    {told : Collector} {result : Generated}
    (accepts : generate options contract (.keeping before) = (.ok result, told)) :
    ∃ items module after requests,
      contract.abi = .array items ∧
      buildModule (describedMembers items) (.start contract.name options.style
        (.keeping (before ++ skippedNotices contract.name items))) = (.ok module, after) ∧
      result.client = module.render options.style ∧
      module.client.IsFor (MethodPlan.empty.extend (describedMembers items)).1
        (describedMembers items) ∧
      RequestedInTurn module.interfaces [] (clientRequests options.style (describedMembers items))
        requests ∧
      requests.map (·.2) = module.interfaces ∧
      told = .keeping (before ++ skippedNotices contract.name items ++
        clientNotices contract.name items module.client.methods requests) ∧
      (clientNotices contract.name items module.client.methods requests).Nodup := by
  obtain ⟨members, listening, named, reads, assembles⟩ := exists_of_generate accepts
  obtain ⟨items, isAbi, rfl, rfl⟩ := readAbi_described reads
  rw [isAbi] at reads
  have read := readAbi_members reads
  rw [Collector.keeping_addAll, ← named] at assembles
  obtain ⟨module, after, builds, rendered, found⟩ := assembleModule_finds assembles
  have isFor := (buildModule_isFor builds).1
  obtain ⟨requests, inTurn, areInterfaces, tells⟩ := buildModule_tells builds
  have methodNotices :
      planNotices contract.name (MethodPlan.empty.extend (describedMembers items)).2 =
        overloadNotices contract.name (functionsAmong (describedMembers items))
          module.client.methods := by
    rw [MethodPlan.extend_renamed read.signaturesDistinct]
    exact (overloadNotices_eq contract.name (isFor.methods.imp fun _ _ isFor => isFor.named)).symm
  have names : (requests.map (·.2.name)).Nodup := by
    have distinct := found.wellFormed.namesDistinct
    rwa [← areInterfaces, List.map_map] at distinct
  have isTold : told = after.collector :=
    (congrArg Prod.snd assembles).symm.trans (congrArg (fun run => run.2.collector) builds)
  refine ⟨items, module, after, requests, isAbi, builds, rendered, isFor, inTurn, areInterfaces,
    ?_, clientNotices_nodup isFor.methods.length_eq read.signaturesDistinct names⟩
  rw [isTold, tells, methodNotices, deployNotices, read.constructorAmong_isNone,
    Collector.keeping_addAll]
  rfl

/-! ### A contract with a deviation of every kind -/

/-- An order with one field, as a function takes it. -/
def orderInput (field : String) : Json :=
  .object [("name", .text "order"), ("type", .text "tuple"), ("internalType", .text "struct Order"),
    ("components", .array [.object [("name", .text field), ("type", .text "uint256")]])]

/-- A function with one input. -/
def singleInputEntry (name : String) (input : Json) : Json :=
  .object [("type", .text "function"), ("name", .text name), ("inputs", .array [input])]

/-- Two functions of one name, with an event between them, and a function that takes orders of
another shape. -/
def marketContract : Contract :=
  ⟨.text "Market", .array [
    singleInputEntry "pay" (orderInput "amount"),
    .object [("type", .text "event"), ("name", .text "Paid"), ("inputs", .array [])],
    singleInputEntry "pay" (.object [("name", .text "amount"), ("type", .text "uint256")]),
    singleInputEntry "refund" (orderInput "number")], .text "0x"⟩

/-- The event, the second function of its name, the second shape of its name and the missing
constructor are told, in this order. -/
theorem market_notices :
    ∃ result told items methods requests,
      generate .standard marketContract (.keeping []) = (.ok result, told) ∧
      told = .keeping ([] ++ skippedNotices (.text "Market") items ++
        clientNotices (.text "Market") items methods requests) ∧
      told.notices.map Notice.message =
        ["event \"Paid\" was skipped (no client method is generated).",
          "Overloaded function pay(uint256) is exposed as \"pay_2\".",
          "Declaration \"Order\" already exists with a different shape; emitted as \"Order_2\".",
          "No constructor in ABI; emitted default deploy()."] := by
  have ends : endsWell
      (fun _ told => decide (told.notices.map Notice.message =
        ["event \"Paid\" was skipped (no client method is generated).",
          "Overloaded function pay(uint256) is exposed as \"pay_2\".",
          "Declaration \"Order\" already exists with a different shape; emitted as \"Order_2\".",
          "No constructor in ABI; emitted default deploy()."]))
      (generate .standard marketContract (.keeping [])) := by
    decide +kernel
  obtain ⟨result, told, accepts, messages⟩ := exists_of_endsWell ends
  obtain ⟨items, module, _, requests, _, _, _, _, _, _, tells, _⟩ := generate_notices accepts
  exact ⟨result, told, items, module.client.methods, requests, accepts, tells,
    of_decide_eq_true messages⟩

end ContractClient
