/-
This file says which ABIs are read. A well-formed ABI is a list of entries, each of them a function,
the constructor or one that is skipped, with one constructor at most and no two functions of one
signature (`AreEntries`). What its members are is told by the entries alone (`describedMembers`).

Reading goes from entry to entry up to the first one that cannot stand behind those in front of it
(`readEntries_upTo`). So it takes exactly the well-formed ABIs and notices exactly the entries that
it has skipped on its way, unless it reaches an entry that goes beyond a limit: one whose parameters
are nested deeper than can be read, or where something that is no text would have to be shown and
cannot be (`readsAsDescribed_iff`).
-/

import ContractClient.Proofs.Abi.Callables
import ContractClient.Proofs.Registry.Silence

namespace ContractClient

/-! ### What values describe -/

namespace Json

/-- The tag that the members of an object give, without the blanks around it. -/
def describedTag (members : List (String × Json)) : String :=
  match member? members "type" with
  | some (.text tag) => strip tag
  | _ => ""

/-- The text that a value gives, if it says something. -/
def describedText : Option Json → String
  | none => ""
  | some value => if value.isVacant then "" else value.display

mutual

/-- The parameter that the value describes. -/
def describedParameter : Json → Parameter
  | .object members =>
    { name := describedText (member? members "name")
      tag := describedTag members
      internalType := describedText (member? members "internalType")
      components := describedComponents members }
  | _ => ⟨"", "", "", none⟩
termination_by structural value => value

/-- The parameters that the first components among the members describe, if there are any. -/
def describedComponents : List (String × Json) → Option (List Parameter)
  | [] => none
  | (key, value) :: rest =>
    if key = "components" then some value.describedParameters else describedComponents rest
termination_by structural members => members

/-- The parameters that the value describes if it is a list of them. -/
def describedParameters : Json → List Parameter
  | .array items => describedItems items
  | _ => []
termination_by structural value => value

/-- The parameters that the items describe, one each. -/
def describedItems : List Json → List Parameter
  | [] => []
  | item :: rest => item.describedParameter :: describedItems rest
termination_by structural items => items

end

/-- The name that the entry gives. -/
def describedName (entry : List (String × Json)) : String :=
  match member? entry "name" with
  | some (.text name) => name
  | _ => ""

/-- The state that the entry gives, or that its flags tell. -/
def describedState (entry : List (String × Json)) : String :=
  match member? entry "stateMutability" with
  | some (.text state) => state
  | _ => flaggedState entry

/-- The member of the kind that the entry describes. A constructor has neither a name nor
outputs. -/
def memberOf (entry : List (String × Json)) : MemberKind → Member
  | .function =>
    { kind := .function
      name := describedName entry
      inputs := (parametersOf entry "inputs").describedParameters
      outputs := (parametersOf entry "outputs").describedParameters
      stateMutability := describedState entry }
  | .constructor =>
    { kind := .constructor
      name := ""
      inputs := (parametersOf entry "inputs").describedParameters
      outputs := []
      stateMutability := describedState entry }

/-- The member that the item of an ABI describes, if it says that it is a function or a
constructor. -/
def describedMember? : Json → Option Member
  | .object entry => (memberKind? entry).map (memberOf entry)
  | _ => none

end Json

/-- The members that the items of an ABI describe, in their order. -/
def describedMembers (items : List Json) : List Member :=
  items.filterMap Json.describedMember?

/-! ### Reading what is described -/

theorem eq_display_of_shown {levels : Nat} {value : Json} {text : String}
    (shows : value.shown levels = .ok text) : text = value.display := by
  obtain ⟨_, _, shows⟩ := exists_of_bind_eq_ok shows
  exact (Except.ok.inj shows).symm

theorem givenText_described {levels : Nat} {value : Option Json} {text : String}
    (gives : givenText levels value = .ok text) : text = Json.describedText value := by
  unfold givenText at gives
  unfold Json.describedText
  cases value with
  | none => exact (Except.ok.inj gives).symm
  | some value =>
    dsimp only at gives ⊢
    split at gives
    · rw [if_pos ‹_›]
      exact (Except.ok.inj gives).symm
    · rw [if_neg ‹_›]
      exact eq_display_of_shown gives

theorem readTag_described {owner : String} {index : Nat} {members : List (String × Json)}
    {tag : String} (reads : readTag owner index members = .ok tag) :
    tag = Json.describedTag members := by
  unfold readTag at reads
  unfold Json.describedTag
  cases given : Json.member? members "type" with
  | none =>
    rw [given] at reads
    cases reads
  | some value =>
    rw [given] at reads
    cases value with
    | text said =>
      dsimp only at reads
      split at reads
      · cases reads
      · exact (Except.ok.inj reads).symm
    | _ => cases reads

mutual

theorem readParameter_described (levels : Nat) (owner : String) (index : Nat) :
    ∀ (value : Json) (parameter : Parameter),
      readParameter levels owner index value = .ok parameter → parameter = value.describedParameter
  | .object members, parameter, reads => by
    rw [readParameter] at reads
    obtain ⟨tag, isTag, reads⟩ := exists_of_bind_eq_ok reads
    obtain ⟨components, areComponents, reads⟩ := exists_of_bind_eq_ok reads
    obtain ⟨name, isName, reads⟩ := exists_of_bind_eq_ok reads
    obtain ⟨internalType, isInternal, reads⟩ := exists_of_bind_eq_ok reads
    cases reads
    rw [Json.describedParameter, ← readTag_described isTag, ← givenText_described isName,
      ← givenText_described isInternal,
      ← readComponents_described levels owner index _ members components areComponents]
  | .null, _, reads => by
    rw [readParameter] at reads
    · cases reads
    all_goals simp
  | .boolean _, _, reads | .integer _, _, reads | .float _, _, reads | .text _, _, reads
  | .array _, _, reads => by
    rw [readParameter] at reads
    · cases reads
    all_goals simp

theorem readComponents_described (levels : Nat) (owner : String) (index : Nat)
    (name : Option Json) :
    ∀ (members : List (String × Json)) (components : Option (List Parameter)),
      readComponents levels owner index name members = .ok components →
        components = Json.describedComponents members
  | [], _, reads => (Except.ok.inj reads).symm
  | (key, value) :: rest, components, reads => by
    rw [readComponents] at reads
    rw [Json.describedComponents]
    split at reads
    · obtain ⟨owner, _, reads⟩ := exists_of_bind_eq_ok reads
      obtain ⟨parameters, areParameters, reads⟩ := exists_of_bind_eq_ok reads
      rw [readParameterList_described levels owner value parameters areParameters] at reads
      rw [if_pos ‹_›]
      exact (Except.ok.inj reads).symm
    · rw [if_neg ‹_›]
      exact readComponents_described levels owner index name rest components reads

theorem readParameterList_described (levels : Nat) (owner : String) :
    ∀ (value : Json) (parameters : List Parameter),
      readParameterList levels owner value = .ok parameters →
        parameters = value.describedParameters
  | .null, _, reads => (Except.ok.inj reads).symm
  | .array items, parameters, reads => by
    rw [readParameterList] at reads
    rw [Json.describedParameters]
    exact readParametersFrom_described levels owner 0 items parameters reads
  | .boolean _, _, reads | .integer _, _, reads | .float _, _, reads | .text _, _, reads
  | .object _, _, reads => by
    rw [readParameterList] at reads
    · cases reads
    all_goals simp

theorem readParametersFrom_described (levels : Nat) (owner : String) (index : Nat) :
    ∀ (items : List Json) (parameters : List Parameter),
      readParametersFrom levels owner index items = .ok parameters →
        parameters = Json.describedItems items
  | [], _, reads => (Except.ok.inj reads).symm
  | item :: rest, _, reads => by
    rw [readParametersFrom] at reads
    obtain ⟨below, _, reads⟩ := exists_of_bind_eq_ok reads
    obtain ⟨parameter, isParameter, reads⟩ := exists_of_bind_eq_ok reads
    obtain ⟨parameters, areParameters, reads⟩ := exists_of_bind_eq_ok reads
    cases reads
    rw [Json.describedItems, readParameter_described below owner index item _ isParameter,
      readParametersFrom_described levels owner (index + 1) rest _ areParameters]

end

theorem readName_described {index : Int} {kind : MemberKind} {entry : List (String × Json)}
    {name : String} (reads : readName index kind entry = .ok name) :
    name = Json.describedName entry := by
  unfold readName at reads
  unfold Json.describedName
  cases given : Json.member? entry "name" with
  | none =>
    rw [given] at reads
    dsimp only [Option.getD_none] at reads
    split at reads
    · cases reads
    · exact (Except.ok.inj reads).symm
  | some value =>
    rw [given, Option.getD_some] at reads
    cases value with
    | text said =>
      dsimp only at reads
      split at reads
      · cases reads
      · exact (Except.ok.inj reads).symm
    | _ => cases reads

theorem readState_described {owner : String} {entry : List (String × Json)} {state : String}
    (reads : readState owner entry = .ok state) : state = Json.describedState entry := by
  unfold readState at reads
  unfold Json.describedState
  cases given : Json.member? entry "stateMutability" with
  | none =>
    rw [given] at reads
    exact (Except.ok.inj reads).symm
  | some value =>
    rw [given] at reads
    cases value with
    | null => exact (Except.ok.inj reads).symm
    | text said =>
      dsimp only at reads
      split at reads
      · exact (Except.ok.inj reads).symm
      · cases reads
    | _ =>
      obtain ⟨_, _, fails⟩ := exists_of_bind_eq_ok reads
      cases fails

/-- An entry that is read becomes the member that it describes. -/
theorem readMember_described {index : Int} {entry : List (String × Json)} {member : Member}
    (reads : readMember index entry = .ok member) :
    Json.describedMember? (.object entry) = some member := by
  have said := memberKind?_of_readMember reads
  obtain ⟨kind, isKind, reads⟩ := exists_of_bind_eq_ok reads
  obtain ⟨name, isName, reads⟩ := exists_of_bind_eq_ok reads
  obtain ⟨inputs, areInputs, reads⟩ := exists_of_bind_eq_ok reads
  have inputs_eq := readParameterList_described _ _ _ _ areInputs
  rw [Json.describedMember?, said, Option.map_some]
  cases kind with
  | function =>
    obtain ⟨outputs, areOutputs, reads⟩ := exists_of_bind_eq_ok reads
    obtain ⟨state, isState, reads⟩ := exists_of_bind_eq_ok reads
    have outputs_eq := readParameterList_described _ _ _ _ areOutputs
    cases reads
    rw [readName_described isName, inputs_eq, outputs_eq, readState_described isState]
    rfl
  | constructor =>
    obtain ⟨state, isState, reads⟩ := exists_of_bind_eq_ok reads
    cases reads
    rw [inputs_eq, readState_described isState]
    rfl

theorem describedMember?_of_skipped {entry : List (String × Json)} {kind : String}
    (skipped : skippedKind? entry = some kind) : Json.describedMember? (.object entry) = none := by
  rw [Json.describedMember?, memberKind?_of_skipped skipped]
  rfl

theorem describedMembers_append (before after : List Json) :
    describedMembers (before ++ after) = describedMembers before ++ describedMembers after :=
  List.filterMap_append

theorem describedMembers_skipped {entry : List (String × Json)} {kind : String}
    (skipped : skippedKind? entry = some kind) : describedMembers [.object entry] = [] :=
  List.filterMap_cons_none (describedMember?_of_skipped skipped)

theorem describedMembers_read {index : Int} {entry : List (String × Json)} {member : Member}
    (reads : readMember index entry = .ok member) :
    describedMembers [.object entry] = [member] :=
  List.filterMap_cons_some (readMember_described reads)

/-! ### Well-formed ABIs -/

/-- Whether the item of an ABI is an entry that can stand there. -/
def Json.isEntry : Json → Bool
  | .object entry => (skippedKind? entry).isSome || isMember entry
  | _ => false

/-- The items make up an ABI. -/
structure AreEntries (items : List Json) : Prop where
  entries : ∀ item ∈ items, item.isEntry = true
  coexist : ∀ kind, Coexist kind (membersOfKind kind (describedMembers items))

/-- The value is an ABI: a list of functions, constructors and skipped entries, with one constructor
at most and no two functions of one signature. -/
def IsAbi : Json → Prop
  | .array items => AreEntries items
  | _ => False

theorem Coexist.front {kind : MemberKind} {before after : List Member}
    (coexist : Coexist kind (before ++ after)) : Coexist kind before := by
  cases kind with
  | function =>
    rw [Coexist, List.map_append] at coexist
    exact coexist.of_append_left
  | constructor =>
    rw [Coexist, List.length_append] at coexist
    exact Nat.le_trans (Nat.le_add_right _ _) coexist

theorem membersOfKind_append (kind : MemberKind) (before after : List Member) :
    membersOfKind kind (before ++ after) =
      membersOfKind kind before ++ membersOfKind kind after :=
  List.filter_append ..

/-- Whatever an ABI begins with is an ABI. -/
theorem AreEntries.front {before after : List Json} (are : AreEntries (before ++ after)) :
    AreEntries before where
  entries item isIn := are.entries item (List.mem_append_left after isIn)
  coexist kind := by
    have coexist := are.coexist kind
    rw [describedMembers_append, membersOfKind_append] at coexist
    exact coexist.front

theorem AreEntries.nil : AreEntries [] where
  entries _ isIn := absurd isIn List.not_mem_nil
  coexist kind := by
    cases kind with
    | function => exact List.nodup_nil
    | constructor => exact Nat.zero_le 1

/-- The items make up an ABI, and none of them meets a limit when it is read. A limit for the notice
that an item was skipped counts only if somebody listens. -/
structure CanBeRead (listened : Bool) (items : List Json) : Prop extends AreEntries items where
  within : ∀ entry, .object entry ∈ items → Json.entryLimit? listened entry = none

section

variable {listened : Bool} {before : List Json} {entry : List (String × Json)}

theorem CanBeRead.nil : CanBeRead listened [] where
  toAreEntries := .nil
  within _ isIn := absurd isIn List.not_mem_nil

/-- What can be read is followed by another entry that can be. -/
theorem CanBeRead.snoc (can : CanBeRead listened before)
    (are : AreEntries (before ++ [.object entry]))
    (within : Json.entryLimit? listened entry = none) :
    CanBeRead listened (before ++ [.object entry]) where
  toAreEntries := are
  within other isIn := by
    rcases List.mem_append.mp isIn with isIn | isLast
    · exact can.within other isIn
    · cases List.mem_singleton.mp isLast
      exact within

theorem AreEntries.skip {kind : String} (are : AreEntries before)
    (skipped : skippedKind? entry = some kind) : AreEntries (before ++ [.object entry]) where
  entries := by
    refine List.forall_mem_append.mpr ⟨are.entries, List.forall_mem_singleton.mpr ?_⟩
    rw [Json.isEntry, skipped]
    rfl
  coexist := by
    rw [describedMembers_append, describedMembers_skipped skipped, List.append_nil]
    exact are.coexist

theorem AreEntries.add {index : Int} {member : Member} (are : AreEntries before)
    (isMember : Json.isMember entry = true) (reads : readMember index entry = .ok member)
    (isNew : requireNew (describedMembers before) member = .ok ()) :
    AreEntries (before ++ [.object entry]) where
  entries := by
    refine List.forall_mem_append.mpr ⟨are.entries, List.forall_mem_singleton.mpr ?_⟩
    rw [Json.isEntry, isMember, Bool.or_true]
  coexist := by
    rw [describedMembers_append, describedMembers_read reads]
    exact coexist_of_requireNew isNew are.coexist

end

/-! ### Reading entries -/

/-- The notice that the item of an ABI was skipped, if it is. -/
def skippedNotice? (contract : Json) : Json → Option Notice
  | .object entry =>
    (skippedKind? entry).map fun kind =>
      .skipped (.text kind) (skippedName entry) contract
  | _ => none

/-- The notices of the items that are skipped, in their order. -/
def skippedNotices (contract : Json) (items : List Json) : List Notice :=
  items.filterMap (skippedNotice? contract)

/-- The items of an ABI are read behind those that have been read before, up to the first that
cannot be read there. -/
inductive ReadsUpTo (contract : Json) (before items : List Json) (collector : Collector) :
    Except Fault (List Member) × Collector → Prop
  | all : CanBeRead collector.isPresent (before ++ items) →
      ReadsUpTo contract before items collector
        (.ok (describedMembers (before ++ items)),
          collector.addAll (skippedNotices contract items))
  | malformed (reached : List Json) (item : Json) (rest : List Json) (cause : ShapeFault) :
      items = reached ++ item :: rest → CanBeRead collector.isPresent (before ++ reached) →
      ¬ AreEntries (before ++ reached ++ [item]) →
      (∀ entry, item = .object entry → Json.entryLimit? collector.isPresent entry = none) →
      ReadsUpTo contract before items collector
        (.error (.shape cause), collector.addAll (skippedNotices contract reached))
  | limited (reached : List Json) (entry : List (String × Json)) (rest : List Json)
      (limit : Defect) :
      items = reached ++ .object entry :: rest →
      CanBeRead collector.isPresent (before ++ reached) →
      Json.entryLimit? collector.isPresent entry = some limit →
      ReadsUpTo contract before items collector
        (.error (.defect limit), collector.addAll (skippedNotices contract reached))

section

variable {contract : Json} {before : List Json} {collector : Collector}

theorem skippedNotices_cons (contract item : Json) (rest : List Json) (collector : Collector) :
    collector.addAll (skippedNotices contract (item :: rest)) =
      (collector.addAll (skippedNotices contract [item])).addAll
        (skippedNotices contract rest) := by
  rw [← Collector.addAll_append, skippedNotices, skippedNotices, skippedNotices,
    ← List.filterMap_append]
  rfl

/-- What is read behind an item of an ABI is read behind it as the next of the items. -/
theorem ReadsUpTo.next {item : Json} {rest : List Json}
    {run : Except Fault (List Member) × Collector}
    (reads : ReadsUpTo contract (before ++ [item]) rest
      (collector.addAll (skippedNotices contract [item])) run) :
    ReadsUpTo contract before (item :: rest) collector run := by
  cases reads with
  | all can =>
    rw [← skippedNotices_cons, ← List.append_cons]
    rw [Collector.isPresent_addAll, ← List.append_cons] at can
    exact .all can
  | malformed reached other later cause split can not within =>
    rw [← skippedNotices_cons]
    rw [Collector.isPresent_addAll, ← List.append_cons] at can
    rw [← List.append_cons] at not
    rw [Collector.isPresent_addAll] at within
    exact .malformed (item :: reached) other later cause (congrArg _ split) can not within
  | limited reached entry later limit split can beyond =>
    rw [← skippedNotices_cons]
    rw [Collector.isPresent_addAll] at can beyond
    rw [← List.append_cons] at can
    exact .limited (item :: reached) entry later limit (congrArg _ split) can beyond

/-- An entry that is neither skipped nor new and well formed ends the reading. -/
theorem not_areEntries_of_isMember {entry : List (String × Json)}
    (noSkip : skippedKind? entry = none) (noMember : Json.isMember entry = false) :
    ¬ AreEntries (before ++ [.object entry]) := by
  intro are
  have isEntry := are.entries (.object entry) (by simp)
  rw [Json.isEntry, noSkip, noMember] at isEntry
  cases isEntry

theorem not_areEntries_of_requireNew {entry : List (String × Json)} {index : Int} {member : Member}
    (reads : readMember index entry = .ok member)
    (notNew : requireNew (describedMembers before) member ≠ .ok ()) :
    ¬ AreEntries (before ++ [.object entry]) := by
  intro are
  have coexist := are.coexist member.kind
  rw [describedMembers_append, describedMembers_read reads, membersOfKind_append_singleton,
    if_pos rfl] at coexist
  exact notNew (requireNew_of_coexist coexist)

/-- Behind a new member the reading goes on. -/
theorem readEntries_new {known : List Member} {entry : List (String × Json)} {index : Nat}
    {rest : List Json} {member : Member} (noSkip : skippedKind? entry = none)
    (isRead : readMember index entry = .ok member) (isNew : requireNew known member = .ok ()) :
    readEntries contract known index (.object entry :: rest) collector =
      readEntries contract (known ++ [member]) (index + 1) rest collector := by
  rw [readEntries, noSkip]
  simp only [isRead, bind, Except.bind, isNew]
  rfl

/-- An entry that is no new member ends the reading. -/
theorem readEntries_stops {known : List Member} {entry : List (String × Json)} {index : Nat}
    {rest : List Json} {fault : Fault} (noSkip : skippedKind? entry = none)
    (stops : (readMember index entry >>= requireNew known) = .error fault) :
    readEntries contract known index (.object entry :: rest) collector =
      (.error fault, collector) := by
  have ends : (readMember index entry >>= fun member =>
      requireNew known member >>= fun _ => pure member) = .error fault := by
    cases isRead : readMember index entry with
    | error other =>
      rw [isRead] at stops
      cases stops
      rfl
    | ok member =>
      rw [isRead] at stops
      replace stops : requireNew known member = .error fault := stops
      show (requireNew known member >>= fun _ => pure member) = .error fault
      rw [stops]
      rfl
  rw [readEntries, noSkip]
  simp only [ends]

/-- An entry that is not skipped becomes the next member or ends the reading. -/
theorem readsUpTo_entry {entry : List (String × Json)} {index : Nat} {rest : List Json}
    (noSkip : skippedKind? entry = none) (can : CanBeRead collector.isPresent before)
    (next : CanBeRead collector.isPresent (before ++ [.object entry]) →
      ReadsUpTo contract (before ++ [.object entry]) rest collector
        (readEntries contract (describedMembers (before ++ [.object entry])) (index + 1) rest
          collector)) :
    ReadsUpTo contract before (.object entry :: rest) collector
      (readEntries contract (describedMembers before) index (.object entry :: rest)
        collector) := by
  have notices : skippedNotices contract [.object entry] = [] :=
    List.filterMap_cons_none (by rw [skippedNotice?, noSkip, Option.map_none])
  have sameLimit := entryLimit?_of_not_skipped noSkip collector.isPresent
  have start : CanBeRead collector.isPresent (before ++ []) := by rwa [List.append_nil]
  have malformed : ∀ cause : ShapeFault,
      (readMember index entry >>= requireNew (describedMembers before)) = .error (.shape cause) →
      ¬ AreEntries (before ++ [.object entry]) → Json.memberLimit? entry = none →
      ReadsUpTo contract before (.object entry :: rest) collector
        (readEntries contract (describedMembers before) index (.object entry :: rest)
          collector) := by
    intro cause stops notAre within
    rw [readEntries_stops noSkip stops]
    refine .malformed [] (.object entry) rest cause rfl start (by rwa [List.append_nil]) ?_
    rintro _ ⟨⟩
    exact sameLimit.trans within
  have reads := readMember_reads index entry
  cases isRead : readMember index entry with
  | ok member =>
    rw [isRead] at reads malformed
    cases reads with
    | read _ isMember within =>
      rcases requireNew_cases (describedMembers before) member with isNew | ⟨cause, notNew⟩
      · have are := can.toAreEntries.add isMember isRead isNew
        have isNext := next (can.snoc are (sameLimit.trans within))
        rw [describedMembers_append, describedMembers_read isRead] at isNext
        refine .next ?_
        rw [readEntries_new noSkip isRead isNew, notices]
        exact isNext
      · have notAre : ¬ AreEntries (before ++ [.object entry]) :=
          not_areEntries_of_requireNew isRead (by rw [notNew]; exact nofun)
        exact malformed cause notNew notAre within
  | error fault =>
    rw [isRead] at reads malformed
    cases reads with
    | malformed cause noMember within =>
      exact malformed cause rfl (not_areEntries_of_isMember noSkip noMember) within
    | limited limit beyond _ =>
      have stops : (readMember index entry >>= requireNew (describedMembers before)) =
          .error (.defect limit) := by
        rw [isRead]
        rfl
      rw [readEntries_stops noSkip stops]
      exact .limited [] entry rest limit rfl start (sameLimit.trans beyond)

/-- An entry that is skipped is noticed, and the reading goes on behind it unless the notice meets a
limit. -/
theorem readsUpTo_skipped {entry : List (String × Json)} {kind : String} {index : Nat}
    {rest : List Json} (skipped : skippedKind? entry = some kind)
    (can : CanBeRead collector.isPresent before)
    (next : ∀ {told : Collector}, CanBeRead told.isPresent (before ++ [.object entry]) →
      ReadsUpTo contract (before ++ [.object entry]) rest told
        (readEntries contract (describedMembers (before ++ [.object entry])) (index + 1) rest
          told)) :
    ReadsUpTo contract before (.object entry :: rest) collector
      (readEntries contract (describedMembers before) index (.object entry :: rest)
        collector) := by
  have notices : skippedNotices contract [.object entry] =
      [.skipped (.text kind) (skippedName entry) contract] :=
    List.filterMap_cons_some (by rw [skippedNotice?, skipped, Option.map_some])
  have same : describedMembers (before ++ [.object entry]) = describedMembers before := by
    rw [describedMembers_append, describedMembers_skipped skipped, List.append_nil]
  rw [readEntries_skipped skipped]
  cases within : Json.entryLimit? collector.isPresent entry with
  | none =>
    refine .next ?_
    rw [notices, ← same]
    refine next ?_
    rw [Collector.isPresent_addAll]
    exact can.snoc (can.toAreEntries.skip skipped) within
  | some limit =>
    exact .limited [] entry rest limit rfl (by rwa [List.append_nil]) within

/-- Entries are read up to the first that cannot be read behind those in front of it. -/
theorem readEntries_upTo (contract : Json) (items : List Json) {before : List Json} {index : Nat}
    {collector : Collector} (can : CanBeRead collector.isPresent before) :
    ReadsUpTo contract before items collector
      (readEntries contract (describedMembers before) index items collector) := by
  induction items generalizing before index collector with
  | nil =>
    have all : ReadsUpTo contract before [] collector
        (.ok (describedMembers (before ++ [])), collector) :=
      .all (by rwa [List.append_nil])
    rwa [List.append_nil] at all
  | cons item rest inductionHypothesis =>
    cases item with
    | object entry =>
      cases skipped : skippedKind? entry with
      | some kind => exact readsUpTo_skipped skipped can inductionHypothesis
      | none => exact readsUpTo_entry skipped can inductionHypothesis
    | null | boolean | integer | float | text | array =>
      have noEntry : ∀ {item : Json}, item.isEntry = false →
          ¬ AreEntries (before ++ [] ++ [item]) :=
        fun noEntry are => Bool.false_ne_true (noEntry.symm.trans (are.entries _ (by simp)))
      refine .malformed [] _ rest _ rfl (by rwa [List.append_nil]) (noEntry rfl) ?_
      rintro _ ⟨⟩

end

/-! ### Whole ABIs -/

/-- Reading the ABI comes to an entry that meets the limit. -/
def MeetsLimit (listened : Bool) (limit : Defect) : Json → Prop
  | .array items =>
    ∃ reached entry rest, items = reached ++ .object entry :: rest ∧ CanBeRead listened reached ∧
      Json.entryLimit? listened entry = some limit
  | _ => False

/-- The items are those in front of the point up to which the ABI is read: they can be read, but
not together with the one behind them. -/
def ReachedIn (listened : Bool) : Json → List Json → Prop
  | .array items, reached =>
    CanBeRead listened reached ∧
      ∃ rest, items = reached ++ rest ∧
        ∀ item ∈ rest.head?, ¬ CanBeRead listened (reached ++ [item])
  | _, reached => reached = []

/-- The value is read exactly if it is an ABI. Then its members are those that its entries describe,
and every skipped entry is noticed; and what is no ABI is rejected for its shape. -/
structure ReadsAsDescribed (contract abi : Json) (collector : Collector) : Prop where
  accepts : (∃ members, (readAbi contract abi collector).1 = .ok members) ↔ IsAbi abi
  describes : ∀ items members told, abi = .array items →
    readAbi contract abi collector = (.ok members, told) →
      members = describedMembers items ∧ told = collector.addAll (skippedNotices contract items)
  rejects : ∀ fault, (readAbi contract abi collector).1 = .error fault →
    ∃ cause, fault = .shape cause

section

variable {listened : Bool}

theorem CanBeRead.front {before after : List Json} (can : CanBeRead listened (before ++ after)) :
    CanBeRead listened before where
  toAreEntries := can.toAreEntries.front
  within entry isIn := can.within entry (List.mem_append_left after isIn)

/-- An entry that meets a limit is none of those that can be read. -/
theorem CanBeRead.not_meets {items : List Json} {entry : List (String × Json)} {limit : Defect}
    (can : CanBeRead listened items) (isIn : .object entry ∈ items) :
    Json.entryLimit? listened entry ≠ some limit := by
  rw [can.within entry isIn]
  exact nofun

/-- What can be read meets no limit. -/
theorem CanBeRead.not_meetsLimit {items : List Json} (can : CanBeRead listened items)
    (limit : Defect) : ¬ MeetsLimit listened limit (.array items) := by
  rintro ⟨reached, entry, rest, rfl, _, beyond⟩
  exact can.not_meets (by simp) beyond

/-- Where a list is split at two items, these are the same one, or either stands in front of the
other. -/
theorem split_cases {α : Type} {before after others rest : List α} {item other : α}
    (split : before ++ item :: after = others ++ other :: rest) :
    before = others ∧ item = other ∨
      (∃ between, others = before ++ item :: between) ∨
      ∃ between, before = others ++ other :: between := by
  rcases List.append_eq_append_iff.mp split with ⟨between, rfl, same⟩ | ⟨between, rfl, same⟩
  · cases between with
    | nil => exact .inl ⟨(List.append_nil _).symm, (List.cons.inj same).1⟩
    | cons first between => exact .inr (.inl ⟨between, by rw [(List.cons.inj same).1]⟩)
  · cases between with
    | nil => exact .inl ⟨List.append_nil _, (List.cons.inj same).1.symm⟩
    | cons first between => exact .inr (.inr ⟨between, by rw [(List.cons.inj same).1]⟩)

/-- Whatever is behind an item that cannot stand where it stands is not reached. -/
theorem not_meetsLimit_of_malformed {reached rest : List Json} {item : Json}
    (can : CanBeRead listened reached) (not : ¬ AreEntries (reached ++ [item]))
    (within : ∀ entry, item = .object entry → Json.entryLimit? listened entry = none)
    (limit : Defect) : ¬ MeetsLimit listened limit (.array (reached ++ item :: rest)) := by
  rintro ⟨others, entry, later, split, canToo, beyond⟩
  rcases split_cases split with ⟨_, same⟩ | ⟨between, rfl⟩ | ⟨between, rfl⟩
  · cases (within entry same).symm.trans beyond
  · rw [List.append_cons] at canToo
    exact not canToo.front.toAreEntries
  · exact can.not_meets (by simp) beyond

/-- An ABI meets one limit at most, as reading stops there. -/
theorem MeetsLimit.unique {abi : Json} {limit other : Defect}
    (meets : MeetsLimit listened limit abi) (meetsToo : MeetsLimit listened other abi) :
    limit = other := by
  cases abi with
  | array items =>
    obtain ⟨reached, entry, rest, rfl, can, beyond⟩ := meets
    obtain ⟨others, entryToo, later, split, canToo, beyondToo⟩ := meetsToo
    rcases split_cases split with ⟨_, same⟩ | ⟨between, rfl⟩ | ⟨between, rfl⟩
    · obtain rfl := Json.object.inj same
      exact Option.some.inj (beyond.symm.trans beyondToo)
    · exact (canToo.not_meets (by simp) beyond).elim
    · exact (can.not_meets (by simp) beyondToo).elim
  | _ => exact meets.elim

end

/-- What is read is a list of items, with the members that they describe, and the skipped ones are
noticed. -/
theorem readAbi_described {contract abi : Json} {members : List Member}
    {collector told : Collector} (reads : readAbi contract abi collector = (.ok members, told)) :
    ∃ items, abi = .array items ∧ members = describedMembers items ∧
      told = collector.addAll (skippedNotices contract items) := by
  obtain ⟨items, rfl⟩ := exists_items_of_readAbi reads
  have upTo : ReadsUpTo contract [] items collector (readAbi contract (.array items) collector) :=
    readEntries_upTo contract items .nil
  rw [reads] at upTo
  cases upTo
  exact ⟨items, rfl, rfl, rfl⟩

section

variable {contract : Json} {collector : Collector}

theorem ReadsAsDescribed.of_read {items : List Json} (are : AreEntries items)
    (reads : readAbi contract (.array items) collector =
      (.ok (describedMembers items), collector.addAll (skippedNotices contract items))) :
    ReadsAsDescribed contract (.array items) collector where
  accepts := by
    rw [reads]
    exact iff_of_true ⟨_, rfl⟩ are
  describes := by
    rintro _ members told ⟨⟩ ends
    cases reads.symm.trans ends
    exact ⟨rfl, rfl⟩
  rejects := by
    intro fault fails
    rw [reads] at fails
    cases fails

theorem ReadsAsDescribed.of_rejected {abi : Json} (not : ¬ IsAbi abi) {cause : ShapeFault}
    (fails : (readAbi contract abi collector).1 = .error (.shape cause)) :
    ReadsAsDescribed contract abi collector where
  accepts := by
    rw [fails]
    exact iff_of_false nofun not
  describes := by
    intro items members told _ reads
    rw [reads] at fails
    cases fails
  rejects := by
    intro fault failsToo
    exact ⟨cause, Except.error.inj (failsToo.symm.trans fails)⟩

/-- What can be read up to an item that cannot be read behind it is what is reached. -/
theorem ReachedIn.of_stop {listened : Bool} {reached rest : List Json} {item : Json}
    (can : CanBeRead listened reached) (stops : ¬ CanBeRead listened (reached ++ [item])) :
    ReachedIn listened (.array (reached ++ item :: rest)) reached := by
  refine ⟨can, item :: rest, rfl, ?_⟩
  rintro _ ⟨⟩
  exact stops

end

/-- A value is read exactly if it is an ABI, with the members that it describes, unless it comes to
an entry that meets a limit: it is not read then, whatever it is. In every case exactly the skipped
entries are noticed that stand in front of the point that is reached. -/
theorem readsAsDescribed_iff (contract abi : Json) (collector : Collector) :
    (ReadsAsDescribed contract abi collector ↔
      ∀ limit, ¬ MeetsLimit collector.isPresent limit abi) ∧
    (∀ limit, (readAbi contract abi collector).1 = .error (.defect limit) ↔
      MeetsLimit collector.isPresent limit abi) ∧
    ∃ reached, ReachedIn collector.isPresent abi reached ∧
      (readAbi contract abi collector).2 =
        collector.addAll (skippedNotices contract reached) := by
  cases abi with
  | array items =>
    have reads : ReadsUpTo contract [] items collector
        (readAbi contract (.array items) collector) :=
      readEntries_upTo contract items .nil
    generalize isRun : readAbi contract (.array items) collector = run at reads
    cases reads with
    | all can =>
      refine ⟨iff_of_true (.of_read can.toAreEntries isRun) can.not_meetsLimit,
        fun limit => iff_of_false nofun (can.not_meetsLimit limit), items, ?_, rfl⟩
      exact ⟨can, [], (List.append_nil items).symm, nofun⟩
    | malformed reached item rest cause split can not within =>
      subst split
      have notAbi : ¬ IsAbi (.array (reached ++ item :: rest)) := by
        intro are
        replace are : AreEntries (reached ++ item :: rest) := are
        rw [List.append_cons] at are
        exact not are.front
      have meetsNone : ∀ limit, ¬ MeetsLimit collector.isPresent limit
          (.array (reached ++ item :: rest)) := not_meetsLimit_of_malformed can not within
      exact ⟨iff_of_true (.of_rejected notAbi (congrArg Prod.fst isRun)) meetsNone,
        fun limit => iff_of_false nofun (meetsNone limit), reached,
        .of_stop can fun canToo => not canToo.toAreEntries, rfl⟩
    | limited reached entry rest limit split can beyond =>
      subst split
      have meets : MeetsLimit collector.isPresent limit
          (.array (reached ++ .object entry :: rest)) := ⟨reached, entry, rest, rfl, can, beyond⟩
      refine ⟨iff_of_false ?_ fun none => none limit meets, fun other => ⟨?_, ?_⟩,
        reached, .of_stop can fun canToo => canToo.not_meets (by simp) beyond, rfl⟩
      · intro described
        obtain ⟨cause, isShape⟩ := described.rejects (.defect limit) (congrArg Prod.fst isRun)
        cases isShape
      · rintro ⟨⟩
        exact meets
      · intro meetsToo
        rw [meets.unique meetsToo]
  | _ =>
    exact ⟨iff_of_true (.of_rejected id rfl) fun _ => id, fun _ => iff_of_false nofun id,
      [], rfl, rfl⟩

/-! ### Nested tuples -/

/-- A parameter below which tuples are nested as deep as given. -/
def nestedTuple : Nat → Json
  | 0 => .object [("name", .text "x"), ("type", .text "bool")]
  | depth + 1 =>
    .object [("name", .text "x"), ("type", .text "tuple"),
      ("components", .array [nestedTuple depth])]

theorem isParameter_nestedTuple (depth : Nat) : (nestedTuple depth).isParameter = true := by
  induction depth with
  | zero => decide +kernel
  | succ depth inductionHypothesis =>
    show (true && ((nestedTuple depth).isParameter && true)) = true
    rw [inductionHypothesis]
    rfl

/-- Tuples that are nested deeper than there are levels are not read. -/
theorem itemLimit?_nestedTuple {depth levels : Nat} (deep : levels ≤ depth) :
    Json.itemLimit? levels [nestedTuple depth] = some .tooDeep := by
  induction depth generalizing levels with
  | zero =>
    obtain rfl := Nat.le_zero.mp deep
    rfl
  | succ depth inductionHypothesis =>
    cases levels with
    | zero => rfl
    | succ below =>
      have inner := inductionHypothesis (Nat.le_of_succ_le_succ deep)
      show ((((Json.itemLimit? below [nestedTuple depth]).or _).or _ : Option Defect)) = _
      rw [inner]
      rfl

/-- The ABI of one function that takes one parameter with tuples below it as deep as given. -/
def nestedAbi (depth : Nat) : Json :=
  .array [.object [("type", .text "function"), ("name", .text "f"),
    ("inputs", .array [nestedTuple depth]), ("outputs", .array []),
    ("stateMutability", .text "view")]]

theorem isAbi_nestedAbi (depth : Nat) : IsAbi (nestedAbi depth) := by
  refine ⟨List.forall_mem_singleton.mpr ?_, fun kind => ?_⟩
  · show (((nestedTuple depth).isParameter && true) && true) = true
    rw [isParameter_nestedTuple]
    rfl
  · cases kind with
    | function => exact List.nodup_singleton _
    | constructor => exact Nat.zero_le 1

theorem meetsLimit_nestedAbi {depth : Nat} (deep : readableLevels ≤ depth) :
    MeetsLimit false .tooDeep (nestedAbi depth) := by
  refine ⟨[], _, [], rfl, .nil, ?_⟩
  show (Json.itemLimit? readableLevels [nestedTuple depth]).or _ = _
  rw [itemLimit?_nestedTuple deep]
  rfl

/-- An ABI that nests its tuples too deep is not read as the ABI that it is. -/
theorem nestedAbi_not_read :
    IsAbi (nestedAbi 340) ∧
      (readAbi (.text "") (nestedAbi 340) .absent).1 = .error (.defect .tooDeep) ∧
      ¬ ReadsAsDescribed (.text "") (nestedAbi 340) .absent := by
  have meets : MeetsLimit false .tooDeep (nestedAbi 340) := meetsLimit_nestedAbi (by decide)
  obtain ⟨described, limited, _⟩ := readsAsDescribed_iff (.text "") (nestedAbi 340) .absent
  exact ⟨isAbi_nestedAbi 340, (limited _).mpr meets, fun reads => described.mp reads _ meets⟩

end ContractClient
