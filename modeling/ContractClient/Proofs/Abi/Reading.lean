/-
This file says how reading an ABI ends. Whether a value is a parameter or a list of parameters is
seen from the value alone, and so is the limit that reading it comes to, if it comes to one: the
parameters are nested too deep, or something that is no text cannot be shown. Reading stops at the
first value that is malformed. So it ends with a parameter, with a fault of the shape, or at a
limit, and the value says which (`readParameter_reads`).

Entries are read in their order up to the first fault. Reading an ABI ends at a limit exactly if an
entry meets it and all entries in front of it can be read (`readAbi_eq_defect_iff`). For a skipped
entry that depends on whether somebody is told of it, since its name is shown to nobody else.
-/

import ContractClient.Abi.Reader
import ContractClient.Proofs.Json.Sizes

namespace ContractClient

/-! ### Ways to end -/

/-- Reading something that is well formed or not, and that comes to a limit or not, ends in one of
three ways. A limit counts if it is met before anything malformed. -/
inductive Reads {α : Type} (wellFormed : Bool) (limit : Option Defect) : Except Fault α → Prop
  | read (value : α) : wellFormed = true → limit = none → Reads wellFormed limit (.ok value)
  | malformed (cause : ShapeFault) : wellFormed = false → limit = none →
      Reads wellFormed limit (.error (.shape cause))
  | limited (cause : Defect) : limit = some cause → cause.IsLimit →
      Reads wellFormed limit (.error (.defect cause))

section

variable {α β : Type}

theorem Reads.pure (value : α) : Reads true none (.ok value : Except Fault α) :=
  .read value rfl rfl

theorem Reads.fail (cause : ShapeFault) :
    Reads false none (.error (.shape cause) : Except Fault α) :=
  .malformed cause rfl rfl

/-- The second of two readings begins only if the first ends well, and only then its limit
counts. -/
theorem Reads.bind {first second : Bool} {limit limitNext : Option Defect}
    {result : Except Fault α} {next : α → Except Fault β} (reads : Reads first limit result)
    (rest : ∀ value, result = .ok value → Reads second limitNext (next value)) :
    Reads (first && second) (limit.or (if first then limitNext else none))
      (result >>= next) := by
  cases reads with
  | read value wellFormed within =>
    subst wellFormed within
    rw [Bool.true_and, if_pos rfl, Option.none_or]
    exact rest value rfl
  | malformed cause malformed within =>
    subst malformed within
    rw [Bool.false_and, if_neg Bool.false_ne_true, Option.none_or]
    exact .fail cause
  | limited cause beyond isLimit =>
    subst beyond
    exact .limited cause rfl isLimit

/-- What is malformed stays so, whatever would follow it. -/
theorem Reads.stop {limit : Option Defect} {result : Except Fault α}
    (reads : Reads false limit result) (next : α → Except Fault β) :
    Reads false limit (result >>= next) := by
  cases reads with
  | read _ wellFormed _ => cases wellFormed
  | malformed cause malformed within => exact .malformed cause malformed within
  | limited cause beyond isLimit => exact .limited cause beyond isLimit

/-- What is done with the value alone does not change how reading ends. -/
theorem Reads.change {wellFormed : Bool} {limit : Option Defect} {result : Except Fault α}
    (reads : Reads wellFormed limit result) (change : α → β) :
    Reads wellFormed limit (result >>= fun value => Pure.pure (change value)) := by
  cases reads with
  | read value wellFormed within => exact .read _ wellFormed within
  | malformed cause malformed within => exact .malformed cause malformed within
  | limited cause beyond isLimit => exact .limited cause beyond isLimit

end

/-! ### Showing values -/

/-- A value is shown, if it keeps within the limits for that. -/
theorem shown_reads (levels : Nat) (value : Json) :
    Reads true (value.limit? (.ofLevels levels)) (value.shown levels) := by
  unfold Json.shown
  rw [Json.requireWithin_eq]
  cases isLimit : value.limit? (.ofLevels levels) with
  | none => exact .pure _
  | some limit => exact .limited limit rfl (Json.limit?_isLimit isLimit)

/-- The limit that a given value meets where it is shown, if it says something. -/
def givenLimit? (levels : Nat) (value : Option Json) : Option Defect :=
  match value with
  | none => none
  | some value => if value.isVacant then none else value.limit? (.ofLevels (shownLevels levels))

theorem givenText_reads (levels : Nat) (value : Option Json) :
    Reads true (givenLimit? levels value) (givenText levels value) := by
  unfold givenLimit? givenText
  cases value with
  | none => exact .pure _
  | some value =>
    dsimp only
    split
    · exact .pure _
    · exact shown_reads _ value

theorem componentOwner_reads (levels : Nat) (owner : String) (index : Nat) (name : Option Json) :
    Reads true (givenLimit? levels name) (componentOwner levels owner index name) :=
  (givenText_reads levels name).change _

/-! ### Well-formed parameters -/

/-- Whether the members of an object give a type. -/
def hasTag (members : List (String × Json)) : Bool :=
  match Json.member? members "type" with
  | some (.text tag) => tag != ""
  | _ => false

namespace Json

mutual

/-- Whether the value is a parameter. -/
def isParameter : Json → Bool
  | .object members => hasTag members && hasComponents members
  | _ => false
termination_by structural value => value

/-- Whether the first components among the members, if there are any, are parameters. -/
def hasComponents : List (String × Json) → Bool
  | [] => true
  | (key, value) :: rest =>
    if key = "components" then value.isParameterList else hasComponents rest
termination_by structural members => members

/-- Whether the value is a list of parameters, or nothing at all. -/
def isParameterList : Json → Bool
  | .null => true
  | .array items => areParameters items
  | _ => false
termination_by structural value => value

/-- Whether all the values are parameters. -/
def areParameters : List Json → Bool
  | [] => true
  | item :: rest => item.isParameter && areParameters rest
termination_by structural items => items

end

mutual

/-- The limit that reading a parameter comes to, below which the given levels are left: in its
components, or else where its name or its type is shown. -/
def parameterLimit? (levels : Nat) : Json → Option Defect
  | .object members =>
    if hasTag members then
      (componentLimit? levels (member? members "name") members).or
        (if hasComponents members then
          (givenLimit? levels (member? members "name")).or
            (givenLimit? levels (member? members "internalType"))
        else none)
    else none
  | _ => none
termination_by structural value => value

/-- The limit that reading the first components among the members comes to. They are called after
the name of the parameter, which is shown for that. -/
def componentLimit? (levels : Nat) (name : Option Json) :
    List (String × Json) → Option Defect
  | [] => none
  | (key, value) :: rest =>
    if key = "components" then (givenLimit? levels name).or (value.listLimit? levels)
    else componentLimit? levels name rest
termination_by structural members => members

/-- The limit that reading a list of parameters comes to. -/
def listLimit? (levels : Nat) : Json → Option Defect
  | .array items => itemLimit? levels items
  | _ => none
termination_by structural value => value

/-- The limit that reading parameters comes to, up to the first that is malformed. -/
def itemLimit? (levels : Nat) : List Json → Option Defect
  | [] => none
  | item :: rest =>
    match levels with
    | 0 => some .tooDeep
    | below + 1 =>
      (item.parameterLimit? below).or
        (if item.isParameter then itemLimit? (below + 1) rest else none)
termination_by structural items => items

end

end Json

/-! ### Reading parameters -/

theorem readTag_reads (owner : String) (index : Nat) (members : List (String × Json)) :
    Reads (hasTag members) none (readTag owner index members) := by
  unfold readTag hasTag
  cases Json.member? members "type" with
  | none => exact .fail _
  | some value =>
    cases value with
    | text tag =>
      by_cases empty : tag = ""
      · subst empty
        exact .fail _
      · have given : (tag == "") = false := beq_eq_false_iff_ne.mpr empty
        simp only [given, bne_iff_ne.mpr empty]
        exact .pure _
    | _ => exact .fail _

mutual

theorem readParameter_reads (levels : Nat) (owner : String) (index : Nat) :
    ∀ value : Json,
      Reads value.isParameter (value.parameterLimit? levels) (readParameter levels owner index value)
  | .object members => by
    have shows := fun tag components =>
      (givenText_reads levels (Json.member? members "name")).bind fun name _ =>
        (givenText_reads levels (Json.member? members "internalType")).change
          fun internalType => (⟨name, tag, internalType, components⟩ : Parameter)
    have reads := (readTag_reads owner index members).bind fun tag _ =>
      (readComponents_reads levels owner index (Json.member? members "name") members).bind
        fun components _ => shows tag components
    rw [Bool.and_true, Bool.and_true, Option.none_or, if_pos rfl] at reads
    exact reads
  | .null => by
    rw [readParameter, Json.isParameter, Json.parameterLimit?]
    · exact .fail _
    all_goals simp
  | .boolean _ | .integer _ | .float _ | .text _ | .array _ => by
    rw [readParameter, Json.isParameter, Json.parameterLimit?]
    · exact .fail _
    all_goals simp

theorem readComponents_reads (levels : Nat) (owner : String) (index : Nat) (name : Option Json) :
    ∀ members : List (String × Json),
      Reads (Json.hasComponents members) (Json.componentLimit? levels name members)
        (readComponents levels owner index name members)
  | [] => .pure none
  | (key, value) :: rest => by
    rw [readComponents, Json.hasComponents, Json.componentLimit?]
    split
    · have reads := (componentOwner_reads levels owner index name).bind fun owner _ =>
        (readParameterList_reads levels owner value).change some
      rw [Bool.true_and, if_pos rfl] at reads
      exact reads
    · exact readComponents_reads levels owner index name rest

theorem readParameterList_reads (levels : Nat) (owner : String) :
    ∀ value : Json,
      Reads value.isParameterList (value.listLimit? levels) (readParameterList levels owner value)
  | .null => .pure []
  | .array items => by
    rw [readParameterList, Json.isParameterList, Json.listLimit?]
    exact readParametersFrom_reads levels owner 0 items
  | .boolean _ | .integer _ | .float _ | .text _ | .object _ => by
    rw [readParameterList, Json.isParameterList, Json.listLimit?]
    · exact .fail _
    all_goals simp

theorem readParametersFrom_reads (levels : Nat) (owner : String) (index : Nat) :
    ∀ items : List Json,
      Reads (Json.areParameters items) (Json.itemLimit? levels items)
        (readParametersFrom levels owner index items)
  | [] => .pure []
  | item :: rest => by
    rw [readParametersFrom, Json.areParameters]
    cases levels with
    | zero => exact .limited .tooDeep rfl (.inr rfl)
    | succ below =>
      exact (readParameter_reads below owner index item).bind fun parameter _ =>
        (readParametersFrom_reads (below + 1) owner (index + 1) rest).change _

end

/-! ### Well-formed entries -/

namespace Json

/-- Whether the value is among the states that an entry may give. -/
def isState : Option Json → Bool
  | none => true
  | some .null => true
  | some (.text state) => (readOnlyStates ++ mutatingStates).contains state
  | _ => false

/-- The kind of member that an entry says it is. -/
def memberKind? (entry : List (String × Json)) : Option MemberKind :=
  match entryKind entry with
  | .text kind =>
    if kind = "function" then some .function
    else if kind = "constructor" then some .constructor
    else none
  | _ => none

/-- Whether an entry of the kind has the name that it needs. -/
def hasName (kind : MemberKind) (entry : List (String × Json)) : Bool :=
  match (member? entry "name").getD (.text "") with
  | .text name => !(kind = .function ∧ name = "")
  | _ => false

/-- The list of parameters that an entry has under the given key. -/
def parametersOf (entry : List (String × Json)) (key : String) : Json :=
  (member? entry key).getD .null

/-- Whether an entry has the parameters and the state that its kind needs. -/
def isMemberOf (entry : List (String × Json)) : MemberKind → Bool
  | .constructor =>
    (parametersOf entry "inputs").isParameterList && isState (member? entry "stateMutability")
  | .function =>
    (parametersOf entry "inputs").isParameterList &&
      ((parametersOf entry "outputs").isParameterList &&
        isState (member? entry "stateMutability"))

/-- Whether the entry is a function or a constructor. -/
def isMember (entry : List (String × Json)) : Bool :=
  match memberKind? entry with
  | none => false
  | some kind => hasName kind entry && isMemberOf entry kind

/-- The limit that showing the state of an entry meets, if it is shown at all. -/
def stateLimit? : Option Json → Option Defect
  | none => none
  | some .null => none
  | some (.text _) => none
  | some value => value.limit? (.ofLevels shownStateLevels)

/-- The limit that reading an entry of the kind comes to, up to what is malformed in it. -/
def kindLimit? (entry : List (String × Json)) : MemberKind → Option Defect
  | .constructor =>
    ((parametersOf entry "inputs").listLimit? readableLevels).or
      (if (parametersOf entry "inputs").isParameterList then
        stateLimit? (member? entry "stateMutability")
      else none)
  | .function =>
    ((parametersOf entry "inputs").listLimit? readableLevels).or
      (if (parametersOf entry "inputs").isParameterList then
        ((parametersOf entry "outputs").listLimit? readableLevels).or
          (if (parametersOf entry "outputs").isParameterList then
            stateLimit? (member? entry "stateMutability")
          else none)
      else none)

/-- The limit that reading an entry as a member comes to. The type of an entry is shown if it is
none of a member. -/
def memberLimit? (entry : List (String × Json)) : Option Defect :=
  match memberKind? entry with
  | none => (entryKind entry).limit? (.ofLevels shownKindLevels)
  | some kind => if hasName kind entry then kindLimit? entry kind else none

/-- The limit that the notice meets that an entry was skipped, if there is somebody who listens. -/
def noticeLimit? (listened : Bool) (entry : List (String × Json)) : Option Defect :=
  if listened then (skippedName entry).limit? (.ofLevels noticeLevels) else none

/-- The limit that reading an entry comes to. -/
def entryLimit? (listened : Bool) (entry : List (String × Json)) : Option Defect :=
  if (skippedKind? entry).isSome then noticeLimit? listened entry else memberLimit? entry

end Json

/-! ### Reading entries -/

theorem readKind_eq (index : Int) (entry : List (String × Json)) :
    readKind index entry =
      match Json.memberKind? entry with
      | some kind => .ok kind
      | none => (do
        let type ← (entryKind entry).shown shownKindLevels
        .error (.shape (.unknownEntryType type index))) := by
  unfold readKind Json.memberKind?
  split
  · rename_i same
    rw [same]
    rfl
  · rename_i same
    rw [same]
    rfl
  · rename_i noFunction noConstructor
    cases given : entryKind entry with
    | text kind =>
      simp only [given, Json.text.injEq] at noFunction noConstructor
      simp only [if_neg noFunction, if_neg noConstructor]
    | _ => rfl

/-- A value that is shown and then rejected. -/
theorem shown_rejects {α : Type} (levels : Nat) (value : Json) (cause : String → ShapeFault) :
    Reads false (value.limit? (.ofLevels levels)) (do
      let text ← value.shown levels
      .error (.shape (cause text)) : Except Fault α) := by
  have rejects := (shown_reads levels value).bind fun text _ =>
    (Reads.fail (cause text) : Reads false none (.error (.shape (cause text)) : Except Fault α))
  rw [Bool.and_false, if_pos rfl, Option.or_none] at rejects
  exact rejects

theorem readName_reads (index : Int) (kind : MemberKind) (entry : List (String × Json)) :
    Reads (Json.hasName kind entry) none (readName index kind entry) := by
  unfold readName Json.hasName
  cases (Json.member? entry "name").getD (.text "") with
  | text name =>
    by_cases missing : kind = .function ∧ name = ""
    · simp only [missing, and_self, if_true]
      exact .fail _
    · simp only [missing, if_false, decide_false, Bool.not_false]
      exact .pure _
  | _ => exact .fail _

theorem readState_reads (owner : String) (entry : List (String × Json)) :
    Reads (Json.isState (Json.member? entry "stateMutability"))
      (Json.stateLimit? (Json.member? entry "stateMutability")) (readState owner entry) := by
  unfold readState Json.isState Json.stateLimit?
  cases Json.member? entry "stateMutability" with
  | none => exact .pure _
  | some value =>
    cases value with
    | null => exact .pure _
    | text state =>
      cases known : (readOnlyStates ++ mutatingStates).contains state with
      | true =>
        simp only [known, if_true]
        exact .pure _
      | false =>
        simp only [known]
        exact .fail _
    | _ => exact shown_rejects _ _ _

theorem readMember_reads (index : Int) (entry : List (String × Json)) :
    Reads (Json.isMember entry) (Json.memberLimit? entry) (readMember index entry) := by
  unfold readMember Json.isMember Json.memberLimit?
  rw [readKind_eq]
  cases Json.memberKind? entry with
  | none =>
    have rejects : Reads false _ (_ : Except Fault MemberKind) :=
      shown_rejects shownKindLevels (entryKind entry) (.unknownEntryType · index)
    exact rejects.stop _
  | some kind =>
    have inputs : ∀ owner, Reads (Json.parametersOf entry "inputs").isParameterList
        ((Json.parametersOf entry "inputs").listLimit? readableLevels)
        (readParameters owner (Json.member? entry "inputs")) :=
      fun owner => readParameterList_reads readableLevels owner _
    have outputs : ∀ owner, Reads (Json.parametersOf entry "outputs").isParameterList
        ((Json.parametersOf entry "outputs").listLimit? readableLevels)
        (readParameters owner (Json.member? entry "outputs")) :=
      fun owner => readParameterList_reads readableLevels owner _
    show Reads _ (if _ then _ else none) (readName index kind entry >>= _)
    rw [← Option.none_or (o := ite _ _ _)]
    refine (readName_reads index kind entry).bind fun name _ => ?_
    cases kind with
    | constructor =>
      exact (inputs (orElseText name "constructor")).bind fun inputs _ =>
        (readState_reads (orElseText name "constructor") entry).change fun state =>
          (⟨.constructor, "", inputs, [], state⟩ : Member)
    | function =>
      exact (inputs (orElseText name "constructor")).bind fun inputs _ =>
        (outputs name).bind fun outputs _ =>
          (readState_reads (orElseText name "constructor") entry).change fun state =>
            (⟨.function, name, inputs, outputs, state⟩ : Member)

/-! ### Names of functions -/

/-- A function that is read has a name. -/
theorem readMember_named {index : Int} {entry : List (String × Json)} {member : Member}
    (reads : readMember index entry = .ok member) (isFunction : member.kind = .function) :
    member.name ≠ "" := by
  obtain ⟨kind, _, reads⟩ := exists_of_bind_eq_ok reads
  obtain ⟨name, named, reads⟩ := exists_of_bind_eq_ok reads
  obtain ⟨inputs, _, reads⟩ := exists_of_bind_eq_ok reads
  cases kind with
  | constructor =>
    obtain ⟨state, _, reads⟩ := exists_of_bind_eq_ok reads
    cases reads
    cases isFunction
  | function =>
    obtain ⟨outputs, _, reads⟩ := exists_of_bind_eq_ok reads
    obtain ⟨state, _, reads⟩ := exists_of_bind_eq_ok reads
    cases reads
    rintro rfl
    unfold readName at named
    split at named
    · rename_i given _
      split at named
      · cases named
      · rename_i isNamed
        exact isNamed ⟨rfl, Except.ok.inj named⟩
    · cases named

/-! ### Reading whole ABIs -/

theorem exists_split_cons_iff {α : Type} {item : α} {rest : List α}
    (holds : List α → α → Prop) :
    (∃ before middle after, item :: rest = before ++ middle :: after ∧ holds before middle) ↔
      holds [] item ∨
        ∃ before middle after, rest = before ++ middle :: after ∧
          holds (item :: before) middle := by
  constructor
  · rintro ⟨before, middle, after, split, isHeld⟩
    cases before with
    | nil =>
      obtain ⟨rfl, rfl⟩ := List.cons.inj split
      exact .inl isHeld
    | cons first before =>
      obtain ⟨rfl, rfl⟩ := List.cons.inj split
      exact .inr ⟨before, middle, after, rfl, isHeld⟩
  · rintro (isHeld | ⟨before, middle, after, rfl, isHeld⟩)
    · exact ⟨[], item, rest, rfl, isHeld⟩
    · exact ⟨item :: before, middle, after, rfl, isHeld⟩

theorem requireNew_cases (known : List Member) (member : Member) :
    requireNew known member = .ok () ∨
      ∃ cause, requireNew known member = .error (.shape cause) := by
  unfold requireNew
  split <;> split <;> simp

/-- Whether an entry can be read is told by its limit, and what keeps it from the members
otherwise is a fault of the shape. -/
theorem readNewMember_reads (known : List Member) (index : Int) (entry : List (String × Json)) :
    ∃ wellFormed, Reads wellFormed (Json.memberLimit? entry) (do
      let member ← readMember index entry
      requireNew known member
      return member) := by
  have new : ∀ member, ∃ wellFormed, Reads wellFormed none (do
      requireNew known member
      return member) := by
    intro member
    rcases requireNew_cases known member with isNew | ⟨cause, notNew⟩
    · rw [isNew]
      exact ⟨true, .pure member⟩
    · rw [notNew]
      exact ⟨false, .fail cause⟩
  show ∃ wellFormed, Reads wellFormed _
    (readMember index entry >>= fun member => requireNew known member >>= fun _ => pure member)
  have reads := readMember_reads index entry
  generalize readMember index entry = result at reads
  cases reads with
  | read member _ within =>
    rw [within]
    exact new member
  | malformed cause _ within => exact ⟨false, .malformed cause rfl within⟩
  | limited cause beyond isLimit => exact ⟨false, .limited cause beyond isLimit⟩

/-- What is skipped is neither a function nor a constructor. -/
theorem memberKind?_of_skipped {entry : List (String × Json)} {kind : String}
    (skipped : skippedKind? entry = some kind) : Json.memberKind? entry = none := by
  unfold skippedKind? at skipped
  unfold Json.memberKind?
  cases given : entryKind entry with
  | text name =>
    rw [given] at skipped
    simp only [Option.ite_none_right_eq_some] at skipped
    have noFunction : name ≠ "function" := by
      rintro rfl
      exact absurd skipped.1 (by decide)
    have noConstructor : name ≠ "constructor" := by
      rintro rfl
      exact absurd skipped.1 (by decide)
    simp only [if_neg noFunction, if_neg noConstructor]
  | _ => rfl

section

variable {contract : Json} {known : List Member} {index : Nat} {collector : Collector}
  {entry : List (String × Json)} {rest : List Json}

@[simp] theorem isPresent_add (collector : Collector) (notice : Notice) :
    (collector.add notice).isPresent = collector.isPresent := by
  cases collector <;> rfl

/-- It is noticed that an entry was skipped, unless that meets a limit. -/
theorem addSkipped_eq (collector : Collector) (kind : String) :
    collector.addSkipped (.text kind) (skippedName entry) contract =
      match Json.noticeLimit? collector.isPresent entry with
      | none => .ok (collector.add (.skipped (.text kind) (skippedName entry) contract))
      | some limit => .error (.defect limit) := by
  cases collector with
  | absent => rfl
  | keeping notices =>
    have kindShown : (Json.text kind).requireWithin (.ofLevels noticeLevels) = .ok () := rfl
    rw [Collector.addSkipped, kindShown, Json.requireWithin_eq, Json.noticeLimit?,
      Collector.isPresent, if_pos rfl]
    cases (skippedName entry).limit? (.ofLevels noticeLevels) <;> rfl

theorem entryLimit?_of_skipped {kind : String} (skipped : skippedKind? entry = some kind)
    (listened : Bool) : Json.entryLimit? listened entry = Json.noticeLimit? listened entry := by
  rw [Json.entryLimit?, skipped]
  rfl

/-- An entry is skipped with a notice, unless that meets a limit. -/
theorem readEntries_skipped {kind : String} (skipped : skippedKind? entry = some kind) :
    readEntries contract known index (.object entry :: rest) collector =
      match Json.entryLimit? collector.isPresent entry with
      | none =>
        readEntries contract known (index + 1) rest
          (collector.add (.skipped (.text kind) (skippedName entry) contract))
      | some limit => (.error (.defect limit), collector) := by
  simp only [readEntries, skipped]
  rw [addSkipped_eq, entryLimit?_of_skipped skipped]
  cases Json.noticeLimit? collector.isPresent entry <;> rfl

/-- What is read behind a skipped entry is read with it. -/
theorem reads_behind_skipped {kind : String} {members : List Member}
    (skipped : skippedKind? entry = some kind)
    (reads : (readEntries contract known index (.object entry :: rest) collector).1 =
      .ok members) :
    (readEntries contract known (index + 1) rest
      (collector.add (.skipped (.text kind) (skippedName entry) contract))).1 = .ok members := by
  rw [readEntries_skipped skipped] at reads
  split at reads
  · exact reads
  · cases reads

theorem noticeLimit?_isLimit {listened : Bool} {limit : Defect}
    (meets : Json.noticeLimit? listened entry = some limit) : limit.IsLimit := by
  unfold Json.noticeLimit? at meets
  split at meets
  · exact Json.limit?_isLimit meets
  · cases meets

theorem entryLimit?_of_not_skipped (noSkip : skippedKind? entry = none) (listened : Bool) :
    Json.entryLimit? listened entry = Json.memberLimit? entry := by
  rw [Json.entryLimit?, noSkip]
  rfl

/-- Reading comes to the entry behind others, and meets the limit there. -/
def Overreads (contract : Json) (known : List Member) (index : Nat) (collector : Collector)
    (cause : Defect) (before : List Json) (item : Json) : Prop :=
  (∃ members, (readEntries contract known index before collector).1 = .ok members) ∧
    ∃ entry, item = .object entry ∧ Json.entryLimit? collector.isPresent entry = some cause

theorem overreads_nil {cause : Defect} :
    Overreads contract known index collector cause [] (.object entry) ↔
      Json.entryLimit? collector.isPresent entry = some cause := by
  simp [Overreads, readEntries]

end

/-- Reading entries ends at a limit exactly if one of them meets it and all in front of it can be
read. -/
theorem readEntries_eq_defect_iff (contract : Json) (items : List Json) {known : List Member}
    {index : Nat} {collector : Collector} {cause : Defect} :
    (readEntries contract known index items collector).1 = .error (.defect cause) ↔
      ∃ before item after, items = before ++ item :: after ∧
        Overreads contract known index collector cause before item := by
  induction items generalizing known index collector with
  | nil => simp [readEntries]
  | cons item rest inductionHypothesis =>
    rw [exists_split_cons_iff]
    cases item with
    | object entry =>
      rw [overreads_nil]
      cases skipped : skippedKind? entry with
      | some kind =>
        simp only [Overreads, readEntries_skipped skipped]
        cases limit : Json.entryLimit? collector.isPresent entry with
        | none => simp only [inductionHypothesis, Overreads, isPresent_add, reduceCtorEq, false_or]
        | some limit => simp
      | none =>
        rw [entryLimit?_of_not_skipped skipped]
        simp only [Overreads, readEntries, skipped]
        obtain ⟨wellFormed, reads⟩ := readNewMember_reads known index entry
        generalize (do
          let member ← readMember index entry
          requireNew known member
          return member : Except Fault Member) = result at reads ⊢
        cases reads with
        | read member _ within =>
          simp only [inductionHypothesis, Overreads, within, reduceCtorEq, false_or]
        | malformed fault _ within => simp [within]
        | limited limit beyond _ => simp [beyond]
    | _ => simp [Overreads, readEntries]

/-- Whatever keeps entries from being read is a fault of the shape or a limit. -/
theorem readEntries_error (contract : Json) (items : List Json) {known : List Member}
    {index : Nat} {collector : Collector} {fault : Fault}
    (fails : (readEntries contract known index items collector).1 = .error fault) :
    (∃ cause, fault = .shape cause) ∨ ∃ limit, fault = .defect limit ∧ limit.IsLimit := by
  induction items generalizing known index collector with
  | nil => simp [readEntries] at fails
  | cons item rest inductionHypothesis =>
    cases item with
    | object entry =>
      cases skipped : skippedKind? entry with
      | some kind =>
        rw [readEntries_skipped skipped] at fails
        split at fails
        · exact inductionHypothesis fails
        · rename_i limit meets
          cases fails
          rw [entryLimit?_of_skipped skipped] at meets
          exact .inr ⟨limit, rfl, noticeLimit?_isLimit meets⟩
      | none =>
        simp only [readEntries, skipped] at fails
        obtain ⟨wellFormed, reads⟩ := readNewMember_reads known index entry
        generalize (do
          let member ← readMember index entry
          requireNew known member
          return member : Except Fault Member) = result at reads fails
        cases reads with
        | read member _ _ => exact inductionHypothesis fails
        | malformed cause _ _ => exact .inl ⟨cause, (Except.error.inj fails).symm⟩
        | limited limit _ isLimit =>
          exact .inr ⟨limit, (Except.error.inj fails).symm, isLimit⟩
    | _ =>
      simp only [readEntries, Except.error.injEq] at fails
      exact .inl ⟨_, fails.symm⟩

/-- Functions that are read have names, if those that were read before do. -/
theorem readEntries_named (contract : Json) (items : List Json) {known members : List Member}
    {index : Nat} {collector : Collector}
    (named : ∀ function ∈ functionsAmong known, function.name ≠ "")
    (reads : (readEntries contract known index items collector).1 = .ok members) :
    ∀ function ∈ functionsAmong members, function.name ≠ "" := by
  induction items generalizing known index collector with
  | nil => exact Except.ok.inj reads ▸ named
  | cons item rest inductionHypothesis =>
    cases item with
    | object entry =>
      cases skipped : skippedKind? entry with
      | some kind => exact inductionHypothesis named (reads_behind_skipped skipped reads)
      | none =>
        simp only [readEntries, skipped] at reads
        split at reads
        · cases reads
        · rename_i member isRead
          obtain ⟨other, isMember, isRead⟩ := exists_of_bind_eq_ok isRead
          obtain ⟨_, _, isRead⟩ := exists_of_bind_eq_ok isRead
          obtain rfl := Except.ok.inj isRead
          refine inductionHypothesis ?_ reads
          intro function isFunction
          unfold functionsAmong at isFunction
          rw [List.filter_append, List.mem_append] at isFunction
          rcases isFunction with before | last
          · exact named function before
          · obtain ⟨isLast, isKind⟩ := List.mem_filter.mp last
            obtain rfl := List.mem_singleton.mp isLast
            exact readMember_named isMember (eq_of_beq isKind)
    | _ => cases reads

/-- An ABI holds an entry that meets the limit when it is read, behind entries that can be read. -/
def StopsReading (contract abi : Json) (collector : Collector) (limit : Defect) : Prop :=
  ∃ before entry after, abi = .array (before ++ .object entry :: after) ∧
    (∃ members, (readAbi contract (.array before) collector).1 = .ok members) ∧
    Json.entryLimit? collector.isPresent entry = some limit

theorem readAbi_eq_defect_iff {contract abi : Json} {collector : Collector} {cause : Defect} :
    (readAbi contract abi collector).1 = .error (.defect cause) ↔
      StopsReading contract abi collector cause := by
  unfold StopsReading
  cases abi with
  | array items =>
    rw [readAbi, readEntries_eq_defect_iff]
    constructor
    · rintro ⟨before, _, after, rfl, isRead, entry, rfl, meets⟩
      exact ⟨before, entry, after, rfl, isRead, meets⟩
    · rintro ⟨before, entry, after, same, isRead, meets⟩
      obtain rfl := Json.array.inj same
      exact ⟨before, _, after, rfl, isRead, entry, rfl, meets⟩
  | _ => simp [readAbi]

theorem readAbi_error {contract abi : Json} {collector : Collector} {fault : Fault}
    (fails : (readAbi contract abi collector).1 = .error fault) :
    (∃ cause, fault = .shape cause) ∨ ∃ limit, fault = .defect limit ∧ limit.IsLimit := by
  cases abi with
  | array items => exact readEntries_error contract items fails
  | _ => exact .inl ⟨_, (Except.error.inj fails).symm⟩

/-- An ABI that is read is a list. -/
theorem exists_items_of_readAbi {contract abi : Json} {members : List Member}
    {collector told : Collector} (reads : readAbi contract abi collector = (.ok members, told)) :
    ∃ items, abi = .array items := by
  cases abi with
  | array items => exact ⟨items, rfl⟩
  | _ => cases congrArg Prod.fst reads

theorem readAbi_named {contract abi : Json} {collector told : Collector} {members : List Member}
    (reads : readAbi contract abi collector = (.ok members, told)) :
    ∀ function ∈ functionsAmong members, function.name ≠ "" := by
  obtain ⟨items, rfl⟩ := exists_items_of_readAbi reads
  refine readEntries_named contract items ?_ (congrArg Prod.fst reads)
  exact fun function member => nomatch member

end ContractClient
