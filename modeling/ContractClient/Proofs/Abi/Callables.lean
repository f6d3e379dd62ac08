/-
This file says when an ABI can be read whose entries are all callable or skipped. Each function and
the constructor are read for themselves, wherever they stand (`ReadFrom.anywhere`). So the whole ABI
can be read exactly if, for either kind, all entries of the kind can be read and what they give may
stand together (`exists_readAbi_iff`); and the members of the kind are then the same for every ABI
with the same entries of the kind.
-/

import ContractClient.Proofs.Abi.Members

namespace ContractClient

/-! ### Entries that are read anywhere -/

theorem readKind_anywhere {index : Int} {entry : List (String × Json)} {kind : MemberKind}
    (reads : readKind index entry = .ok kind) (other : Int) :
    readKind other entry = .ok kind := by
  rw [readKind_eq] at reads ⊢
  cases said : Json.memberKind? entry with
  | some known =>
    rw [said] at reads
    exact reads
  | none =>
    rw [said] at reads
    obtain ⟨_, _, rejects⟩ := exists_of_bind_eq_ok reads
    cases rejects

theorem readName_anywhere {index : Int} {kind : MemberKind} {entry : List (String × Json)}
    {name : String} (reads : readName index kind entry = .ok name) (other : Int) :
    readName other kind entry = .ok name := by
  unfold readName at reads ⊢
  split at reads
  · split at reads
    · cases reads
    · rename_i isNamed
      rw [if_neg isNamed]
      exact reads
  · cases reads

/-- An entry that is read at one place is read at every place, and says the same. -/
theorem ReadFrom.anywhere {entry : List (String × Json)} {member : Member}
    (reads : ReadFrom entry member) (index : Int) : readMember index entry = .ok member := by
  obtain ⟨place, reads⟩ := reads
  obtain ⟨kind, isKind, reads⟩ := exists_of_bind_eq_ok reads
  obtain ⟨name, named, reads⟩ := exists_of_bind_eq_ok reads
  unfold readMember
  rw [readKind_anywhere isKind index]
  show (readName index kind entry >>= _) = _
  rw [readName_anywhere named index]
  exact reads

/-- An entry says one thing only. -/
theorem readFrom_rightUnique : Relator.RightUnique ReadFrom := by
  intro entry member other reads readsToo
  exact Except.ok.inj ((reads.anywhere 0).symm.trans (readsToo.anywhere 0))

theorem ReadFrom.kind {entry : List (String × Json)} {member : Member}
    (reads : ReadFrom entry member) : Json.memberKind? entry = some member.kind :=
  memberKind?_of_readMember (reads.anywhere 0)

/-! ### Members that stand together -/

/-- A member is new if it may stand with those of its kind. -/
theorem requireNew_of_coexist {known later : List Member} {member : Member}
    (coexist : Coexist member.kind (membersOfKind member.kind known ++ member :: later)) :
    requireNew known member = .ok () := by
  unfold requireNew
  cases isKind : member.kind with
  | constructor =>
    rw [isKind] at coexist
    have none : membersOfKind .constructor known = [] := by
      refine List.length_eq_zero_iff.mp (Nat.le_zero.mp ?_)
      have atMost : (membersOfKind .constructor known).length + (later.length + 1) ≤ 1 := by
        rw [← List.length_cons (a := member), ← List.length_append]
        exact coexist
      omega
    have noConstructor : known.any (·.kind == .constructor) = false :=
      List.any_eq_false.mpr fun other isOther => List.filter_eq_nil_iff.mp none other isOther
    simp only [noConstructor]
    rfl
  | function =>
    rw [isKind, Coexist, List.map_append, List.map_cons, List.nodup_append] at coexist
    have differs : (functionsAmong known).any (·.signature == member.signature) = false := by
      refine List.any_eq_false.mpr fun other isOther same => ?_
      exact coexist.2.2 other.signature (List.mem_map_of_mem isOther) member.signature
        List.mem_cons_self (beq_iff_eq.mp same)
    simp only [differs]
    rfl

/-! ### Whole ABIs -/

/-- Whether the item of an ABI is an entry that says it is a function or the constructor, or one
that is skipped. -/
def Json.isRegular : Json → Bool
  | .object entry => (memberKind? entry).isSome || (skippedKind? entry).isSome
  | _ => false

theorem exists_of_isRegular {item : Json} (regular : item.isRegular) :
    ∃ entry, item = .object entry ∧
      ((∃ kind, Json.memberKind? entry = some kind) ∨
        ∃ kind, skippedKind? entry = some kind) := by
  cases item with
  | object entry =>
    rw [Json.isRegular, Bool.or_eq_true, Option.isSome_iff_exists, Option.isSome_iff_exists]
      at regular
    exact ⟨entry, rfl, regular⟩
  | _ => cases regular

/-- The entries of the kind can be read behind the members, and what they give may stand with
them. -/
def Readable (known : List Member) (items : List Json) (kind : MemberKind) : Prop :=
  ∃ later, List.Forall₂ ReadFrom (entriesOfKind kind items) later ∧
    Coexist kind (membersOfKind kind known ++ later)

theorem entriesOfKind_cons_object (kind : MemberKind) (entry : List (String × Json))
    (rest : List Json) :
    entriesOfKind kind (.object entry :: rest) =
      (if Json.memberKind? entry = some kind then [entry] else []) ++ entriesOfKind kind rest := by
  rw [entriesOfKind, List.filterMap_cons, Json.entryOf?]
  split <;> split <;> simp_all [entriesOfKind]

theorem skippedKind?_of_memberKind? {entry : List (String × Json)} {kind : MemberKind}
    (said : Json.memberKind? entry = some kind) : skippedKind? entry = none := by
  cases skipped : skippedKind? entry with
  | none => rfl
  | some other => cases said.symm.trans (memberKind?_of_skipped skipped)

theorem Readable.afterSkipped {known : List Member} {entry : List (String × Json)}
    {rest : List Json} {kind : MemberKind} (noMember : Json.memberKind? entry = none)
    (readable : Readable known (.object entry :: rest) kind) : Readable known rest kind := by
  rw [Readable, entriesOfKind_cons_object, noMember, if_neg nofun, List.nil_append] at readable
  exact readable

/-- The first entry that gives a member can be read if all entries of its kind can, and so can what
comes behind it. -/
theorem Readable.step {known : List Member} {entry : List (String × Json)} {rest : List Json}
    {said : MemberKind} (isKind : Json.memberKind? entry = some said)
    (readable : ∀ kind, Readable known (.object entry :: rest) kind) :
    ∃ member, ReadFrom entry member ∧ requireNew known member = .ok () ∧
      ∀ kind, Readable (known ++ [member]) rest kind := by
  obtain ⟨all, reads, coexist⟩ := readable said
  rw [entriesOfKind_cons_object, if_pos isKind] at reads
  cases reads with
  | @cons _ member _ later isRead reads =>
    obtain rfl : said = member.kind := Option.some.inj (isKind.symm.trans isRead.kind)
    refine ⟨member, isRead, requireNew_of_coexist coexist, fun kind => ?_⟩
    by_cases same : member.kind = kind
    · subst same
      refine ⟨later, reads, ?_⟩
      rwa [membersOfKind_append_singleton, if_pos rfl, List.append_assoc, List.singleton_append]
    · have others := readable kind
      rw [Readable, entriesOfKind_cons_object,
        if_neg fun saidKind => same (Option.some.inj (isKind.symm.trans saidKind)),
        List.nil_append] at others
      rwa [Readable, membersOfKind_append_singleton, if_neg same, List.append_nil]

/-- The notice that the item of an ABI was skipped, if it is, can be given. -/
def Json.CanBeNoticed (listened : Bool) (item : Json) : Prop :=
  ∀ entry kind, item = .object entry → skippedKind? entry = some kind →
    noticeLimit? listened entry = none

/-- An event with a number for its name that is too long to be shown. -/
def longEvent : Json :=
  .object [("type", .text "event"), ("name", .longNumber)]

theorem noticeLimit?_longEvent :
    Json.noticeLimit? true [("type", .text "event"), ("name", .longNumber)] = some .longNumber :=
  Json.limit?_eq_some_iff.mpr (Json.checkLimits_longNumber noticeLevels)

theorem longEvent_not_noticed : ¬longEvent.CanBeNoticed true := by
  intro noticed
  cases noticeLimit?_longEvent.symm.trans (noticed _ "event" rfl (by decide))

/-- Entries are read if those of either kind can be and the notices can be given. -/
theorem exists_of_readable (contract : Json) (items : List Json) {known : List Member}
    {index : Nat} {collector : Collector} (regular : ∀ item ∈ items, item.isRegular)
    (noticed : ∀ item ∈ items, item.CanBeNoticed collector.isPresent)
    (readable : ∀ kind, Readable known items kind) :
    ∃ members, (readEntries contract known index items collector).1 = .ok members := by
  induction items generalizing known index collector with
  | nil => exact ⟨known, rfl⟩
  | cons item rest inductionHypothesis =>
    obtain ⟨first, others⟩ := List.forall_mem_cons.mp regular
    obtain ⟨isNoticed, othersNoticed⟩ := List.forall_mem_cons.mp noticed
    obtain ⟨entry, rfl, ⟨said, isKind⟩ | ⟨kind, skipped⟩⟩ := exists_of_isRegular first
    · obtain ⟨member, isRead, isNew, readable⟩ := Readable.step isKind readable
      have reads : (do
          let member ← readMember index entry
          requireNew known member
          return member : Except Fault Member) = .ok member := by
        rw [isRead.anywhere index]
        show (requireNew known member >>= fun _ => pure member) = _
        rw [isNew]
        rfl
      rw [readEntries, skippedKind?_of_memberKind? isKind]
      simp only [reads]
      exact inductionHypothesis others othersNoticed readable
    · have within : Json.entryLimit? collector.isPresent entry = none :=
        (entryLimit?_of_skipped skipped _).trans (isNoticed entry kind rfl skipped)
      rw [readEntries_skipped skipped, within]
      refine inductionHypothesis others ?_ fun kind =>
        (readable kind).afterSkipped (memberKind?_of_skipped skipped)
      rwa [isPresent_add]

/-- An ABI of callable and skipped entries, where these can be noticed, can be read exactly if its
functions can be and its constructors can be. -/
theorem exists_readAbi_iff {contract : Json} {items : List Json} {collector : Collector}
    (regular : ∀ item ∈ items, item.isRegular)
    (noticed : ∀ item ∈ items, item.CanBeNoticed collector.isPresent) :
    (∃ members, (readAbi contract (.array items) collector).1 = .ok members) ↔
      ∀ kind, Readable [] items kind := by
  constructor
  · rintro ⟨members, reads⟩ kind
    have read : MembersRead items members := readAbi_members (Prod.ext reads rfl)
    exact ⟨membersOfKind kind members, read.read kind, read.coexist kind⟩
  · exact exists_of_readable contract items regular noticed

/-- The members of a kind depend on the entries of the kind alone. -/
theorem MembersRead.unique {items others : List Json} {members otherMembers : List Member}
    (read : MembersRead items members) (readToo : MembersRead others otherMembers)
    {kind : MemberKind} (same : entriesOfKind kind items = entriesOfKind kind others) :
    membersOfKind kind members = membersOfKind kind otherMembers :=
  readFrom_rightUnique.forall₂ (read.read kind) (same ▸ readToo.read kind)

end ContractClient
