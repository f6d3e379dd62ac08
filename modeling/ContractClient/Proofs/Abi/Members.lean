/-
This file says where the members of an ABI come from. Each entry that says it is a function becomes
one function, each that says it is a constructor becomes one constructor, both in their order, and
nothing else becomes a member. No two functions have one signature, and there is at most one
constructor (`readAbi_members`).
-/

import ContractClient.Proofs.Abi.Reading
import Mathlib.Data.List.Forall2
import Mathlib.Data.List.Nodup

namespace ContractClient

/-! ### Entries and members -/

/-- The entry that an item of an ABI is, if it says that it is of the kind. -/
def Json.entryOf? (kind : MemberKind) : Json → Option (List (String × Json))
  | .object entry => if memberKind? entry = some kind then some entry else none
  | _ => none

/-- The entries of an ABI that say they are of the kind, in their order. -/
def entriesOfKind (kind : MemberKind) (items : List Json) : List (List (String × Json)) :=
  items.filterMap (Json.entryOf? kind)

/-- The members of the kind, in their order. -/
def membersOfKind (kind : MemberKind) (members : List Member) : List Member :=
  members.filter fun member => member.kind == kind

/-- The member is what the entry says, wherever it stands. -/
def ReadFrom (entry : List (String × Json)) (member : Member) : Prop :=
  ∃ index, readMember index entry = .ok member

/-- The members come from the items of an ABI, one from each entry of their kind. -/
structure MembersRead (items : List Json) (members : List Member) : Prop where
  read : ∀ kind, List.Forall₂ ReadFrom (entriesOfKind kind items) (membersOfKind kind members)
  signaturesDistinct : ((functionsAmong members).map Member.signature).Nodup
  oneConstructor : (membersOfKind .constructor members).length ≤ 1

theorem entriesOfKind_append_object (kind : MemberKind) (items : List Json)
    (entry : List (String × Json)) :
    entriesOfKind kind (items ++ [.object entry]) =
      entriesOfKind kind items ++ if Json.memberKind? entry = some kind then [entry] else [] := by
  rw [entriesOfKind, List.filterMap_append, List.filterMap_cons, List.filterMap_nil, Json.entryOf?]
  split <;> split <;> simp_all [entriesOfKind]

theorem membersOfKind_append_singleton (kind : MemberKind) (members : List Member)
    (member : Member) :
    membersOfKind kind (members ++ [member]) =
      membersOfKind kind members ++ if member.kind = kind then [member] else [] := by
  rw [membersOfKind, List.filter_append]
  by_cases same : member.kind = kind
  · simp [membersOfKind, same]
  · simp [membersOfKind, same]

/-! ### Reading -/

theorem memberKind?_of_readMember {index : Int} {entry : List (String × Json)} {member : Member}
    (reads : readMember index entry = .ok member) :
    Json.memberKind? entry = some member.kind := by
  obtain ⟨kind, isKind, reads⟩ := exists_of_bind_eq_ok reads
  obtain ⟨name, _, reads⟩ := exists_of_bind_eq_ok reads
  obtain ⟨inputs, _, reads⟩ := exists_of_bind_eq_ok reads
  have given : Json.memberKind? entry = some kind := by
    rw [readKind_eq] at isKind
    cases said : Json.memberKind? entry with
    | some other =>
      rw [said] at isKind
      rw [Except.ok.inj isKind]
    | none =>
      rw [said] at isKind
      obtain ⟨_, _, rejects⟩ := exists_of_bind_eq_ok isKind
      cases rejects
  rw [given]
  cases kind with
  | function =>
    obtain ⟨outputs, _, reads⟩ := exists_of_bind_eq_ok reads
    obtain ⟨state, _, reads⟩ := exists_of_bind_eq_ok reads
    cases reads
    rfl
  | constructor =>
    obtain ⟨state, _, reads⟩ := exists_of_bind_eq_ok reads
    cases reads
    rfl

/-- What holds of nothing read, and still holds behind every entry that is skipped or becomes a new
member, holds once all entries are read. -/
theorem readEntries_induction {holds : List Json → List Member → Prop} (contract : Json)
    (skip : ∀ before known entry kind, skippedKind? entry = some kind → holds before known →
      holds (before ++ [.object entry]) known)
    (add : ∀ before known entry index member, readMember index entry = .ok member →
      requireNew known member = .ok () → holds before known →
      holds (before ++ [.object entry]) (known ++ [member]))
    (items : List Json) {before : List Json} {known members : List Member} {index : Nat}
    {collector : Collector} (isHeld : holds before known)
    (reads : (readEntries contract known index items collector).1 = .ok members) :
    holds (before ++ items) members := by
  induction items generalizing before known index collector with
  | nil =>
    obtain rfl := Except.ok.inj reads
    rwa [List.append_nil]
  | cons item rest inductionHypothesis =>
    rw [List.append_cons]
    cases item with
    | object entry =>
      cases skipped : skippedKind? entry with
      | some kind =>
        exact inductionHypothesis (skip before known entry kind skipped isHeld)
          (reads_behind_skipped skipped reads)
      | none =>
        simp only [readEntries, skipped] at reads
        split at reads
        · cases reads
        · rename_i member isRead
          obtain ⟨other, isMember, isRead⟩ := exists_of_bind_eq_ok isRead
          obtain ⟨_, isNew, isRead⟩ := exists_of_bind_eq_ok isRead
          obtain rfl := Except.ok.inj isRead
          exact inductionHypothesis (add before known entry _ other isMember isNew isHeld) reads
    | _ => cases reads

theorem MembersRead.nil : MembersRead [] [] :=
  ⟨fun _ => .nil, .nil, Nat.zero_le 1⟩

theorem MembersRead.skip {before : List Json} {known : List Member}
    {entry : List (String × Json)} {kind : String} (skipped : skippedKind? entry = some kind)
    (read : MembersRead before known) : MembersRead (before ++ [.object entry]) known := by
  refine ⟨fun kind => ?_, read.signaturesDistinct, read.oneConstructor⟩
  rw [entriesOfKind_append_object, memberKind?_of_skipped skipped, if_neg nofun, List.append_nil]
  exact read.read kind

/-- Members of the kind may stand together: functions if their signatures differ, and constructors
if there is but one. -/
def Coexist : MemberKind → List Member → Prop
  | .function, members => (members.map Member.signature).Nodup
  | .constructor, members => members.length ≤ 1

theorem MembersRead.coexist {items : List Json} {members : List Member}
    (read : MembersRead items members) (kind : MemberKind) :
    Coexist kind (membersOfKind kind members) := by
  cases kind with
  | function => exact read.signaturesDistinct
  | constructor => exact read.oneConstructor

/-- A member that is new may stand with those in front of it. -/
theorem coexist_of_requireNew {known : List Member} {member : Member}
    (isNew : requireNew known member = .ok ())
    (coexist : ∀ kind, Coexist kind (membersOfKind kind known)) (kind : MemberKind) :
    Coexist kind (membersOfKind kind (known ++ [member])) := by
  rw [membersOfKind_append_singleton]
  by_cases same : member.kind = kind
  · subst same
    rw [if_pos rfl]
    have before := coexist member.kind
    unfold requireNew at isNew
    cases isKind : member.kind with
    | function =>
      rw [isKind] at before
      simp only [isKind] at isNew
      split at isNew
      · cases isNew
      · rename_i differs
        rw [Coexist, List.map_append, List.map_singleton, List.nodup_append]
        refine ⟨before, List.nodup_singleton _, ?_⟩
        rintro signature isSignature _ isLast rfl
        obtain rfl := List.mem_singleton.mp isLast
        obtain ⟨other, isOther, same⟩ := List.mem_map.mp isSignature
        exact differs (List.any_eq_true.mpr ⟨other, isOther, beq_iff_eq.mpr same⟩)
    | constructor =>
      simp only [isKind] at isNew
      split at isNew
      · cases isNew
      · rename_i differs
        have none : membersOfKind .constructor known = [] := by
          refine List.filter_eq_nil_iff.mpr fun other isOther isConstructor => differs ?_
          exact List.any_eq_true.mpr ⟨other, isOther, isConstructor⟩
        rw [none]
        exact Nat.le_refl 1
  · rw [if_neg same, List.append_nil]
    exact coexist kind

theorem MembersRead.add {before : List Json} {known : List Member} {entry : List (String × Json)}
    {index : Int} {member : Member} (reads : readMember index entry = .ok member)
    (isNew : requireNew known member = .ok ()) (read : MembersRead before known) :
    MembersRead (before ++ [.object entry]) (known ++ [member]) where
  read kind := by
    rw [entriesOfKind_append_object, membersOfKind_append_singleton,
      memberKind?_of_readMember reads]
    refine List.rel_append (read.read kind) ?_
    by_cases same : member.kind = kind
    · rw [if_pos (congrArg some same), if_pos same]
      exact .cons ⟨index, reads⟩ .nil
    · rw [if_neg fun isKind => same (Option.some.inj isKind), if_neg same]
      exact .nil
  signaturesDistinct := coexist_of_requireNew isNew read.coexist .function
  oneConstructor := coexist_of_requireNew isNew read.coexist .constructor

/-- The members of an ABI that is read come from its entries. -/
theorem readAbi_members {contract : Json} {items : List Json} {collector told : Collector}
    {members : List Member}
    (reads : readAbi contract (.array items) collector = (.ok members, told)) :
    MembersRead items members :=
  readEntries_induction contract (fun _ _ _ _ skipped => MembersRead.skip skipped)
    (fun _ _ _ _ _ reads isNew => MembersRead.add reads isNew) items MembersRead.nil
    (congrArg Prod.fst reads)

/-- No two functions of an ABI that is read have one signature. -/
theorem readAbi_signaturesDistinct {contract abi : Json} {collector told : Collector}
    {members : List Member} (reads : readAbi contract abi collector = (.ok members, told)) :
    ((functionsAmong members).map Member.signature).Nodup := by
  obtain ⟨items, rfl⟩ := exists_items_of_readAbi reads
  exact (readAbi_members reads).signaturesDistinct

end ContractClient
