/-
This file proves that what is generated for a contract depends on the callable entries of its ABI
alone. Where every entry is a function, the constructor or one that is skipped, it does not matter
where the constructor stands, which entries are skipped, what these hold and who is told of it, as
long as these can be written: two ABIs with the same functions in the same order and the same
constructor both fail, or both give the same client and the same bytecode (`generate_callables`).
Only the module of the ABI itself holds the ABI as it is, so an entry that cannot be written keeps
the whole contract from being generated, even if it is skipped (`longEvent_matters`).
-/

import ContractClient.Proofs.Abi.Callables
import ContractClient.Proofs.Client.Silence
import ContractClient.Proofs.Generation.Outputs
import ContractClient.Proofs.Json.RoundTrip

namespace ContractClient

/-! ### Entries that can be written -/

/-- Whether the item of an ABI is an entry that is skipped. -/
def Json.isSkipped : Json → Bool
  | .object entry => (skippedKind? entry).isSome
  | _ => false

/-- Every skipped entry among the items can be written to a file, as an ABI of its own. -/
def SkipsFit (items : List Json) : Prop :=
  ∀ item ∈ items, item.isSkipped → (Json.array [item]).FitsFile

instance : DecidablePred SkipsFit := fun items =>
  inferInstanceAs (Decidable (∀ item ∈ items, item.isSkipped → (Json.array [item]).FitsFile))

/-- The items of an ABI can be written if each of them can be. -/
theorem fitsFile_array_iff {items : List Json} :
    (Json.array items).FitsFile ↔ ∀ item ∈ items, (Json.array [item]).FitsFile := by
  have each : ∀ item, (Json.array [item]).FitsFile ↔
      Json.checkLimits (.ofLevels 988) item = .ok () := by
    intro item
    rw [Json.fitsFile_iff]
    exact Json.checkLimits_array_iff.trans List.forall_mem_singleton
  rw [Json.fitsFile_iff]
  exact Json.checkLimits_array_iff.trans (forall₂_congr fun item _ => (each item).symm)

/-- An entry that can be written has a name that can be shown. -/
theorem canBeNoticed_of_fitsFile {item : Json} (fits : (Json.array [item]).FitsFile)
    (listened : Bool) : item.CanBeNoticed listened := by
  rintro entry kind rfl _
  have members : ∀ member ∈ entry, Json.checkLimits (.ofLevels 987) member.2 = .ok () :=
    Json.checkLimits_object_iff.mp
      (Json.checkLimits_array_iff.mp (Json.fitsFile_iff.mp fits) _ List.mem_cons_self)
  have name : Json.checkLimits (.ofLevels 987) (skippedName entry) = .ok () := by
    unfold skippedName
    cases given : Json.member? entry "name" with
    | none => rfl
    | some value => exact members _ (Json.mem_of_member? given)
  unfold Json.noticeLimit?
  split
  · exact Json.limit?_eq_none_iff.mpr (Json.checkLimits_mono (by decide) name)
  · rfl

theorem SkipsFit.canBeNoticed {items : List Json} (fit : SkipsFit items) (listened : Bool) :
    ∀ item ∈ items, item.CanBeNoticed listened := by
  rintro _ isIn entry kind rfl skipped
  have isSkipped : (Json.object entry).isSkipped := by
    rw [Json.isSkipped, skipped]
    rfl
  exact canBeNoticed_of_fitsFile (fit _ isIn isSkipped) listened entry kind rfl skipped

/-! ### ABIs with the same callable entries -/

section

variable {options : Options} {items others : List Json}

/-- Members that are read from the same callable entries have the same functions and the same
constructor. -/
theorem MembersRead.sameCallables {members otherMembers : List Member}
    (same : ∀ kind, entriesOfKind kind items = entriesOfKind kind others)
    (read : MembersRead items members) (readToo : MembersRead others otherMembers) :
    SameCallables members otherMembers :=
  ⟨read.unique readToo (same .function),
    congrArg List.getLast? (read.unique readToo (same .constructor))⟩

/-- A client that is generated for one ABI is generated for every other one with the same callable
entries. -/
theorem generateClient_of_same {name text : String} {collector told : Collector}
    (regular : ∀ item ∈ items, item.isRegular) (regularToo : ∀ item ∈ others, item.isRegular)
    (fit : SkipsFit items) (fitToo : SkipsFit others)
    (same : ∀ kind, entriesOfKind kind items = entriesOfKind kind others)
    (accepts : generateClient options name (.array items) collector = (.ok text, told))
    (other : Collector) :
    ∃ toldToo, generateClient options name (.array others) other = (.ok text, toldToo) := by
  obtain ⟨members, listening, reads, assembles⟩ := generateClient_eq_ok_iff.mp accepts
  have readable : ∀ kind, Readable [] items kind :=
    (exists_readAbi_iff regular (fit.canBeNoticed _)).mp ⟨members, congrArg Prod.fst reads⟩
  have readableToo : ∀ kind, Readable [] others kind := by
    intro kind
    rw [Readable, ← same kind]
    exact readable kind
  obtain ⟨otherMembers, readsToo⟩ :=
    (@exists_readAbi_iff (.text name) others other regularToo (fitToo.canBeNoticed _)).mpr
      readableToo
  obtain ⟨otherListening, readsToo⟩ : ∃ otherListening,
      readAbi (.text name) (.array others) other = (.ok otherMembers, otherListening) :=
    ⟨_, Prod.ext readsToo rfl⟩
  have sameCallables := (readAbi_members reads).sameCallables same (readAbi_members readsToo)
  have sameText :
      (assembleModule (.text name) otherMembers options.style otherListening).1 = .ok text :=
    (sameCallables.assembleModule (.text name) options.style listening otherListening).symm.trans
      (congrArg Prod.fst assembles)
  exact ⟨_, generateClient_eq_ok_iff.mpr
    ⟨otherMembers, otherListening, readsToo, Prod.ext sameText rfl⟩⟩

theorem mem_of_mem_entriesOfKind {kind : MemberKind} {items : List Json}
    {entry : List (String × Json)} (isIn : entry ∈ entriesOfKind kind items) :
    .object entry ∈ items := by
  obtain ⟨item, isItem, found⟩ := List.mem_filterMap.mp isIn
  unfold Json.entryOf? at found
  split at found
  · rw [Option.ite_none_right_eq_some] at found
    obtain ⟨_, ⟨⟩⟩ := found
    exact isItem
  · cases found

/-- An ABI with the callable entries of one that can be written can be written, if its skipped
entries can be. -/
theorem fitsFile_of_same (regular : ∀ item ∈ others, item.isRegular) (fit : SkipsFit others)
    (same : ∀ kind, entriesOfKind kind items = entriesOfKind kind others)
    (fits : (Json.array items).FitsFile) : (Json.array others).FitsFile := by
  refine fitsFile_array_iff.mpr fun item isIn => ?_
  obtain ⟨entry, rfl, ⟨kind, isKind⟩ | ⟨kind, skipped⟩⟩ := exists_of_isRegular (regular item isIn)
  · have isOfKind : entry ∈ entriesOfKind kind others :=
      List.mem_filterMap.mpr ⟨_, isIn, if_pos isKind⟩
    rw [← same kind] at isOfKind
    exact fitsFile_array_iff.mp fits _ (mem_of_mem_entriesOfKind isOfKind)
  · refine fit _ isIn ?_
    rw [Json.isSkipped, skipped]
    rfl

/-- A contract with the same callable entries is accepted too, and only the module of its ABI
differs. -/
theorem generate_of_same {name bytecode : Json} {collector told : Collector} {result : Generated}
    (regular : ∀ item ∈ items, item.isRegular) (regularToo : ∀ item ∈ others, item.isRegular)
    (fit : SkipsFit items) (fitToo : SkipsFit others)
    (same : ∀ kind, entriesOfKind kind items = entriesOfKind kind others)
    (accepts : generate options ⟨name, .array items, bytecode⟩ collector = (.ok result, told))
    (other : Collector) :
    ∃ abi, (generate options ⟨name, .array others, bytecode⟩ other).1 =
      .ok { result with abi := abi } := by
  obtain ⟨named, isClient, isWritten, isBytecode⟩ := generate_eq_ok_iff.mp accepts
  obtain ⟨toldToo, isClientToo⟩ :=
    generateClient_of_same regular regularToo fit fitToo same isClient other
  have fits := fitsFile_of_same regularToo fitToo same (packageAbi_eq_ok_iff.mp isWritten).2.1
  obtain ⟨abi, isAbi⟩ : ∃ abi, packageAbi (.array others) = .ok abi :=
    ⟨_, packageAbi_eq_ok_iff.mpr ⟨⟨others, rfl⟩, fits, rfl⟩⟩
  have acceptsToo : generate options ⟨name, .array others, bytecode⟩ other =
      (.ok { result with abi := abi }, toldToo) :=
    generate_eq_ok_iff.mpr ⟨named, isClientToo, isAbi, isBytecode⟩
  exact ⟨abi, congrArg Prod.fst acceptsToo⟩

/-- For two ABIs of callable and skipped entries, the skipped of which can be written, with the same
functions in the same order and the same constructor, one contract is accepted exactly if the other
is; and if so, they have the same client and the same bytecode, whoever is told of either. -/
theorem generate_callables {options : Options} {name bytecode : Json} {items others : List Json}
    (regular : ∀ item ∈ items, item.isRegular) (regularToo : ∀ item ∈ others, item.isRegular)
    (fit : SkipsFit items) (fitToo : SkipsFit others)
    (same : ∀ kind, entriesOfKind kind items = entriesOfKind kind others)
    (collector other : Collector) :
    ((∃ result, (generate options ⟨name, .array items, bytecode⟩ collector).1 = .ok result) ↔
        ∃ result, (generate options ⟨name, .array others, bytecode⟩ other).1 = .ok result) ∧
      ∀ result otherResult,
        (generate options ⟨name, .array items, bytecode⟩ collector).1 = .ok result →
        (generate options ⟨name, .array others, bytecode⟩ other).1 = .ok otherResult →
        result.client = otherResult.client ∧ result.bytecode = otherResult.bytecode := by
  refine ⟨⟨?forth, ?back⟩, fun result otherResult accepts acceptsToo => ?agree⟩
  case forth =>
    rintro ⟨result, accepts⟩
    obtain ⟨abi, acceptsToo⟩ :=
      generate_of_same regular regularToo fit fitToo same (Prod.ext accepts rfl) other
    exact ⟨_, acceptsToo⟩
  case back =>
    rintro ⟨result, accepts⟩
    obtain ⟨abi, acceptsToo⟩ :=
      generate_of_same regularToo regular fitToo fit (fun kind => (same kind).symm)
        (Prod.ext accepts rfl) collector
    exact ⟨_, acceptsToo⟩
  case agree =>
    obtain ⟨abi, isOther⟩ :=
      generate_of_same regular regularToo fit fitToo same (Prod.ext accepts rfl) other
    obtain rfl := Except.ok.inj (isOther.symm.trans acceptsToo)
    exact ⟨rfl, rfl⟩

end

/-! ### A constructor at either end -/

/-- A function that takes an amount. -/
def mintEntry : Json :=
  .object [
    ("type", .text "function"),
    ("name", .text "mint"),
    ("inputs", .array [.object [("name", .text "amount"), ("type", .text "uint256")]])]

/-- A constructor that takes an owner. -/
def ownerConstructor : Json :=
  .object [
    ("type", .text "constructor"),
    ("inputs", .array [.object [("name", .text "owner"), ("type", .text "address")]])]

/-- An event whose name and inputs are malformed. -/
def malformedEvent : Json :=
  .object [("type", .text "event"), ("name", .integer 7), ("inputs", .text "none")]

/-- The constructor may stand at either end, with a malformed event between it and the function or
without; either contract is accepted, and the clients are the same. -/
theorem mint_callables :
    ∃ result otherResult : Generated,
      (generate .standard ⟨.text "Token", .array [mintEntry, malformedEvent, ownerConstructor],
          .text "0x"⟩ (.keeping [])).1 = .ok result ∧
        (generate .standard ⟨.text "Token", .array [ownerConstructor, mintEntry],
          .text "0x"⟩ .absent).1 = .ok otherResult ∧
        result.client = otherResult.client ∧ result.bytecode = otherResult.bytecode := by
  have ends : endsWell (fun _ _ => true)
      (generate .standard ⟨.text "Token", .array [ownerConstructor, mintEntry], .text "0x"⟩
        .absent) := by
    decide +kernel
  obtain ⟨otherResult, told, acceptsToo, _⟩ := exists_of_endsWell ends
  have acceptsToo := congrArg Prod.fst acceptsToo
  have callables := @generate_callables .standard (.text "Token") (.text "0x")
    [mintEntry, malformedEvent, ownerConstructor] [ownerConstructor, mintEntry]
    (by decide) (by decide) (by decide +kernel) (by decide +kernel)
    (fun kind => by cases kind <;> rfl) (.keeping []) .absent
  obtain ⟨result, accepts⟩ := callables.1.mpr ⟨otherResult, acceptsToo⟩
  exact ⟨result, otherResult, accepts, acceptsToo, callables.2 _ _ accepts acceptsToo⟩

/-- An event that cannot be written matters, though it is skipped: the contract is accepted without
it, and not with it. -/
theorem longEvent_matters :
    (∀ item ∈ [mintEntry, longEvent], item.isRegular) ∧
      (∀ kind, entriesOfKind kind [mintEntry, longEvent] = entriesOfKind kind [mintEntry]) ∧
      (∃ result, (generate .standard ⟨.text "Token", .array [mintEntry], .text "0x"⟩ .absent).1 =
        .ok result) ∧
      ¬∃ result, (generate .standard ⟨.text "Token", .array [mintEntry, longEvent], .text "0x"⟩
        .absent).1 = .ok result := by
  have ends : endsWell (fun _ _ => true)
      (generate .standard ⟨.text "Token", .array [mintEntry], .text "0x"⟩ .absent) := by
    decide +kernel
  obtain ⟨result, told, accepts, _⟩ := exists_of_endsWell ends
  refine ⟨by decide, fun kind => by cases kind <;> rfl, ⟨result, congrArg Prod.fst accepts⟩, ?_⟩
  rintro ⟨result, accepts⟩
  obtain ⟨_, _, isWritten, _⟩ := generate_eq_ok_iff.mp (Prod.ext accepts rfl)
  have fits : (Json.array [longEvent]).FitsFile :=
    fitsFile_array_iff.mp (packageAbi_eq_ok_iff.mp isWritten).2.1 _ (by simp)
  exact longEvent_not_noticed (canBeNoticed_of_fitsFile fits true)

end ContractClient
