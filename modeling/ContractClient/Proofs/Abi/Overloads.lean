/-
This file says which functions count as one. Two functions of one name are told apart by the types
in their signatures, and there every tag stands as it is spelled. So where two spellings are read as
the same type, such as `uint` and `uint256`, the functions are taken for overloads
(`countAsOne_iff_spelledTypes`), and only those of them count as one whose tags are spelled alike, as
they are if all tags stand in full form.

Functions that are read together differ in their names or in their types as they are spelled
(`readAbi_distinguishes`).
-/

import ContractClient.Proofs.Abi.TagText
import ContractClient.Proofs.Abi.TypeTree
import ContractClient.Proofs.Abi.WellFormed
import Mathlib.Data.List.DropRight

namespace ContractClient

/-! ### Types as they are spelled and as they are read -/

/-- The types of the parameters with what is read of their tags. -/
def readTypes (parameters : List Parameter) : List (TypeTree (Except TagFault TypeTag)) :=
  treesOf namesTuple TypeTag.parse parameters

/-- The tag is the full text of what is read of it. -/
def HasFullForm (tag : String) : Prop :=
  (TypeTag.parse tag).map TypeTag.text = .ok tag

instance (tag : String) : Decidable (HasFullForm tag) :=
  inferInstanceAs (Decidable ((TypeTag.parse tag).map TypeTag.text = .ok tag))

theorem HasFullForm.exists_text {tag : String} (full : HasFullForm tag) :
    ∃ read, TypeTag.parse tag = .ok read ∧ read.text = tag := by
  obtain ⟨read, isRead, isText⟩ := exists_of_map_eq_ok full
  exact ⟨read, isRead, isText⟩

theorem HasFullForm.trimmed {tag : String} (full : HasFullForm tag) : strip tag = tag := by
  obtain ⟨read, isRead, rfl⟩ := full.exists_text
  have spells := TypeTag.spells_text (TypeTag.wellFormed_of_parse isRead).1
  rw [strip, stripChars_of_solid spells.solid, String.ofList_toList]

theorem HasFullForm.accepted {tag : String} (full : HasFullForm tag) : isAccepted tag = true :=
  isAccepted_iff.mpr (full.exists_text.imp fun _ isFull => isFull.1)

/-- The full text of what has been read. -/
def readText (result : Except TagFault TypeTag) : String :=
  match result with
  | .ok read => read.text
  | .error _ => ""

/-- The spelling of types in full form can be written from what is read of them. -/
theorem spelledTypes_eq_of_full {parameters : List Parameter}
    (full : ∀ tag ∈ tagsOf parameters, HasFullForm tag) :
    spelledTypes parameters = TypeTree.mapAll readText (readTypes parameters) := by
  rw [readTypes, mapAll_treesOf, spelledTypes]
  refine treesOf_congr fun tag isIn => ?_
  have isFull := full tag isIn
  refine ⟨isTupleTag_eq_namesTuple isFull.trimmed isFull.accepted, ?_⟩
  obtain ⟨read, isRead, isText⟩ := isFull.exists_text
  rw [Function.comp_apply, isRead]
  exact isText.symm

/-! ### Reading behind a function -/

/-- Behind entries that are read, the reading goes on with their members. -/
theorem readEntries_append {contract : Json} {known members : List Member} {index : Nat}
    {collector told : Collector} {before : List Json} (after : List Json)
    (reads : readEntries contract known index before collector = (.ok members, told)) :
    readEntries contract known index (before ++ after) collector =
      readEntries contract members (index + before.length) after told := by
  induction before generalizing known index collector with
  | nil =>
    cases reads
    rfl
  | cons item rest inductionHypothesis =>
    have behind : index + (item :: rest).length = index + 1 + rest.length := by
      rw [List.length_cons]
      omega
    cases item with
    | object entry =>
      cases skipped : skippedKind? entry with
      | some kind =>
        rw [readEntries_skipped skipped] at reads
        rw [List.cons_append, readEntries_skipped skipped, behind]
        cases limit : Json.entryLimit? collector.isPresent entry with
        | none =>
          rw [limit] at reads
          exact inductionHypothesis reads
        | some limit =>
          rw [limit] at reads
          cases reads
      | none =>
        rw [readEntries] at reads
        rw [List.cons_append, readEntries, behind]
        simp only [skipped] at reads ⊢
        split at reads
        · cases reads
        · exact inductionHypothesis reads
    | _ => cases reads

theorem requireNew_of_mem {known : List Member} {first second : Member}
    (isFunction : first.kind = .function) (isFunctionToo : second.kind = .function)
    (isKnown : first ∈ known) (same : first.signature = second.signature) :
    requireNew known second = .error (.shape (.duplicateSignature second.signature)) := by
  unfold requireNew
  rw [isFunctionToo]
  refine if_pos (List.any_eq_true.mpr ⟨first, List.mem_filter.mpr ⟨isKnown, ?_⟩, ?_⟩)
  · rw [isFunction]
    rfl
  · exact beq_iff_eq.mpr same

/-! ### Tags that have been read -/

/-- What has been trimmed once is trimmed. -/
theorem stripChars_stripChars (characters : List Char) :
    stripChars (stripChars characters) = stripChars characters := by
  have trimmed : stripChars characters = (characters.dropWhile isBlank).rdropWhile isBlank := rfl
  have noBlank : (stripChars characters).dropWhile isBlank = stripChars characters := by
    rw [List.dropWhile_eq_self_iff]
    intro some
    have isFront : stripChars characters <+: characters.dropWhile isBlank :=
      List.rdropWhile_prefix isBlank _
    rw [isFront.getElem some]
    exact List.dropWhile_eq_self_iff.mp (List.dropWhile_idempotent isBlank characters) _
  rw [stripChars, noBlank, trimmed]
  exact List.rdropWhile_idempotent isBlank _

theorem strip_strip (text : String) : strip (strip text) = strip text := by
  rw [strip, strip, String.toList_ofList, stripChars_stripChars]

theorem strip_describedTag (members : List (String × Json)) :
    strip (Json.describedTag members) = Json.describedTag members := by
  unfold Json.describedTag
  split
  · exact strip_strip _
  · decide +kernel

mutual

/-- The tags that a value describes are trimmed. -/
theorem describedParameter_trimmed :
    ∀ value : Json, ∀ tag ∈ value.describedParameter.tags, strip tag = tag
  | .object members => by
    rw [Json.describedParameter, Parameter.tags_eq, List.forall_mem_cons]
    exact ⟨strip_describedTag members, describedComponents_trimmed members⟩
  | .null | .boolean _ | .integer _ | .float _ | .text _ | .array _ =>
    List.forall_mem_singleton.mpr (by decide +kernel)

theorem describedComponents_trimmed :
    ∀ members : List (String × Json),
      ∀ tag ∈ tagsOf ((Json.describedComponents members).getD []), strip tag = tag
  | [] => nofun
  | (key, value) :: rest => by
    rw [Json.describedComponents]
    split
    · exact describedParameters_trimmed value
    · exact describedComponents_trimmed rest

theorem describedParameters_trimmed :
    ∀ value : Json, ∀ tag ∈ tagsOf value.describedParameters, strip tag = tag
  | .array items => describedItems_trimmed items
  | .null | .boolean _ | .integer _ | .float _ | .text _ | .object _ => nofun

theorem describedItems_trimmed :
    ∀ items : List Json, ∀ tag ∈ tagsOf (Json.describedItems items), strip tag = tag
  | [] => nofun
  | item :: rest => by
    rw [Json.describedItems, tagsOf, List.forall_mem_append]
    exact ⟨describedParameter_trimmed item, describedItems_trimmed rest⟩

end

theorem trimmed_of_readMember {index : Int} {entry : List (String × Json)} {member : Member}
    (reads : readMember index entry = .ok member) :
    ∀ tag ∈ tagsOf member.inputs, strip tag = tag := by
  obtain ⟨kind, -, rfl⟩ := Option.map_eq_some_iff.mp (readMember_described reads)
  cases kind <;> exact describedParameters_trimmed _

/-- The tags of the members of an ABI that has been read are trimmed. -/
theorem readAbi_trimmed {contract : Json} {items : List Json} {collector told : Collector}
    {members : List Member}
    (reads : readAbi contract (.array items) collector = (.ok members, told)) :
    ∀ member ∈ members, ∀ tag ∈ tagsOf member.inputs, strip tag = tag := by
  have none : ∀ member ∈ ([] : List Member), ∀ tag ∈ tagsOf member.inputs, strip tag = tag :=
    fun _ isIn => nomatch isIn
  exact @readEntries_induction
    (fun _ known => ∀ member ∈ known, ∀ tag ∈ tagsOf member.inputs, strip tag = tag) contract
    (fun _ _ _ _ _ isHeld => isHeld)
    (fun _ _ _ _ _ isRead _ isHeld => List.forall_mem_append.mpr
      ⟨isHeld, List.forall_mem_singleton.mpr (trimmed_of_readMember isRead)⟩)
    items [] [] members 0 collector none (congrArg Prod.fst reads)

/-- Of the functions of an ABI that has been read, no two have one name and the same types as they
are written, as long as all their tags can be read. -/
theorem readAbi_distinguishes {contract : Json} {items : List Json} {collector told : Collector}
    {members : List Member}
    (reads : readAbi contract (.array items) collector = (.ok members, told))
    (accepted : ∀ function ∈ functionsAmong members, ∀ tag ∈ tagsOf function.inputs,
      isAccepted tag = true) :
    ((functionsAmong members).map fun function =>
      (function.name, typeTrees function.inputs)).Nodup := by
  have distinct := (readAbi_members reads).signaturesDistinct
  rw [List.Nodup, List.pairwise_map] at distinct ⊢
  refine distinct.imp_of_mem fun {first second} isFunction isFunctionToo differ same => differ ?_
  have spelled : ∀ function ∈ functionsAmong members,
      spelledTypes function.inputs = typeTrees function.inputs := fun function isIn =>
    spelledTypes_eq_typeTrees (readAbi_trimmed reads function (List.mem_of_mem_filter isIn))
      (accepted function isIn)
  obtain ⟨sameName, sameTypes⟩ := Prod.mk.inj same
  rw [← spelled first isFunction, ← spelled second isFunctionToo] at sameTypes
  exact (signature_eq_iff_spelledTypes sameName (accepted first isFunction)
    (accepted second isFunctionToo)).mpr sameTypes

/-! ### Functions that count as one -/

/-- The functions count as one: they have one signature, and wherever an ABI is read with the first
of them, an entry for the second ends the reading as a duplicate. -/
structure CountAsOne (first second : Member) : Prop where
  signature : first.signature = second.signature
  rejected : ∀ {contract : Json} {collector told : Collector} {before : List Json}
    {known : List Member} {entry : List (String × Json)} (after : List Json),
    readAbi contract (.array before) collector = (.ok known, told) → first ∈ known →
      ReadFrom entry second →
        readAbi contract (.array (before ++ .object entry :: after)) collector =
          (.error (.shape (.duplicateSignature second.signature)), told)

/-- The functions count as two: their signatures differ, and an ABI with both of them is read. -/
structure CountAsTwo (first second : Member) : Prop where
  signature : first.signature ≠ second.signature
  accepted : ∀ {contract : Json} {collector : Collector} {entry other : List (String × Json)},
    ReadFrom entry first → ReadFrom other second →
      readAbi contract (.array [.object entry, .object other]) collector =
        (.ok [first, second], collector)

section

variable {first second : Member}

theorem countAsOne_of_signature (isFunction : first.kind = .function)
    (isFunctionToo : second.kind = .function) (same : first.signature = second.signature) :
    CountAsOne first second where
  signature := same
  rejected := by
    intro contract collector told before known entry after reads isKnown isRead
    replace reads : readEntries contract [] 0 before collector = (.ok known, told) := reads
    show readEntries contract [] 0 (before ++ .object entry :: after) collector = _
    rw [readEntries_append _ reads]
    refine readEntries_stops (skippedKind?_of_memberKind? isRead.kind) ?_
    rw [isRead.anywhere]
    exact requireNew_of_mem isFunction isFunctionToo isKnown same

theorem countAsTwo_of_signature (isFunction : first.kind = .function)
    (isFunctionToo : second.kind = .function) (differ : first.signature ≠ second.signature) :
    CountAsTwo first second where
  signature := differ
  accepted := by
    intro contract collector entry other isRead isReadToo
    have isNew : requireNew [] first = .ok () := by
      rw [requireNew, isFunction]
      rfl
    have isNewToo : requireNew [first] second = .ok () := by
      have other : (functionsAmong [first]).any (·.signature == second.signature) = false := by
        refine List.any_eq_false.mpr fun known isKnown same => ?_
        obtain rfl := List.mem_singleton.mp (List.mem_of_mem_filter isKnown)
        exact differ (beq_iff_eq.mp same)
      simp only [requireNew, isFunctionToo, other]
      rfl
    show readEntries contract [] 0 [.object entry, .object other] collector = _
    rw [readEntries_new (skippedKind?_of_memberKind? isRead.kind) (isRead.anywhere _) isNew,
      List.nil_append, readEntries_new (skippedKind?_of_memberKind? isReadToo.kind)
        (isReadToo.anywhere _) isNewToo]
    rfl

/-- Functions of one name and of one list of types count as one exactly if their types are spelled
alike, and are taken for overloads otherwise. Tags in full form are spelled alike. -/
theorem countAsOne_iff_spelledTypes (isFunction : first.kind = .function)
    (isFunctionToo : second.kind = .function) (sameName : first.name = second.name)
    (accepted : ∀ tag ∈ tagsOf first.inputs, isAccepted tag = true)
    (acceptedToo : ∀ tag ∈ tagsOf second.inputs, isAccepted tag = true)
    (sameTypes : readTypes first.inputs = readTypes second.inputs) :
    (CountAsOne first second ↔ spelledTypes first.inputs = spelledTypes second.inputs) ∧
    (CountAsTwo first second ↔ spelledTypes first.inputs ≠ spelledTypes second.inputs) ∧
    ((∀ tag ∈ tagsOf first.inputs, HasFullForm tag) →
      (∀ tag ∈ tagsOf second.inputs, HasFullForm tag) → CountAsOne first second) := by
  have sameSignature := signature_eq_iff_spelledTypes sameName accepted acceptedToo
  refine ⟨?_, ?_, fun full fullToo => ?_⟩
  · rw [← sameSignature]
    exact ⟨CountAsOne.signature, countAsOne_of_signature isFunction isFunctionToo⟩
  · rw [ne_eq, ← sameSignature]
    exact ⟨CountAsTwo.signature, countAsTwo_of_signature isFunction isFunctionToo⟩
  · refine countAsOne_of_signature isFunction isFunctionToo (sameSignature.mpr ?_)
    rw [spelledTypes_eq_of_full full, spelledTypes_eq_of_full fullToo, sameTypes]

end

theorem settle_countAsOne :
    CountAsOne (settle "orders" "fee") (settle "trades" "key") := by
  have full : ∀ tag ∈ ["tuple[2]", "tuple", "uint8[]", "bytes32"], HasFullForm tag := by
    decide +kernel
  have accepted : ∀ tag ∈ ["tuple[2]", "tuple", "uint8[]", "bytes32"], isAccepted tag = true :=
    fun tag isIn => (full tag isIn).accepted
  have counted := @countAsOne_iff_spelledTypes (settle "orders" "fee") (settle "trades" "key")
    rfl rfl rfl accepted accepted rfl
  exact counted.2.2 full full

/-- A function of one number, whose type has the given tag. -/
def burn (tag : String) : Member :=
  ⟨.function, "burn", [⟨"amount", tag, "", none⟩], [], "nonpayable"⟩

/-- An entry for the function. -/
def burnEntry (tag : String) : List (String × Json) :=
  [("type", .text "function"), ("name", .text "burn"),
    ("inputs", .array [.object [("name", .text "amount"), ("type", .text tag)]])]

/-- A number without a width is read as one of 256 bits, but both functions stand in one ABI. -/
theorem burn_not_countAsOne :
    (isAccepted "uint256" = true ∧ isAccepted "uint" = true) ∧
    readTypes (burn "uint256").inputs = readTypes (burn "uint").inputs ∧
    ¬CountAsOne (burn "uint256") (burn "uint") ∧
    readAbi (.text "Token")
        (.array [.object (burnEntry "uint256"), .object (burnEntry "uint")]) .absent =
      (.ok [burn "uint256", burn "uint"], .absent) := by
  have sameTag : TypeTag.parse "uint256" = TypeTag.parse "uint" := by decide +kernel
  have differ : (burn "uint256").signature ≠ (burn "uint").signature := by decide +kernel
  have types : ∀ tag, namesTuple tag = false →
      readTypes (burn tag).inputs = [.plain (TypeTag.parse tag)] := fun tag noTuple => by
    rw [readTypes, burn, treesOf, Parameter.tree, noTuple]
    rfl
  have reads : ReadFrom (burnEntry "uint256") (burn "uint256") := ⟨0, rfl⟩
  have readsToo : ReadFrom (burnEntry "uint") (burn "uint") := ⟨0, rfl⟩
  refine ⟨by decide +kernel, ?_, fun one => differ one.signature,
    (countAsTwo_of_signature rfl rfl differ).accepted reads readsToo⟩
  rw [types _ (by decide +kernel), types _ (by decide +kernel), sameTag]

end ContractClient
