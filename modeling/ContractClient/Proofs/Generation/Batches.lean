/-
This file proves that the contracts of a batch do not influence one another. What a contract gives
by itself does not depend on who listens, and what is noticed about it does not depend on what the
listener knows already (`generate_tells`). A batch of contracts with different names gives just that
for each of them in turn, up to the first one that fails, and its order does not matter but for the
order of the results (`batch_independent`).

There is one way in which a listener has an influence. The notice that an entry was skipped is put
together only if somebody listens, and it fails if the name of the entry cannot be shown. Such an
ABI cannot be written either, so the contract fails in any case, but it may fail for another reason
where nobody listens (`generate_silent`).
-/

import ContractClient.Proofs.Generation.Callables
import Mathlib.Data.List.Perm.Basic

namespace ContractClient

/-! ### Listeners that are there or not -/

/-- For every listener, if there is to be one, or for none, the run ends as given and the listener
is told the given notices. -/
def TellsWhere {α : Type} (listened : Bool) (run : Collector → α × Collector) (ended : α)
    (gained : List Notice) : Prop :=
  ∀ listener : Collector, listener.isPresent = listened →
    run listener = (ended, listener.addAll gained)

/-- The run ends in one way for every listener and in one way, which may be another, for none; and
every listener is told the given notices. -/
def TellsEach {α : Type} (run : Collector → α × Collector) (ended : Bool → α)
    (gained : List Notice) : Prop :=
  ∀ listened, TellsWhere listened run (ended listened) gained

/-- Somebody who knows of nothing yet, or nobody. -/
def newListener (listened : Bool) : Collector :=
  if listened then .keeping [] else .absent

@[simp] theorem isPresent_newListener (listened : Bool) :
    (newListener listened).isPresent = listened := by
  cases listened <;> rfl

section

variable {α : Type} {listened : Bool} {run : Collector → α × Collector} {ended : α}
  {gained : List Notice}

theorem Tells.of_each (tells : TellsEach run (fun _ => ended) gained) : Tells run ended gained :=
  fun listener => tells _ listener rfl

/-- Nobody can be told anything, so only how a run ends counts where nobody listens. -/
theorem TellsWhere.of_absent (tells : TellsWhere false run ended gained) (others : List Notice) :
    TellsWhere false run ended others := by
  intro listener nobody
  cases listener with
  | absent => rw [tells .absent rfl, Collector.absent_addAll, Collector.absent_addAll]
  | keeping => cases nobody

end

section

variable {options : Options}

/-! ### One contract -/

/-- Whoever listens is told the same while an ABI is read, and its members are the same. -/
theorem readEntries_tells (listened : Bool) (contract : Json) (known : List Member) (index : Nat)
    (items : List Json) :
    ∃ ended gained, TellsWhere listened (readEntries contract known index items) ended gained := by
  induction items generalizing known index with
  | nil => exact ⟨.ok known, [], fun listener _ => rfl⟩
  | cons item rest inductionHypothesis =>
    cases item with
    | object entry =>
      cases skipped : skippedKind? entry with
      | some kind =>
        cases meets : Json.entryLimit? listened entry with
        | none =>
          -- The rest is read by a listener who knows of the skipped entry already.
          obtain ⟨ended, gained, tells⟩ := inductionHypothesis known (index + 1)
          refine ⟨ended, .skipped (.text kind) (skippedName entry) contract :: gained,
            fun listener isThere => ?_⟩
          rw [readEntries_skipped skipped, isThere, meets]
          exact tells _ ((isPresent_add listener _).trans isThere)
        | some limit =>
          refine ⟨.error (.defect limit), [], fun listener isThere => ?_⟩
          rw [readEntries_skipped skipped, isThere, meets]
          rfl
      | none =>
        cases reads : (do
            let member ← readMember index entry
            requireNew known member
            return member : Except Fault Member) with
        | error fault =>
          refine ⟨.error fault, [], fun listener _ => ?_⟩
          rw [readEntries, skipped]
          dsimp only
          rw [reads]
          rfl
        | ok member =>
          obtain ⟨ended, gained, tells⟩ := inductionHypothesis (known ++ [member]) (index + 1)
          refine ⟨ended, gained, fun listener isThere => ?_⟩
          rw [readEntries, skipped]
          dsimp only
          rw [reads]
          exact tells listener isThere
    | _ => exact ⟨_, [], fun listener _ => rfl⟩

theorem readAbi_tells (listened : Bool) (contract abi : Json) :
    ∃ ended gained, TellsWhere listened (readAbi contract abi) ended gained := by
  cases abi with
  | array items => exact readEntries_tells listened contract [] 0 items
  | _ => exact ⟨_, [], fun listener _ => rfl⟩

theorem generateClient_tells (listened : Bool) (options : Options) (name : String) (abi : Json) :
    ∃ ended gained, TellsWhere listened (generateClient options name abi) ended gained := by
  obtain ⟨read, gained, tells⟩ := readAbi_tells listened (.text name) abi
  cases read with
  | error fault =>
    refine ⟨.error fault, gained, fun listener isThere => ?_⟩
    rw [generateClient, tells listener isThere]
  | ok members =>
    obtain ⟨ended, later, tellsLater⟩ := assembleModule_tells (.text name) members options.style
    refine ⟨ended, gained ++ later, fun listener isThere => ?_⟩
    rw [generateClient, tells listener isThere, Collector.addAll_append]
    exact tellsLater _

/-- What is generated for a contract by itself, if somebody listens or if nobody does. -/
def generateAlone (options : Options) (listened : Bool) (contract : Contract) :
    Except Fault Generated :=
  (generate options contract (newListener listened)).1

/-- What is noticed about a contract by itself. -/
def noticesAlone (options : Options) (contract : Contract) : List Notice :=
  (generate options contract (.keeping [])).2.notices

/-- Whoever listens, a contract gives what it gives by itself, and the listener is told what is
noticed about it by itself. -/
theorem generate_tells (options : Options) (listened : Bool) (contract : Contract) :
    TellsWhere listened (generate options contract) (generateAlone options listened contract)
      (noticesAlone options contract) := by
  have tells : ∃ ended gained, TellsWhere listened (generate options contract) ended gained := by
    unfold generate
    cases requireContractName contract.name with
    | error fault => exact ⟨.error fault, [], fun listener _ => rfl⟩
    | ok name =>
      obtain ⟨client, gained, tells⟩ := generateClient_tells listened options name contract.abi
      let result : Except Fault Generated := do
        let client ← client
        let abi ← packageAbi contract.abi
        let bytecode ← packageBytecode contract.bytecode
        return ⟨name, client, abi, bytecode⟩
      refine ⟨result, gained, fun listener isThere => ?_⟩
      dsimp only
      rw [tells listener isThere]
  obtain ⟨ended, gained, tells⟩ := tells
  have isEnded : generateAlone options listened contract = ended :=
    congrArg Prod.fst (tells _ (isPresent_newListener listened))
  rw [isEnded]
  cases listened with
  | false => exact tells.of_absent _
  | true =>
    have isGained : noticesAlone options contract = gained := by
      rw [noticesAlone, tells _ rfl, Collector.keeping_addAll]
      rfl
    rw [isGained]
    exact tells

/-! ### Nobody who listens -/

/-- The item of an ABI is skipped, and the notice about that meets the limit. -/
def Json.MissesNotice (limit : Defect) (item : Json) : Prop :=
  ∃ entry kind, item = .object entry ∧ skippedKind? entry = some kind ∧
    noticeLimit? true entry = some limit

/-- The ABI holds an item of which it cannot be noticed that it is skipped. -/
def Json.MissesANotice (limit : Defect) (abi : Json) : Prop :=
  ∃ items, abi = .array items ∧ ∃ item ∈ items, item.MissesNotice limit

/-- Somebody who listens changes how reading ends only by a notice that cannot be given. -/
theorem readEntries_silent (contract : Json) (known : List Member) (index : Nat)
    (items : List Json) (listener : Collector) :
    (readEntries contract known index items listener).1 =
        (readEntries contract known index items .absent).1 ∨
      ∃ limit, (∃ item ∈ items, item.MissesNotice limit) ∧
        (readEntries contract known index items listener).1 = .error (.defect limit) := by
  induction items generalizing known index listener with
  | nil => exact .inl rfl
  | cons item rest inductionHypothesis =>
    -- What is missed in the rest is missed in the whole.
    have behind : ∀ {ended : Except Fault (List Member)},
        (∃ limit, (∃ other ∈ rest, other.MissesNotice limit) ∧ ended = .error (.defect limit)) →
        ∃ limit, (∃ other ∈ item :: rest, other.MissesNotice limit) ∧
          ended = .error (.defect limit) := by
      rintro ended ⟨limit, ⟨other, isIn, misses⟩, fails⟩
      exact ⟨limit, ⟨other, List.mem_cons_of_mem _ isIn, misses⟩, fails⟩
    cases item with
    | object entry =>
      cases skipped : skippedKind? entry with
      | some kind =>
        have silent : Json.entryLimit? Collector.absent.isPresent entry = none :=
          entryLimit?_of_skipped skipped false
        rw [readEntries_skipped skipped, readEntries_skipped skipped, silent,
          entryLimit?_of_skipped skipped]
        cases meets : Json.noticeLimit? listener.isPresent entry with
        | none => exact (inductionHypothesis known (index + 1) _).imp_right behind
        | some limit =>
          refine .inr ⟨limit, ⟨_, List.mem_cons_self, entry, kind, rfl, skipped, ?_⟩, rfl⟩
          cases isThere : listener.isPresent with
          | true => rwa [isThere] at meets
          | false =>
            rw [isThere] at meets
            cases meets
      | none =>
        simp only [readEntries, skipped]
        split
        · exact .inl rfl
        · exact (inductionHypothesis _ (index + 1) listener).imp_right behind
    | _ => exact .inl rfl

theorem readAbi_silent (contract abi : Json) (listener : Collector) :
    (readAbi contract abi listener).1 = (readAbi contract abi .absent).1 ∨
      ∃ limit, abi.MissesANotice limit ∧
        (readAbi contract abi listener).1 = .error (.defect limit) := by
  cases abi with
  | array items =>
    exact (readEntries_silent contract [] 0 items listener).imp_right
      fun ⟨limit, misses, fails⟩ => ⟨limit, ⟨items, rfl, misses⟩, fails⟩
  | _ => exact .inl rfl

theorem generateClient_silent (options : Options) (name : String) (abi : Json)
    (listener : Collector) :
    (generateClient options name abi listener).1 = (generateClient options name abi .absent).1 ∨
      ∃ limit, abi.MissesANotice limit ∧
        (generateClient options name abi listener).1 = .error (.defect limit) := by
  have ends := readAbi_silent (.text name) abi listener
  unfold generateClient
  generalize readAbi (.text name) abi listener = heard at ends ⊢
  generalize readAbi (.text name) abi .absent = unheard at ends ⊢
  obtain ⟨read, told⟩ := heard
  obtain ⟨readToo, toldToo⟩ := unheard
  rcases ends with same | ⟨limit, misses, fails⟩
  · obtain rfl : read = readToo := same
    cases read with
    | error fault => exact .inl rfl
    | ok members =>
      obtain ⟨ended, gained, tells⟩ := assembleModule_tells (.text name) members options.style
      dsimp only
      rw [tells, tells]
      exact .inl rfl
  · obtain rfl : read = .error (.defect limit) := fails
    exact .inr ⟨limit, misses, rfl⟩

/-- The contract gives the result by itself, whether or not somebody listens. -/
def GivesAlone (options : Options) (contract : Contract) (result : Generated) : Prop :=
  ∀ listened, generateAlone options listened contract = .ok result

/-- An ABI that is written misses no notice. -/
theorem not_missesANotice {abi : Json} {text : String} (writes : packageAbi abi = .ok text)
    (limit : Defect) : ¬abi.MissesANotice limit := by
  rintro ⟨items, rfl, _, isIn, entry, kind, rfl, skipped, misses⟩
  obtain ⟨_, fits, _⟩ := packageAbi_eq_ok_iff.mp writes
  have noticed := canBeNoticed_of_fitsFile (fitsFile_array_iff.mp fits _ isIn) true
  cases (noticed entry kind rfl skipped).symm.trans misses

/-- A contract gives its result whether or not somebody listens. If it gives none, it fails for the
same reason, or somebody who listens should be told that an entry is skipped and cannot be. -/
theorem generate_silent (options : Options) (contract : Contract) :
    (∃ result, GivesAlone options contract result) ∨
      ∃ fault, generateAlone options false contract = .error fault ∧
        (generateAlone options true contract = .error fault ∨
          ∃ limit, contract.abi.MissesANotice limit ∧
            generateAlone options true contract = .error (.defect limit)) := by
  have ends : generateAlone options true contract = generateAlone options false contract ∨
      ∃ limit, contract.abi.MissesANotice limit ∧
        generateAlone options true contract = .error (.defect limit) := by
    unfold generateAlone generate
    cases requireContractName contract.name with
    | error fault => exact .inl rfl
    | ok name =>
      refine (generateClient_silent options name contract.abi (newListener true)).imp
        (fun same => ?_) fun ⟨limit, misses, fails⟩ => ⟨limit, misses, ?_⟩
      · dsimp only
        rw [same]
        rfl
      · dsimp only
        rw [fails]
        rfl
  cases alone : generateAlone options false contract with
  | error fault => exact .inr ⟨fault, rfl, alone ▸ ends⟩
  | ok result =>
    obtain ⟨_, _, writes, _⟩ := generate_eq_ok_iff.mp
      (Prod.ext (alone : (generate options contract .absent).1 = _) rfl)
    rcases ends with same | ⟨limit, misses, _⟩
    · refine .inl ⟨result, fun listened => ?_⟩
      cases listened with
      | true => exact same.trans alone
      | false => exact alone
    · exact (not_missesANotice writes limit misses).elim

/-- A contract gives its result or fails, whether or not somebody listens. -/
theorem givesAlone_or_fails (options : Options) (contract : Contract) :
    (∃ result, GivesAlone options contract result) ∨
      ∃ faults : Bool → Fault,
        ∀ listened, generateAlone options listened contract = .error (faults listened) := by
  refine (generate_silent options contract).imp_right ?_
  rintro ⟨fault, silent, heard⟩
  obtain ⟨other, heard⟩ : ∃ other, generateAlone options true contract = .error other :=
    heard.elim (fun fails => ⟨fault, fails⟩) fun ⟨limit, _, fails⟩ => ⟨.defect limit, fails⟩
  refine ⟨fun listened => if listened then other else fault, fun listened => ?_⟩
  cases listened with
  | true => exact heard
  | false => exact silent

/-! ### Batches -/

/-- The names of the contracts can be compared, and no two of them count as one. -/
structure DistinctNames (contracts : List Contract) : Prop where
  plain : ∀ contract ∈ contracts, contract.name.isPlain
  apart : contracts.Pairwise fun first second => ¬first.name.sameName second.name

/-- How contracts end that are taken in turn, each by itself, if somebody listens and if nobody does,
and what is noticed about them: all of them succeed, or the first one that fails is the last one. -/
inductive EndsAlone (options : Options) :
    List Contract → (Bool → Except Fault (List Generated)) → List Notice → Prop
  | succeeds {contracts : List Contract} {results : List Generated} :
      List.Forall₂ (GivesAlone options) contracts results →
      EndsAlone options contracts (fun _ => .ok results) (contracts.flatMap (noticesAlone options))
  | fails {before after : List Contract} {results : List Generated} {contract : Contract}
      {faults : Bool → Fault} :
      List.Forall₂ (GivesAlone options) before results →
      (∀ listened, generateAlone options listened contract = .error (faults listened)) →
      EndsAlone options (before ++ contract :: after) (fun listened => .error (faults listened))
        ((before ++ [contract]).flatMap (noticesAlone options))

/-- A contract that gives a result stands in front of contracts that are taken in turn. -/
theorem EndsAlone.cons {contract : Contract} {result : Generated} {rest : List Contract}
    {ended : Bool → Except Fault (List Generated)} {gained : List Notice}
    (gives : GivesAlone options contract result) (ends : EndsAlone options rest ended gained) :
    EndsAlone options (contract :: rest) (fun listened => (ended listened).map (result :: ·))
      (noticesAlone options contract ++ gained) := by
  cases ends with
  | succeeds all => exact .succeeds (.cons gives all)
  | fails all areFaults =>
    have front : List.Forall₂ (GivesAlone options) (contract :: _) (result :: _) :=
      .cons gives all
    exact .fails front areFaults

theorem Json.sameName_comm (left right : Json) : left.sameName right = right.sameName left := by
  rw [sameName_eq, sameName_eq, isPlain, isPlain]
  cases left.nameKey? <;> cases right.nameKey? <;> simp [eq_comm]

theorem DistinctNames.perm {contracts others : List Contract} (distinct : DistinctNames contracts)
    (same : others.Perm contracts) : DistinctNames others where
  plain contract isIn := distinct.plain contract (same.mem_iff.mp isIn)
  apart := by
    refine (same.pairwise_iff fun {first second} apart => ?_).mpr distinct.apart
    rwa [Json.sameName_comm]

theorem requireNewName_eq_ok {known : List String} {name : Json} (plain : name.isPlain)
    (fresh : ∀ earlier ∈ known, ¬(Json.text earlier).sameName name) :
    requireNewName known name = .ok () := by
  unfold requireNewName
  split
  · cases plain
  · cases plain
  · rename_i name
    refine if_neg fun isKnown => fresh name (List.contains_iff_mem.mp isKnown) ?_
    rw [Json.sameName_text, decide_eq_true rfl]
  · rfl

/-- A batch goes through its contracts as each of them goes by itself, as long as none has a name
that is known. -/
theorem generateBatch_tells {known : List String} {contracts : List Contract}
    (distinct : DistinctNames contracts)
    (fresh : ∀ earlier ∈ known, ∀ contract ∈ contracts,
      ¬(Json.text earlier).sameName contract.name) :
    ∃ ended gained, EndsAlone options contracts ended gained ∧
      TellsEach (generateBatch options known contracts) ended gained := by
  induction contracts generalizing known with
  | nil => exact ⟨fun _ => .ok [], [], .succeeds .nil, fun _ listener _ => rfl⟩
  | cons contract rest inductionHypothesis =>
    have isNew : requireNewName known contract.name = .ok () :=
      requireNewName_eq_ok (distinct.plain contract List.mem_cons_self)
        fun earlier isKnown => fresh earlier isKnown contract List.mem_cons_self
    rcases givesAlone_or_fails options contract with ⟨result, gives⟩ | ⟨faults, fails⟩
    · obtain ⟨differs, apart⟩ := List.pairwise_cons.mp distinct.apart
      have isOf : result.IsOf contract := generate_isOf (Prod.ext (gives false) rfl)
      have freshThen : ∀ earlier ∈ result.name :: known, ∀ other ∈ rest,
          ¬(Json.text earlier).sameName other.name := by
        refine List.forall_mem_cons.mpr ⟨fun other isIn => isOf.1 ▸ differs other isIn, ?_⟩
        exact fun earlier isKnown other isIn =>
          fresh earlier isKnown other (List.mem_cons_of_mem _ isIn)
      obtain ⟨ended, gained, ends, tells⟩ := inductionHypothesis
        ⟨fun other isIn => distinct.plain other (List.mem_cons_of_mem _ isIn), apart⟩ freshThen
      refine ⟨_, _, .cons gives ends, fun listened listener isThere => ?_⟩
      rw [generateBatch, isNew, generate_tells options listened contract listener isThere,
        gives listened]
      dsimp only
      rw [tells listened _ ((listener.isPresent_addAll _).trans isThere), Collector.addAll_append]
    · refine ⟨fun listened => .error (faults listened), noticesAlone options contract, ?_,
        fun listened listener isThere => ?_⟩
      · have ends := @EndsAlone.fails options [] rest [] contract faults .nil fails
        rwa [List.nil_append, List.nil_append, List.flatMap_singleton] at ends
      · rw [generateBatch, isNew, generate_tells options listened contract listener isThere,
          fails listened]

theorem generateAll_tells {contracts : List Contract} (distinct : DistinctNames contracts) :
    ∃ ended gained, EndsAlone options contracts ended gained ∧
      TellsEach (generateAll options contracts) ended gained :=
  generateBatch_tells distinct nofun

/-- Contracts that all succeed, taken in turn, give their results. -/
theorem EndsAlone.of_all {contracts : List Contract} {results : List Generated}
    {ended : Bool → Except Fault (List Generated)} {gained : List Notice}
    (ends : EndsAlone options contracts ended gained)
    (all : List.Forall₂ (GivesAlone options) contracts results) :
    ended = (fun _ => .ok results) ∧ gained = contracts.flatMap (noticesAlone options) := by
  cases ends with
  | succeeds allToo =>
    have unique : Relator.RightUnique (GivesAlone options) :=
      fun _ _ _ gives givesToo => Except.ok.inj ((gives true).symm.trans (givesToo true))
    rw [unique.forall₂ allToo all]
    exact ⟨rfl, rfl⟩
  | @fails before after _ contract _ _ areFaults =>
    have rest := List.forall₂_drop before.length all
    rw [List.drop_left] at rest
    obtain ⟨result, _, gives, _⟩ := List.forall₂_cons_left_iff.mp rest
    cases (gives true).symm.trans (areFaults true)

/-- Contracts with different names that all succeed can be taken in any order: each still gives its
own result, and the same is noticed about it. -/
theorem generateAll_perm {contracts others : List Contract} {results : List Generated}
    (distinct : DistinctNames contracts) (same : others.Perm contracts)
    (all : List.Forall₂ (GivesAlone options) contracts results) :
    ∃ otherResults, List.Forall₂ (GivesAlone options) others otherResults ∧
      otherResults.Perm results ∧
      Tells (generateAll options others) (.ok otherResults)
        (others.flatMap (noticesAlone options)) := by
  obtain ⟨otherResults, otherAll, sameResults⟩ := List.perm_comp_forall₂ same all
  obtain ⟨ended, gained, ends, tells⟩ := @generateAll_tells options others (distinct.perm same)
  obtain ⟨rfl, rfl⟩ := ends.of_all otherAll
  exact ⟨otherResults, otherAll, sameResults, .of_each tells⟩

/-- The contracts of a batch do not influence one another, and a listener influences them only where
a notice cannot be given. -/
structure Independent (options : Options) (contracts : List Contract) : Prop where
  /-- Whatever the listener knows already, a contract gives the same by itself, and the same is
  noticed about it. -/
  each : ∀ contract ∈ contracts,
    TellsEach (generate options contract) (generateAlone options · contract)
      (noticesAlone options contract)
  /-- Whether or not somebody listens, a contract gives the same result by itself, or it gives none;
  then it fails alike, unless there is a notice that cannot be given to the listener. -/
  silent : ∀ contract ∈ contracts,
    (∃ result, GivesAlone options contract result) ∨
      ∃ fault, generateAlone options false contract = .error fault ∧
        (generateAlone options true contract = .error fault ∨
          ∃ limit, contract.abi.MissesANotice limit ∧
            generateAlone options true contract = .error (.defect limit))
  /-- Whoever listens, the batch ends as its contracts end that are each taken by itself. -/
  batch : ∃ ended gained, EndsAlone options contracts ended gained ∧
    TellsEach (generateAll options contracts) ended gained
  /-- Whoever listens, the same contracts in another order give the same results in that order. -/
  permuted : ∀ others, others.Perm contracts → ∀ results,
    List.Forall₂ (GivesAlone options) contracts results →
    ∃ otherResults, List.Forall₂ (GivesAlone options) others otherResults ∧
      otherResults.Perm results ∧
      Tells (generateAll options others) (.ok otherResults) (others.flatMap (noticesAlone options))

/-- Contracts with different names do not influence one another, nor does anybody who listens, but
for a notice that cannot be given. -/
theorem batch_independent {options : Options} {contracts : List Contract}
    (distinct : DistinctNames contracts) : Independent options contracts where
  each contract _ listened := generate_tells options listened contract
  silent contract _ := generate_silent options contract
  batch := generateAll_tells distinct
  permuted _ same _ all := generateAll_perm distinct same all

end

/-- A contract without a constructor, which is noticed, and one whose ABI is no list. -/
def tokenAndVault : List Contract :=
  [emptyContract "Token", ⟨.text "Vault", .null, .text "0x"⟩]

/-- The failure of the second contract is its own, and so is the notice about the first one. -/
theorem tokenAndVault_independent :
    DistinctNames tokenAndVault ∧ Independent .standard tokenAndVault := by
  have distinct : DistinctNames tokenAndVault := ⟨by decide, by decide⟩
  exact ⟨distinct, batch_independent distinct⟩

/-- A contract whose name is a list. -/
def namedByList : Contract :=
  ⟨.array [.text "Token"], .array [], .text ""⟩

/-- A contract whose ABI holds an event with a name that cannot be shown, and then no entry. -/
def unshownEvent : Contract :=
  ⟨.text "Token", .array [longEvent, .integer 5], .text "0x"⟩

/-- A batch compares the names of its contracts, so one whose name is a list fails there in another
way than by itself. And a listener makes a difference if the name of an event cannot be shown. -/
theorem batch_dependences :
    ((generateAll .standard [namedByList] .absent).1 = .error (.defect .notComparable) ∧
      generateAlone .standard false namedByList = .error (.defect .notText)) ∧
    generateAlone .standard true unshownEvent = .error (.defect .longNumber) ∧
      generateAlone .standard false unshownEvent = .error (.shape (.entryNotObject 1)) := by
  have skipped : skippedKind? [("type", .text "event"), ("name", .longNumber)] = some "event" := by
    decide
  have named : requireContractName (.text "Token") = .ok "Token" := by
    have good : isIdentifier "Token" = true := by decide +kernel
    simp only [requireContractName, good]
    rfl
  have heard : (readAbi (.text "Token") unshownEvent.abi (.keeping [])).1 =
      .error (.defect .longNumber) := by
    refine readAbi_eq_defect_iff.mpr ⟨[], _, [.integer 5], rfl, ⟨[], rfl⟩, ?_⟩
    rw [entryLimit?_of_skipped skipped]
    exact noticeLimit?_longEvent
  have unheard : readAbi (.text "Token") unshownEvent.abi .absent =
      (.error (.shape (.entryNotObject 1)), .absent) := by
    rw [unshownEvent, longEvent, readAbi, readEntries_skipped skipped,
      entryLimit?_of_skipped skipped]
    rfl
  have ends : ∀ listened fault,
      (readAbi (.text "Token") unshownEvent.abi (newListener listened)).1 = .error fault →
      generateAlone .standard listened unshownEvent = .error fault := by
    intro listened fault fails
    have client : (generateClient .standard "Token" unshownEvent.abi
        (newListener listened)).1 = .error fault := by
      unfold generateClient
      generalize readAbi (.text "Token") unshownEvent.abi (newListener listened) = run at fails
      obtain ⟨read, told⟩ := run
      obtain rfl : read = .error fault := fails
      rfl
    unfold generateAlone generate
    rw [show unshownEvent.name = .text "Token" from rfl, named]
    dsimp only
    rw [client]
    rfl
  exact ⟨⟨rfl, rfl⟩, ends true _ heard, ends false _ (congrArg Prod.fst unheard)⟩

end ContractClient
