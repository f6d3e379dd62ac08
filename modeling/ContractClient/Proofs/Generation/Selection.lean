/-
This file says what a selection keeps. It should keep every contract whose name is requested, so
that a name that two of them bear is noticed by the generation, as it is without a selection. But
the contracts are looked up by their names, and of those that share a name only the last one is
found. The selection keeps what it should exactly if every requested name is borne by one contract
(`selectContracts_keepsWanted_iff`); of two contracts of a name it chooses one in silence
(`twoTokens_oneChosen`).
-/

import ContractClient.Proofs.Client.Imported
import ContractClient.Proofs.Generation.Batches
import Mathlib.Data.List.Induction

namespace ContractClient

/-! ### What is wanted -/

/-- Whether the contract is of the name. -/
def Contract.bears (contract : Contract) (name : String) : Bool :=
  contract.name.sameName (.text name)

/-- Whether the name of the contract is requested. -/
def Contract.isWanted (requested : List String) (contract : Contract) : Bool :=
  requested.any contract.bears

/-- The place of the first request for the name. -/
def firstRequest (requested : List String) (name : Json) : Nat :=
  requested.findIdx fun other => name.sameName (.text other)

/-- No contract is of the name. -/
def IsMissing (contracts : List Contract) (name : String) : Prop :=
  ∀ contract ∈ contracts, contract.name ≠ .text name

/-- A selection fails for its names exactly if one of them is missing. Otherwise it gives the
contracts whose names are requested, all of them and no others, by the first requests for them. -/
structure KeepsWanted (contracts : List Contract) (requested : List String)
    (result : Except Fault (List Contract)) : Prop where
  fails : (∃ cause, result = .error (.shape cause)) ↔ ∃ name ∈ requested, IsMissing contracts name
  keeps : (∀ name ∈ requested, ¬IsMissing contracts name) →
    ∃ kept, result = .ok kept ∧ kept.Perm (contracts.filter (·.isWanted requested)) ∧
      kept.Pairwise fun first second =>
        firstRequest requested first.name ≤ firstRequest requested second.name

theorem Contract.bears_iff {contract : Contract} {name : String} :
    contract.bears name = true ↔ contract.name = .text name :=
  Json.sameName_text_iff

theorem Contract.isWanted_iff {requested : List String} {contract : Contract} :
    contract.isWanted requested = true ↔ ∃ name ∈ requested, contract.name = .text name := by
  simp only [isWanted, List.any_eq_true, bears_iff]

theorem firstRequest_text (requested : List String) (name : String) :
    firstRequest requested (.text name) = requested.idxOf name := by
  have same : (fun other => (Json.text name).sameName (.text other)) = (· == name) := by
    funext other
    rw [Json.sameName_text, Bool.eq_iff_iff, decide_eq_true_iff, beq_iff_eq, eq_comm]
  rw [firstRequest, same, List.idxOf]

theorem not_isMissing_iff {contracts : List Contract} {name : String} :
    ¬IsMissing contracts name ↔ ∃ contract ∈ contracts, contract.name = .text name := by
  simp [IsMissing]

/-! ### Names without repeats -/

section

variable {names : List Json}

theorem distinctNames_concat (names : List Json) (name : Json) :
    Json.distinctNames (names ++ [name]) =
      if name.isAmong (Json.distinctNames names) then Json.distinctNames names
      else Json.distinctNames names ++ [name] :=
  List.foldl_concat _ _ _ _

theorem mem_of_mem_distinctNames {name : Json} (isIn : name ∈ Json.distinctNames names) :
    name ∈ names := by
  induction names using List.reverseRecOn with
  | nil => exact isIn
  | append_singleton names last inductionHypothesis =>
    rw [distinctNames_concat] at isIn
    split at isIn
    · exact List.mem_append_left _ (inductionHypothesis isIn)
    · rcases List.mem_append.mp isIn with isIn | isLast
      · exact List.mem_append_left _ (inductionHypothesis isIn)
      · exact List.mem_append_right _ isLast

/-- Every plain name counts as one with a name that is kept. -/
theorem isAmong_distinctNames {name : Json} (plain : name.isPlain) (isIn : name ∈ names) :
    name.isAmong (Json.distinctNames names) = true := by
  have grows : ∀ {kept : List Json} (last : Json), name.isAmong kept = true →
      name.isAmong (kept ++ [last]) = true := by
    intro kept last among
    rw [Json.isAmong, List.any_append, Bool.or_eq_true]
    exact .inl among
  induction names using List.reverseRecOn with
  | nil => cases isIn
  | append_singleton names last inductionHypothesis =>
    rw [distinctNames_concat]
    rcases List.mem_append.mp isIn with isIn | isLast
    · split
      · exact inductionHypothesis isIn
      · exact grows last (inductionHypothesis isIn)
    · obtain rfl := List.mem_singleton.mp isLast
      split
      · assumption
      · rw [Json.isAmong, List.any_append, Bool.or_eq_true]
        refine .inr (List.any_eq_true.mpr ⟨name, List.mem_singleton_self _, ?_⟩)
        rw [Json.sameName_eq, plain, beq_self_eq_true]
        rfl

/-- A text is among names exactly if it is one of them. -/
theorem isAmong_text_iff {name : String} {others : List Json} :
    (Json.text name).isAmong others = true ↔ Json.text name ∈ others := by
  rw [Json.isAmong, List.any_eq_true]
  constructor
  · rintro ⟨other, isIn, same⟩
    rw [Json.sameName_comm, Json.sameName_text_iff] at same
    exact same ▸ isIn
  · exact fun isIn => ⟨_, isIn, by rw [Json.sameName_text, decide_eq_true rfl]⟩

theorem text_mem_distinctNames_iff {name : String} :
    Json.text name ∈ Json.distinctNames names ↔ Json.text name ∈ names :=
  ⟨mem_of_mem_distinctNames, fun isIn => isAmong_text_iff.mp (isAmong_distinctNames rfl isIn)⟩

/-- If the names without repeats are texts, so are all plain names. -/
theorem distinctNames_texts_iff (plain : ∀ name ∈ names, name.isPlain) :
    (∀ name ∈ Json.distinctNames names, ∃ text, name = .text text) ↔
      ∀ name ∈ names, ∃ text, name = .text text := by
  constructor
  · intro texts name isIn
    obtain ⟨kept, isKept, same⟩ :=
      List.any_eq_true.mp (isAmong_distinctNames (plain name isIn) isIn)
    obtain ⟨text, rfl⟩ := texts kept isKept
    exact ⟨text, Json.sameName_text_iff.mp same⟩
  · exact fun texts name isIn => texts name (mem_of_mem_distinctNames isIn)

end

/-- Names are texts, or cannot be listed. -/
theorem requireTexts_outcome (names : List Json) :
    ((∀ name ∈ names, ∃ text, name = .text text) ∧ ∃ texts, requireTexts names = .ok texts) ∨
      (¬∀ name ∈ names, ∃ text, name = .text text) ∧
        requireTexts names = .error (.defect .notComparable) := by
  refine mapM_outcome fun name _ => ?_
  cases name with
  | text text => exact .inl ⟨⟨text, rfl⟩, text, rfl⟩
  | _ => exact .inr ⟨nofun, rfl⟩

/-- The requests in the order in which they come first, each once. -/
structure FirstRequests (requested distinct : List String) : Prop where
  texts : Json.distinctNames (requested.map .text) = distinct.map .text
  mem_iff : ∀ name, name ∈ distinct ↔ name ∈ requested
  ordered : distinct.Pairwise fun first second => requested.idxOf first < requested.idxOf second

theorem exists_firstRequests (requested : List String) :
    ∃ distinct, FirstRequests requested distinct := by
  induction requested using List.reverseRecOn with
  | nil => exact ⟨[], rfl, fun _ => Iff.rfl, .nil⟩
  | append_singleton requested last inductionHypothesis =>
    obtain ⟨distinct, texts, mem_iff, ordered⟩ := inductionHypothesis
    have later : distinct.Pairwise fun first second =>
        (requested ++ [last]).idxOf first < (requested ++ [last]).idxOf second := by
      refine ordered.imp_of_mem fun {first second} isFirst isSecond before => ?_
      rwa [List.idxOf_append_of_mem ((mem_iff _).mp isFirst),
        List.idxOf_append_of_mem ((mem_iff _).mp isSecond)]
    have among : (Json.text last).isAmong (distinct.map .text) = true ↔ last ∈ requested := by
      rw [isAmong_text_iff, List.mem_map_of_injective fun _ _ => Json.text.inj, mem_iff]
    have step : Json.distinctNames ((requested ++ [last]).map .text) =
        if (Json.text last).isAmong (distinct.map .text) then distinct.map .text
        else distinct.map .text ++ [.text last] := by
      rw [List.map_append, List.map_singleton, distinctNames_concat, texts]
    by_cases known : last ∈ requested
    · refine ⟨distinct, step.trans (if_pos (among.mpr known)), fun name => ?_, later⟩
      rw [mem_iff, List.mem_append, List.mem_singleton]
      exact (or_iff_left_of_imp fun same => same ▸ known).symm
    · refine ⟨distinct ++ [last], ?_, fun name => ?_, ?_⟩
      · rw [step, if_neg fun isAmong => known (among.mp isAmong), List.map_append,
          List.map_singleton]
      · rw [List.mem_append, List.mem_append, mem_iff]
      · refine List.pairwise_append.mpr ⟨later, List.pairwise_singleton _ _, ?_⟩
        intro first isFirst second isSecond
        obtain rfl := List.mem_singleton.mp isSecond
        have isRequested := (mem_iff first).mp isFirst
        rw [List.idxOf_append_of_mem isRequested, List.idxOf_append_of_notMem known]
        exact Nat.lt_add_right _ (List.idxOf_lt_length_of_mem isRequested)

theorem FirstRequests.nodup {requested distinct : List String}
    (first : FirstRequests requested distinct) : distinct.Nodup := by
  refine first.ordered.imp fun {name other} before same => ?_
  rw [same] at before
  exact Nat.lt_irrefl _ before

/-! ### What is kept -/

section

variable {contracts kept : List Contract} {requested distinct : List String}

/-- The contract that is found for a name bears it, and none behind it does. -/
theorem contractNamed?_eq_some_iff {name : String} {contract : Contract} :
    contractNamed? contracts (.text name) = some contract ↔
      ∃ before after, contracts = before ++ contract :: after ∧
        contract.name = .text name ∧ IsMissing after name := by
  have none : ∀ after : List Contract,
      after.filter (·.bears name) = [] ↔ IsMissing after name := by
    intro after
    simp only [List.filter_eq_nil_iff, Contract.bears_iff]
    rfl
  show (contracts.filter (·.bears name)).getLast? = some contract ↔ _
  rw [List.getLast?_eq_some_iff]
  constructor
  · rintro ⟨others, same⟩
    obtain ⟨front, back, rfl, -, isLast⟩ := List.filter_eq_append_iff.mp same
    obtain ⟨between, after, rfl, -, bears, isLast⟩ := List.filter_eq_cons_iff.mp isLast
    refine ⟨front ++ between, after, ?_, Contract.bears_iff.mp bears, (none after).mp isLast⟩
    rw [List.append_assoc]
  · rintro ⟨before, after, rfl, named, missing⟩
    have bears : contract.bears name = true := Contract.bears_iff.mpr named
    refine ⟨before.filter (·.bears name), ?_⟩
    rw [List.filter_append, List.filter_cons, if_pos bears, (none after).mpr missing]

/-- The contracts that are found for the names. -/
def contractsNamed (contracts : List Contract) (names : List String) : List Contract :=
  names.filterMap fun name => contractNamed? contracts (.text name)

/-- Where every name is borne by a contract, one is found for each of them. -/
theorem contractsNamed_names (found : ∀ name ∈ distinct, ¬IsMissing contracts name) :
    (contractsNamed contracts distinct).map (·.name) = distinct.map .text := by
  unfold contractsNamed
  induction distinct with
  | nil => rfl
  | cons name rest inductionHypothesis =>
    obtain ⟨isThere, others⟩ := List.forall_mem_cons.mp found
    obtain ⟨contract, isIn, named⟩ := not_isMissing_iff.mp isThere
    have filled : contracts.filter (·.bears name) ≠ [] :=
      List.ne_nil_of_mem (List.mem_filter.mpr ⟨isIn, Contract.bears_iff.mpr named⟩)
    have isFound : contractNamed? contracts (.text name) =
        some ((contracts.filter (·.bears name)).getLast filled) :=
      List.getLast?_eq_some_getLast filled
    obtain ⟨_, _, _, bears, _⟩ := contractNamed?_eq_some_iff.mp isFound
    rw [List.filterMap_cons, isFound, List.map_cons, List.map_cons, bears,
      inductionHypothesis others]

/-- What relates the names relates the contracts that are found for them. -/
theorem pairwise_of_names (relation : Json → Json → Prop)
    (names : kept.map (·.name) = distinct.map .text)
    (ordered : distinct.Pairwise fun first second => relation (.text first) (.text second)) :
    kept.Pairwise fun first second => relation first.name second.name :=
  List.pairwise_map.mp (names ▸ List.pairwise_map.mpr ordered)

/-- The contracts whose names are requested, gathered name by name. -/
theorem filter_isWanted_perm (apart : distinct.Nodup) :
    (contracts.filter (·.isWanted distinct)).Perm
      (distinct.flatMap fun name => contracts.filter (·.bears name)) := by
  induction distinct with
  | nil =>
    refine List.Perm.of_eq (List.filter_eq_nil_iff.mpr fun contract _ => ?_)
    exact Bool.false_ne_true
  | cons name rest inductionHypothesis =>
    obtain ⟨isNew, apart⟩ := List.nodup_cons.mp apart
    have first : (contracts.filter (·.isWanted (name :: rest))).filter (·.bears name) =
        contracts.filter (·.bears name) := by
      rw [List.filter_filter]
      refine List.filter_congr fun contract _ => ?_
      rw [Contract.isWanted, List.any_cons, Bool.and_or_distrib_left, Bool.and_self,
        Bool.or_eq_left_iff_imp, Bool.and_eq_true]
      exact And.left
    have others : (contracts.filter (·.isWanted (name :: rest))).filter (!·.bears name) =
        contracts.filter (·.isWanted rest) := by
      rw [List.filter_filter]
      refine List.filter_congr fun contract _ => ?_
      have differs : contract.isWanted rest = true → contract.bears name = false := by
        rw [Contract.isWanted_iff, Bool.eq_false_iff, ne_eq, Contract.bears_iff]
        rintro ⟨other, isOther, named⟩ same
        exact isNew (Json.text.inj (same.symm.trans named) ▸ isOther)
      show (!contract.bears name && (contract.bears name || contract.isWanted rest)) = _
      cases wanted : contract.isWanted rest with
      | true => rw [differs wanted]; rfl
      | false => cases contract.bears name <;> rfl
    have split := List.filter_append_perm (·.bears name)
      (contracts.filter (·.isWanted (name :: rest)))
    rw [first, others] at split
    rw [List.flatMap_cons]
    exact split.symm.trans ((inductionHypothesis apart).append_left _)

theorem contractsNamed_perm_iff (first : FirstRequests requested distinct)
    (found : ∀ name ∈ requested, ¬IsMissing contracts name) :
    (contractsNamed contracts distinct).Perm (contracts.filter (·.isWanted requested)) ↔
      ∀ name ∈ requested, contracts.countP (·.bears name) = 1 := by
  have sameWanted : (·.isWanted requested) = fun contract : Contract =>
      contract.isWanted distinct := by
    funext contract
    rw [Bool.eq_iff_iff, Contract.isWanted_iff, Contract.isWanted_iff]
    simp only [first.mem_iff]
  simp only [← first.mem_iff] at found ⊢
  rw [sameWanted]
  have names := contractsNamed_names found
  constructor
  · intro same name isIn
    have alone : (contractsNamed contracts distinct).countP (·.bears name) = 1 := by
      show (contractsNamed contracts distinct).countP
        ((·.sameName (.text name)) ∘ fun contract : Contract => contract.name) = 1
      rw [← List.countP_map, names, List.countP_map]
      have counts : (·.sameName (.text name)) ∘ Json.text = (· == name) := by
        funext other
        rw [Function.comp_apply, Json.sameName_text, Bool.eq_iff_iff, decide_eq_true_iff,
          beq_iff_eq]
      rw [counts]
      exact List.count_eq_one_of_mem first.nodup isIn
    rw [same.countP_eq, List.countP_filter] at alone
    refine alone ▸ List.countP_congr fun contract _ => ?_
    rw [Bool.and_eq_true, Contract.bears_iff, Contract.isWanted_iff]
    exact (and_iff_left_of_imp fun named => ⟨name, isIn, named⟩).symm
  · intro one
    refine List.Perm.trans (.of_eq ?_) (filter_isWanted_perm first.nodup).symm
    rw [contractsNamed, List.filterMap_eq_flatMap_toList]
    refine List.flatMap_congr fun name isIn => ?_
    obtain ⟨contract, alone⟩ := List.length_eq_one_iff.mp
      (List.countP_eq_length_filter.symm.trans (one name isIn))
    show (contracts.filter (·.bears name)).getLast?.toList = _
    rw [alone]
    rfl

/-! ### How selections end -/

/-- How a selection by texts ends: it needs names that can be compared, and where one is missing,
names that can be listed. -/
inductive SelectionEnds (contracts : List Contract) (requested distinct : List String) :
    Except Fault (List Contract) → Prop
  | incomparable :
      ¬(∀ contract ∈ contracts, contract.name.isPlain) →
      SelectionEnds contracts requested distinct (.error (.defect .notComparable))
  | found :
      (∀ contract ∈ contracts, contract.name.isPlain) →
      (∀ name ∈ requested, ¬IsMissing contracts name) →
      SelectionEnds contracts requested distinct (.ok (contractsNamed contracts distinct))
  | missing {name : String} {cause : ShapeFault} :
      (∀ contract ∈ contracts, ∃ text, contract.name = .text text) →
      name ∈ requested → IsMissing contracts name →
      SelectionEnds contracts requested distinct (.error (.shape cause))
  | unlisted {name : String} :
      ¬(∀ contract ∈ contracts, ∃ text, contract.name = .text text) →
      name ∈ requested → IsMissing contracts name →
      SelectionEnds contracts requested distinct (.error (.defect .notComparable))

theorem isAmong_contractNames_iff {name : String} :
    (Json.text name).isAmong (contractNames contracts) = true ↔ ¬IsMissing contracts name := by
  rw [isAmong_text_iff, contractNames, text_mem_distinctNames_iff, List.mem_map, not_isMissing_iff]

theorem contractNames_texts_iff (plain : ∀ contract ∈ contracts, contract.name.isPlain) :
    (∀ name ∈ contractNames contracts, ∃ text, name = .text text) ↔
      ∀ contract ∈ contracts, ∃ text, contract.name = .text text := by
  rw [contractNames, distinctNames_texts_iff (List.forall_mem_map.mpr plain), List.forall_mem_map]

theorem selectContracts_ends (some : requested ≠ []) (first : FirstRequests requested distinct) :
    SelectionEnds contracts requested distinct
      (selectContracts contracts (requested.map .text)) := by
  have areTexts : (requested.map Json.text).all Json.isPlain = true := by
    rw [List.all_map]
    exact List.all_eq_true.mpr fun _ _ => rfl
  have differs : (!(contracts.all (·.name.isPlain) && (requested.map Json.text).all Json.isPlain)) =
      true ↔ ¬∀ contract ∈ contracts, contract.name.isPlain := by
    rw [areTexts, Bool.and_true, Bool.not_eq_true', Bool.eq_false_iff, ne_eq, List.all_eq_true]
  have noneMissing : ((requested.map Json.text).filter
      (!·.isAmong (contractNames contracts))).isEmpty = true ↔
        ∀ name ∈ requested, ¬IsMissing contracts name := by
    rw [List.isEmpty_iff, List.filter_eq_nil_iff, List.forall_mem_map]
    simp only [Bool.not_eq_true, Bool.not_eq_false', isAmong_contractNames_iff]
  unfold selectContracts
  rw [if_neg (by simpa using some)]
  by_cases plain : ∀ contract ∈ contracts, contract.name.isPlain
  case neg =>
    rw [if_pos (differs.mpr plain)]
    exact .incomparable plain
  rw [if_neg fun isDifferent => differs.mp isDifferent plain]
  by_cases found : ∀ name ∈ requested, ¬IsMissing contracts name
  case pos =>
    show SelectionEnds contracts requested distinct (ite _ _ _)
    rw [if_pos (noneMissing.mpr found), first.texts, List.filterMap_map]
    exact .found plain found
  show SelectionEnds contracts requested distinct (ite _ _ _)
  rw [if_neg fun isEmpty => found (noneMissing.mp isEmpty)]
  simp only [not_forall, not_not] at found
  obtain ⟨name, isRequested, missing⟩ := found
  rcases requireTexts_outcome (contractNames contracts) with ⟨texts, known, isKnown⟩ |
    ⟨noTexts, fails⟩
  · have lists : ∃ texts, requireTexts ((requested.map Json.text).filter
        (!·.isAmong (contractNames contracts))) = .ok texts := by
      rcases requireTexts_outcome ((requested.map Json.text).filter
        (!·.isAmong (contractNames contracts))) with ⟨_, lists⟩ | ⟨noTexts, _⟩
      · exact lists
      · refine (noTexts fun name isIn => ?_).elim
        obtain ⟨text, _, rfl⟩ := List.mem_map.mp (List.mem_of_mem_filter isIn)
        exact ⟨text, rfl⟩
    obtain ⟨names, areNames⟩ := lists
    rw [isKnown, areNames]
    exact .missing ((contractNames_texts_iff plain).mp texts) isRequested missing
  · rw [fails]
    exact .unlisted (fun texts => noTexts ((contractNames_texts_iff plain).mpr texts)) isRequested
      missing

/-! ### Ambiguous names -/

/-- A defect is no way for a selection to end. -/
theorem KeepsWanted.not_defect {cause : Defect} :
    ¬KeepsWanted contracts requested (.error (.defect cause)) := by
  intro keepsWanted
  by_cases found : ∀ name ∈ requested, ¬IsMissing contracts name
  · obtain ⟨kept, selects, _⟩ := keepsWanted.keeps found
    cases selects
  · simp only [not_forall, not_not, exists_prop] at found
    obtain ⟨cause, selects⟩ := keepsWanted.fails.mpr found
    cases selects

theorem contractsNamed_keepsWanted_iff (first : FirstRequests requested distinct)
    (found : ∀ name ∈ requested, ¬IsMissing contracts name) :
    KeepsWanted contracts requested (.ok (contractsNamed contracts distinct)) ↔
      ∀ name ∈ requested, contracts.countP (·.bears name) = 1 := by
  have foundOnce : ∀ name ∈ distinct, ¬IsMissing contracts name :=
    fun name isIn => found name ((first.mem_iff name).mp isIn)
  rw [← contractsNamed_perm_iff first found]
  constructor
  · intro keepsWanted
    obtain ⟨kept, selects, same, _⟩ := keepsWanted.keeps found
    exact Except.ok.inj selects ▸ same
  · intro same
    refine ⟨iff_of_false nofun ?_, fun _ => ⟨_, rfl, same, ?_⟩⟩
    · rintro ⟨name, isRequested, missing⟩
      exact found name isRequested missing
    · refine pairwise_of_names
        (fun name other => firstRequest requested name ≤ firstRequest requested other)
        (contractsNamed_names foundOnce) (first.ordered.imp fun before => ?_)
      rw [firstRequest_text, firstRequest_text]
      exact Nat.le_of_lt before

/-- Contracts that are found for different names have different names. -/
theorem contractsNamed_distinct (first : FirstRequests requested distinct)
    (found : ∀ name ∈ requested, ¬IsMissing contracts name) :
    DistinctNames (contractsNamed contracts distinct) := by
  have names : (contractsNamed contracts distinct).map (·.name) = distinct.map .text :=
    contractsNamed_names fun name isIn => found name ((first.mem_iff name).mp isIn)
  constructor
  · intro contract isIn
    obtain ⟨name, _, named⟩ := List.mem_map.mp (names ▸ List.mem_map_of_mem isIn)
    rw [← named]
    rfl
  · refine pairwise_of_names (fun name other => ¬name.sameName other) names
      (first.nodup.imp fun differs same => differs ?_)
    rwa [Json.sameName_text, decide_eq_true_iff] at same

/-- A selection by names keeps what it should exactly if the names of the contracts can be compared,
all are texts where a requested one is missing, and each requested one is borne by one contract
where none is missing.

However that may be, each contract that is selected is the last one of its name, and a batch of
them ends as each of them does by itself: that a name was ambiguous is not noticed any more. -/
theorem selectContracts_keepsWanted_iff (contracts : List Contract) {requested : List String}
    (some : requested ≠ []) :
    (KeepsWanted contracts requested (selectContracts contracts (requested.map .text)) ↔
      (∀ contract ∈ contracts, contract.name.isPlain) ∧
        ((∃ name ∈ requested, IsMissing contracts name) →
          ∀ contract ∈ contracts, ∃ text, contract.name = .text text) ∧
        ((∀ name ∈ requested, ¬IsMissing contracts name) →
          ∀ name ∈ requested, contracts.countP (·.bears name) = 1)) ∧
      ∀ kept, selectContracts contracts (requested.map .text) = .ok kept →
        (∀ contract ∈ kept, ∃ name ∈ requested, ∃ before after,
          contracts = before ++ contract :: after ∧ contract.name = .text name ∧
            IsMissing after name) ∧
          ∀ options, ∃ ended gained, EndsAlone options kept ended gained ∧
            TellsEach (generateAll options kept) ended gained := by
  obtain ⟨distinct, first⟩ := exists_firstRequests requested
  have ends : SelectionEnds contracts requested distinct _ := selectContracts_ends some first
  generalize selectContracts contracts (requested.map .text) = result at ends
  constructor
  · constructor
    · intro keepsWanted
      cases ends with
      | incomparable => exact keepsWanted.not_defect.elim
      | unlisted => exact keepsWanted.not_defect.elim
      | found plain found =>
        refine ⟨plain, ?_, fun _ => (contractsNamed_keepsWanted_iff first found).mp keepsWanted⟩
        rintro ⟨name, isRequested, missing⟩
        exact (found name isRequested missing).elim
      | missing texts isRequested missing =>
        refine ⟨fun contract isIn => ?_, fun _ => texts,
          fun found => (found _ isRequested missing).elim⟩
        obtain ⟨text, named⟩ := texts contract isIn
        rw [named]
        rfl
    · rintro ⟨plain, texts, one⟩
      cases ends with
      | incomparable differs => exact (differs plain).elim
      | unlisted noTexts isRequested missing =>
        exact (noTexts (texts ⟨_, isRequested, missing⟩)).elim
      | found _ found => exact (contractsNamed_keepsWanted_iff first found).mpr (one found)
      | missing _ isRequested missing =>
        exact ⟨iff_of_true ⟨_, rfl⟩ ⟨_, isRequested, missing⟩,
          fun found => (found _ isRequested missing).elim⟩
  · rintro kept rfl
    cases ends with
    | found plain found =>
      refine ⟨fun contract isKept => ?_, fun options => ?_⟩
      · obtain ⟨name, isIn, isFound⟩ := List.mem_filterMap.mp isKept
        exact ⟨name, (first.mem_iff name).mp isIn, contractNamed?_eq_some_iff.mp isFound⟩
      · exact generateAll_tells (contractsNamed_distinct first found)

end

/-- A contract without functions that has the bytecode. -/
def tokenOf (bytecode : String) : Contract :=
  ⟨.text "Token", .array [], .text bytecode⟩

/-- Each requested name is borne by one contract, though another name is borne by two. -/
theorem vault_keepsWanted :
    KeepsWanted [tokenOf "0x01", emptyContract "Vault", tokenOf "0x02"] ["Vault", "Vault"]
      (selectContracts [tokenOf "0x01", emptyContract "Vault", tokenOf "0x02"]
        [.text "Vault", .text "Vault"]) := by
  refine (selectContracts_keepsWanted_iff _ (List.cons_ne_nil "Vault" ["Vault"])).1.mpr
    ⟨by decide, fun _ => ?_, fun _ => by decide⟩
  simp [tokenOf, emptyContract]

/-- Of two contracts of a name, one is selected in silence. Without a selection, their name ends the
generation. -/
theorem twoTokens_oneChosen :
    ¬KeepsWanted [tokenOf "0x01", tokenOf "0x02"] ["Token"]
        (selectContracts [tokenOf "0x01", tokenOf "0x02"] [.text "Token"]) ∧
      selectContracts [tokenOf "0x01", tokenOf "0x02"] [.text "Token"] = .ok [tokenOf "0x02"] ∧
      (generateAll .standard [tokenOf "0x01", tokenOf "0x02"] .absent).1 =
        .error (.shape (.repeatedContract "Token")) ∧
      (generateAll .standard [tokenOf "0x02"] .absent).1.isOk := by
  have selects : selectContracts [tokenOf "0x01", tokenOf "0x02"] [.text "Token"] =
      .ok [tokenOf "0x02"] := by
    rfl
  refine ⟨fun keepsWanted => ?_, selects, ?_, by decide +kernel⟩
  · obtain ⟨kept, isKept, same, _⟩ := keepsWanted.keeps <| List.forall_mem_singleton.mpr <|
      not_isMissing_iff.mpr ⟨tokenOf "0x01", by simp, rfl⟩
    rw [selects] at isKept
    cases isKept
    exact absurd same.length_eq (by decide)
  · with_unfolding_all rfl

end ContractClient
