/-
This file says what the settings are that a file gives. Each setting has the value of the last key
that is called like it, once both are written alike, unless that value is null; and every other name
is told once, if there is a value under it that is not null.

There is one name for which this does not hold. It cannot be overridden in any spelling, and a file
that has it under a key gives no settings at all (`ofFileText_areGivenBy_iff`).
-/

import ContractClient.Options
import ContractClient.Proofs.Json.FileLimits
import ContractClient.Proofs.Steps
import Mathlib.Data.List.Nodup

namespace ContractClient

namespace Json

/-! ### Members under one name -/

/-- The value of the last member with the given key. -/
def lastValue? (members : List (String × Json)) (key : String) : Option Json :=
  (members.reverse.find? (·.1 == key)).map (·.2)

theorem lookup_cons_if (first : String) (value : Json) (rest : List (String × Json))
    (name : String) :
    ((first, value) :: rest).lookup name =
      if name = first then some value else rest.lookup name := by
  rw [List.lookup_cons]
  by_cases same : name = first
  · simp [same]
  · simp only [beq_eq_false_iff_ne.mpr same, if_neg same]

theorem lookup_setMember (members : List (String × Json)) (key : String) (value : Json)
    (name : String) :
    (setMember members key value).lookup name =
      if name = key then some value else members.lookup name := by
  induction members with
  | nil => exact lookup_cons_if key value [] name
  | cons entry rest inductionHypothesis =>
    obtain ⟨first, old⟩ := entry
    rw [setMember, lookup_cons_if]
    split
    · rename_i isFirst
      rw [lookup_cons_if, isFirst]
      split <;> rfl
    · rename_i differs
      rw [lookup_cons_if, inductionHypothesis]
      by_cases same : name = first
      · rw [if_pos same, if_pos same, if_neg (same ▸ differs)]
      · rw [if_neg same, if_neg same]

theorem mem_keys_setMember_iff {members : List (String × Json)} {key name : String} {value : Json} :
    name ∈ (setMember members key value).map (·.1) ↔ name = key ∨ name ∈ members.map (·.1) := by
  induction members with
  | nil => simp [setMember]
  | cons entry rest inductionHypothesis =>
    obtain ⟨first, old⟩ := entry
    rw [setMember]
    split
    · rename_i isFirst
      simp [isFirst]
    · rw [List.map_cons, List.mem_cons, inductionHypothesis, List.map_cons, List.mem_cons]
      exact or_left_comm

theorem setMember_keys_nodup {members : List (String × Json)}
    (distinct : (members.map (·.1)).Nodup) (key : String) (value : Json) :
    ((setMember members key value).map (·.1)).Nodup := by
  induction members with
  | nil => exact List.nodup_singleton _
  | cons entry rest inductionHypothesis =>
    obtain ⟨first, old⟩ := entry
    obtain ⟨isNew, distinct⟩ := List.nodup_cons.mp distinct
    rw [setMember]
    split
    · rename_i isFirst
      exact List.nodup_cons.mpr ⟨isFirst ▸ isNew, distinct⟩
    · rename_i differs
      refine List.nodup_cons.mpr ⟨fun isKey => ?_, inductionHypothesis distinct⟩
      exact (mem_keys_setMember_iff.mp isKey).elim differs isNew

/-- No key is left twice. -/
theorem uniqueMembers_keys_nodup (members : List (String × Json)) :
    ((uniqueMembers members).map (·.1)).Nodup := by
  have fold : ∀ kept : List (String × Json), (kept.map (·.1)).Nodup →
      ((members.foldl (fun kept entry => setMember kept entry.1 entry.2) kept).map
        (·.1)).Nodup := by
    induction members with
    | nil => exact fun _ distinct => distinct
    | cons entry rest inductionHypothesis =>
      exact fun kept distinct => inductionHypothesis _ (setMember_keys_nodup distinct _ _)
  exact fold [] List.nodup_nil

theorem mem_keys_uniqueMembers_iff {members : List (String × Json)} {key : String} :
    key ∈ (uniqueMembers members).map (·.1) ↔ key ∈ members.map (·.1) := by
  have fold : ∀ kept : List (String × Json),
      key ∈ (members.foldl (fun kept entry => setMember kept entry.1 entry.2) kept).map (·.1) ↔
        key ∈ members.map (·.1) ∨ key ∈ kept.map (·.1) := by
    induction members with
    | nil => simp
    | cons entry rest inductionHypothesis =>
      intro kept
      rw [List.foldl_cons, inductionHypothesis, mem_keys_setMember_iff, List.map_cons,
        List.mem_cons]
      exact or_left_comm.trans or_assoc.symm
  rw [uniqueMembers, fold, List.map_nil, or_iff_left List.not_mem_nil]

/-- What is left under a key is the value of the last member with that key. -/
theorem lookup_uniqueMembers (members : List (String × Json)) (key : String) :
    (uniqueMembers members).lookup key = lastValue? members key := by
  have fold : ∀ kept : List (String × Json),
      (members.foldl (fun kept entry => setMember kept entry.1 entry.2) kept).lookup key =
        (lastValue? members key).or (kept.lookup key) := by
    induction members with
    | nil => exact fun _ => rfl
    | cons entry rest inductionHypothesis =>
      intro kept
      rw [List.foldl_cons, inductionHypothesis, lookup_setMember, lastValue?, lastValue?,
        List.reverse_cons, List.find?_append]
      by_cases same : key = entry.1
      · cases rest.reverse.find? (·.1 == key) <;> simp [same]
      · cases rest.reverse.find? (·.1 == key) <;> simp [same, Ne.symm same]
  rw [uniqueMembers, fold, List.lookup_nil, Option.or_none]

theorem lookup_eq_some_iff_mem {members : List (String × Json)}
    (distinct : (members.map (·.1)).Nodup) {key : String} {value : Json} :
    members.lookup key = some value ↔ (key, value) ∈ members := by
  induction members with
  | nil => simp
  | cons entry rest inductionHypothesis =>
    obtain ⟨first, firstValue⟩ := entry
    obtain ⟨isNew, distinct⟩ := List.nodup_cons.mp distinct
    rw [lookup_cons_if, List.mem_cons, Prod.mk.injEq]
    split
    · rename_i same
      subst same
      have notLater : (key, value) ∉ rest := fun isLater =>
        isNew (List.mem_map.mpr ⟨_, isLater, rfl⟩)
      simp [notLater, eq_comm]
    · rename_i differs
      simp [differs, inductionHypothesis distinct]

/-- What a value gives to a setting: itself, unless it is null. -/
def given? : Json → Option Json
  | null => none
  | value => some value

/-- The value that members give under a key: that of the last one, unless it is null. -/
def givenValue? (members : List (String × Json)) (key : String) : Option Json :=
  (lastValue? members key).bind given?

end Json

/-! ### Settings -/

theorem Setting.ofKey?_key (setting : Setting) : ofKey? setting.key = some setting := by
  cases setting <;> decide +kernel

theorem Setting.ofKey?_eq_some_iff {name : String} {setting : Setting} :
    ofKey? name = some setting ↔ setting.key = name := by
  constructor
  · intro found
    unfold ofKey? at found
    have isNamed := List.find?_some found
    exact eq_of_beq isNamed
  · rintro rfl
    exact ofKey?_key setting

theorem Setting.ofKey?_eq_none_iff {name : String} :
    ofKey? name = none ↔ ∀ setting : Setting, setting.key ≠ name := by
  rw [Option.eq_none_iff_forall_ne_some]
  exact forall_congr' fun _ => not_congr ofKey?_eq_some_iff

namespace Options

/-! ### Overriding -/

/-- A value overrides the setting of its name and no other one. -/
theorem override_value (options : Options) (name : String) (value : Json) (setting : Setting) :
    (options.override name value).1.value setting =
      if setting.key = name then value.given?.getD (options.value setting)
      else options.value setting := by
  cases isSetting : Setting.ofKey? name with
  | none =>
    have differs : setting.key ≠ name := Setting.ofKey?_eq_none_iff.mp isSetting setting
    rw [if_neg differs]
    cases value <;> simp [override, isSetting]
  | some other =>
    obtain rfl := Setting.ofKey?_eq_some_iff.mp isSetting
    have same : setting.key = other.key ↔ setting = other :=
      ⟨fun keys => Option.some.inj ((Setting.ofKey?_key setting).symm.trans (keys ▸ isSetting)),
        fun equal => equal ▸ rfl⟩
    simp only [same]
    cases value <;> simp [override, isSetting, Json.given?, set]

/-- A name is told if it belongs to no setting and is given a value. -/
def isTold (entry : String × Json) : Bool :=
  (Setting.ofKey? entry.1).isNone && entry.2.given?.isSome

theorem override_printed (options : Options) (name : String) (value : Json) :
    (options.override name value).2 =
      if isTold (name, value) then unknownWarning name else "" := by
  unfold isTold
  cases isSetting : Setting.ofKey? name <;> cases value <;> simp [override, isSetting, Json.given?]

/-- Where no name occurs twice, each setting gets the value that is given under its name. -/
theorem overrideAll_value {overrides : List (String × Json)}
    (distinct : (overrides.map (·.1)).Nodup) (options : Options) (setting : Setting) :
    (options.overrideAll overrides).1.value setting =
      ((overrides.lookup setting.key).bind Json.given?).getD (options.value setting) := by
  induction overrides generalizing options with
  | nil => rfl
  | cons entry rest inductionHypothesis =>
    obtain ⟨name, value⟩ := entry
    obtain ⟨isNew, distinct⟩ := List.nodup_cons.mp distinct
    show ((options.override name value).1.overrideAll rest).1.value setting = _
    rw [inductionHypothesis distinct, override_value, Json.lookup_cons_if]
    by_cases same : setting.key = name
    · have missing : rest.lookup setting.key = none :=
        List.lookup_eq_none_iff.mpr fun other isOther => bne_iff_ne.mpr fun equal =>
          isNew (List.mem_map.mpr ⟨other, isOther, equal.symm.trans same⟩)
      simp [same, same ▸ missing]
    · simp [same]

theorem overrideAll_printed (overrides : List (String × Json)) (options : Options) :
    (options.overrideAll overrides).2 =
      String.join (((overrides.filter isTold).map (·.1)).map unknownWarning) := by
  induction overrides generalizing options with
  | nil => rfl
  | cons entry rest inductionHypothesis =>
    show (options.override entry.1 entry.2).2 ++ ((options.override _ _).1.overrideAll rest).2 = _
    rw [override_printed, inductionHypothesis, List.filter_cons]
    split <;> simp [String.join_cons]

/-! ### What a file gives -/

/-- The members of a file, their keys written like the names of settings. -/
def namedMembers (members : List (String × Json)) : List (String × Json) :=
  members.map fun entry => (snakeCase entry.1, entry.2)

/-- The settings are those that the members of a file give, and what is printed tells the other
names that they give a value to, each of them once. -/
structure AreGivenBy (options : Options) (printed : String) (members : List (String × Json)) :
    Prop where
  values : ∀ setting : Setting, options.value setting =
    (Json.givenValue? (namedMembers members) setting.key).getD setting.standard
  told : ∃ names : List String, names.Nodup ∧
    (∀ name, name ∈ names ↔
      (∀ setting : Setting, setting.key ≠ name) ∧
        (Json.givenValue? (namedMembers members) name).isSome) ∧
    printed = String.join (names.map unknownWarning)

theorem overrideAll_areGivenBy (members : List (String × Json)) :
    (standard.overrideAll (fileOverrides members)).1.AreGivenBy
      (standard.overrideAll (fileOverrides members)).2 members := by
  have distinct : ((fileOverrides members).map (·.1)).Nodup :=
    Json.uniqueMembers_keys_nodup (namedMembers members)
  have lookup : ∀ name, (fileOverrides members).lookup name =
      Json.lastValue? (namedMembers members) name :=
    Json.lookup_uniqueMembers (namedMembers members)
  constructor
  case values =>
    intro setting
    rw [overrideAll_value distinct, lookup]
    rfl
  case told =>
    refine ⟨((fileOverrides members).filter isTold).map (·.1), ?_, fun name => ?_,
      overrideAll_printed _ _⟩
    · exact distinct.sublist (List.filter_sublist.map _)
    · rw [← Setting.ofKey?_eq_none_iff, Json.givenValue?, ← lookup]
      simp only [List.mem_map, List.mem_filter, isTold, Bool.and_eq_true, Option.isNone_iff_eq_none]
      constructor
      · rintro ⟨⟨_, value⟩, ⟨isOverride, noSetting, isGiven⟩, rfl⟩
        rw [(Json.lookup_eq_some_iff_mem distinct).mpr isOverride]
        exact ⟨noSetting, isGiven⟩
      · rintro ⟨noSetting, isGiven⟩
        cases found : (fileOverrides members).lookup name with
        | none =>
          rw [found] at isGiven
          cases isGiven
        | some value =>
          rw [found] at isGiven
          exact ⟨(name, value), ⟨(Json.lookup_eq_some_iff_mem distinct).mp found, noSetting,
            isGiven⟩, rfl⟩

/-- An override bears the reserved name exactly if a key does, once it is written like the name of
a setting. -/
theorem any_reservedName_iff {members : List (String × Json)} :
    (fileOverrides members).any (·.1 == reservedName) = true ↔
      ∃ entry ∈ members, snakeCase entry.1 = reservedName := by
  have isKey : reservedName ∈ (fileOverrides members).map (·.1) ↔
      reservedName ∈ (namedMembers members).map (·.1) :=
    Json.mem_keys_uniqueMembers_iff
  simpa [namedMembers] using isKey

/-- For all paths and texts: a file that holds an object gives the settings that its members say,
and tells the names that are unknown, exactly if it keeps within the limits of files and none of its
keys is the reserved name. -/
theorem ofFileText_areGivenBy_iff (path : String) {text : String} {members : List (String × Json)}
    (isObject : Json.read? text = some (.object members)) :
    (∃ options printed, ofFileText path text = .ok (options, printed) ∧
      options.AreGivenBy printed members) ↔
      Json.KeepsFileLimits text ∧ ∀ entry ∈ members, snakeCase entry.1 ≠ reservedName := by
  constructor
  · rintro ⟨options, printed, reads, _⟩
    obtain ⟨found, readsText, reads⟩ := exists_of_bind_eq_ok reads
    obtain ⟨keeps, rfl⟩ := (Json.ofFileText_eq_ok_iff isObject).mp readsText
    refine ⟨keeps, fun entry isEntry same => ?_⟩
    have reserved := any_reservedName_iff.mpr ⟨entry, isEntry, same⟩
    have merges : merge standard (fileOverrides members) = .ok (options, printed) := reads
    rw [merge, if_pos reserved] at merges
    cases merges
  · rintro ⟨keeps, notReserved⟩
    have none : (fileOverrides members).any (·.1 == reservedName) ≠ true := fun isReserved =>
      have ⟨entry, isEntry, same⟩ := any_reservedName_iff.mp isReserved
      notReserved entry isEntry same
    refine ⟨_, _, ?_, overrideAll_areGivenBy members⟩
    rw [ofFileText, (Json.ofFileText_eq_ok_iff isObject).mpr ⟨keeps, rfl⟩]
    show merge standard (fileOverrides members) = _
    rw [merge, if_neg none]

/-- The keys of the object that a text writes. -/
def keysOf? (text : String) : Option (List String) :=
  match Json.read? text with
  | some (.object members) => some (members.map (·.1))
  | _ => none

theorem exists_of_keysOf? {text : String} {keys : List String}
    (hasKeys : keysOf? text = some keys) :
    ∃ members, Json.read? text = some (.object members) ∧ members.map (·.1) = keys := by
  unfold keysOf? at hasKeys
  split at hasKeys
  · rename_i members isObject
    exact ⟨members, isObject, Option.some.inj hasKeys⟩
  · cases hasKeys

/-- The text of a file with two spellings of one name, a null and an unknown name. -/
def mixedKeys : String :=
  "\x7b\"solcVersion\": \"0.8.1\", \"header\": null, \"solc_version\": \"0.8.2\", " ++
    "\"gasLimit\": 1, \"gas_limit\": 2\x7d"

/-- Of two spellings of one name the later one counts, and an unknown name is told once. -/
theorem mixedKeys_areGiven :
    ∃ members options printed, Json.read? mixedKeys = some (.object members) ∧
      ofFileText "abi2ts.json" mixedKeys = .ok (options, printed) ∧
      options.AreGivenBy printed members ∧
      members.map (snakeCase ·.1) = ["solc_version", "header", "solc_version", "gas_limit",
        "gas_limit"] := by
  have keys : keysOf? mixedKeys = some ["solcVersion", "header", "solc_version", "gasLimit",
      "gas_limit"] := by
    decide +kernel
  have reads : ∃ found, Json.ofFileText mixedKeys = .ok found := by
    have ends : (Json.ofFileText mixedKeys).toOption.isSome = true := by decide +kernel
    cases read : Json.ofFileText mixedKeys with
    | error fault =>
      rw [read] at ends
      cases ends
    | ok found => exact ⟨found, rfl⟩
  obtain ⟨members, isObject, hasKeys⟩ := exists_of_keysOf? keys
  have names : members.map (snakeCase ·.1) = ["solc_version", "header", "solc_version",
      "gas_limit", "gas_limit"] := by
    have each := congrArg (List.map snakeCase) hasKeys
    rw [List.map_map] at each
    exact each.trans (by decide +kernel)
  have notReserved : ∀ entry ∈ members, snakeCase entry.1 ≠ reservedName := by
    have apart : ∀ name ∈ members.map (snakeCase ·.1), name ≠ reservedName := by
      rw [names]
      decide +kernel
    exact fun entry isEntry => apart _ (List.mem_map.mpr ⟨entry, isEntry, rfl⟩)
  obtain ⟨found, reads⟩ := reads
  obtain ⟨options, printed, gives, areGiven⟩ :=
    (ofFileText_areGivenBy_iff "abi2ts.json" isObject).mpr
      ⟨((Json.ofFileText_eq_ok_iff isObject).mp reads).1, notReserved⟩
  exact ⟨members, options, printed, isObject, gives, areGiven, names⟩

/-- A file that names the reserved name gives no settings. -/
theorem selfKey_notGiven :
    ¬ ∀ (path text : String) (members : List (String × Json)),
      Json.read? text = some (.object members) →
        ∃ options printed, ofFileText path text = .ok (options, printed) ∧
          options.AreGivenBy printed members := by
  intro gives
  have keys : keysOf? "\x7b\"self\": 1\x7d" = some ["self"] := by decide +kernel
  obtain ⟨members, isObject, hasKeys⟩ := exists_of_keysOf? keys
  have fails : (ofFileText "abi2ts.json" "\x7b\"self\": 1\x7d").toOption.isNone = true := by
    decide +kernel
  obtain ⟨options, printed, reads, _⟩ := gives "abi2ts.json" _ members isObject
  rw [reads] at fails
  cases fails

end Options

end ContractClient
