/-
This file compares the two ways in which outputs are gone through. Those of a query are mapped,
which registers an interface for each tuple; those of a transaction are only checked, which
registers nothing. Both walk through the parameters in the same order, but only mapping names the
tuples, and only mapping runs out of levels.

Where every tuple has a name and its components have names that differ, nothing is left to tell the
two apart but their limits: they end alike exactly if the tuples are not nested deeper than the
registry has levels and no number is too long (`checkParameters_endsAlike_iff`). So outputs can be
checked that cannot be mapped (`nestedOutput_endsApart`).
-/

import ContractClient.Proofs.Client.Limits

namespace ContractClient

/-! ### Tuples with names -/

/-- An interface can be named after the declared type or the name of a tuple. -/
def HasStructName (internalType name : String) : Prop :=
  ∃ declared interface, declaredName internalType name = .ok declared ∧
    structName declared = .ok interface

mutual

/-- Every tuple in the parameter can be named, and its components have names that differ. -/
def Parameter.WellNamed : Parameter → Prop
  | ⟨name, text, internalType, components⟩ =>
    ∀ tag, requireTag text = .ok tag → tag.base = .tuple →
      HasStructName internalType name ∧ ComponentsWellNamed components
termination_by structural parameter => parameter

/-- The components, if there are any, have names that differ, and so on for every tuple in them. -/
def ComponentsWellNamed : Option (List Parameter) → Prop
  | none => True
  | some components =>
    (∀ component ∈ components, component.name ≠ "") ∧ (components.map (·.name)).Nodup ∧
      AllWellNamed components
termination_by structural components => components

/-- Every tuple in the parameters can be named, and its components have names that differ. -/
def AllWellNamed : List Parameter → Prop
  | [] => True
  | parameter :: rest => parameter.WellNamed ∧ AllWellNamed rest
termination_by structural parameters => parameters

end

/-- A parameter that is no tuple needs no name. -/
theorem Parameter.wellNamed_of_noTuple {name text internalType : String}
    {components : Option (List Parameter)}
    (noTuple : ∀ tag, requireTag text = .ok tag → tag.base ≠ .tuple) :
    Parameter.WellNamed ⟨name, text, internalType, components⟩ := by
  rw [WellNamed]
  exact fun tag parsed isTuple => (noTuple tag parsed isTuple).elim

/-- An interface can have fields whose names are there and differ. -/
theorem requireFields_of_names {declared interface : String} {names : List String}
    (isName : structName declared = .ok interface) (filled : ∀ name ∈ names, name ≠ "")
    (distinct : names.Nodup) : requireFields declared names = .ok () := by
  have noneEmpty : names.findIdx? (· == "") = none := by
    rw [List.findIdx?_eq_none_iff]
    exact fun name isIn => beq_eq_false_iff_ne.mpr (filled name isIn)
  unfold requireFields
  rw [noneEmpty, isName]
  exact if_pos distinct

/-! ### Ending alike -/

/-- A check of outputs ends as their mapping does: both pass, both meet the same unsupported tag,
both miss the components of a tuple of the same name, or both end by the same one of the given
defects. -/
inductive EndsAlike (defects : Defect → Prop) : Except Fault Unit → Except Fault Unit → Prop
  | passes : EndsAlike defects (.ok ()) (.ok ())
  | unsupported {tag member parameter otherMember otherParameter : String} :
      EndsAlike defects (.error (.unsupportedType tag member parameter))
        (.error (.unsupportedType tag otherMember otherParameter))
  | incomplete {parameter member : String} :
      EndsAlike defects (.error (.shape (.outputWithoutComponents parameter member)))
        (.error (.shape (.tupleWithoutComponents parameter)))
  | defect {cause : Defect} : defects cause →
      EndsAlike defects (.error (.defect cause)) (.error (.defect cause))

section

variable {defects : Defect → Prop} {check mapping : Except Fault Unit}

theorem EndsAlike.mono {others : Defect → Prop} (alike : EndsAlike defects check mapping)
    (implies : ∀ cause, check = .error (.defect cause) → others cause) :
    EndsAlike others check mapping := by
  cases alike with
  | passes => exact .passes
  | unsupported => exact .unsupported
  | incomplete => exact .incomplete
  | defect _ => exact .defect (implies _ rfl)

/-- A defect that ends either of the two is one of the given ones. -/
theorem EndsAlike.among_of {cause : Defect} (alike : EndsAlike defects check mapping)
    (ends : check = .error (.defect cause) ∨ mapping = .error (.defect cause)) : defects cause := by
  cases alike with
  | defect among =>
    rcases ends with same | same
    · exact Fault.defect.inj (Except.error.inj same) ▸ among
    · exact Fault.defect.inj (Except.error.inj same) ▸ among
  | _ => simp at ends

/-- Where an unsupported type stands is no matter. -/
theorem EndsAlike.locate (member parameter : String) (alike : EndsAlike defects check mapping) :
    EndsAlike defects check (mapping.mapError (Fault.locate member parameter)) := by
  cases alike with
  | passes => exact .passes
  | unsupported => exact .unsupported
  | incomplete => exact .incomplete
  | defect among => exact .defect among

theorem EndsAlike.bind {next mappingNext : Except Fault Unit}
    (first : EndsAlike defects check mapping) (second : EndsAlike defects next mappingNext) :
    EndsAlike defects (check >>= fun _ => next) (mapping >>= fun _ => mappingNext) := by
  cases first with
  | passes => exact second
  | unsupported => exact .unsupported
  | incomplete => exact .incomplete
  | defect among => exact .defect among

end

/-! ### Checking walks as mapping does -/

mutual

/-- A parameter is checked as it is mapped with enough levels of tuples. -/
theorem checkParameter_endsAlike (member other : String) :
    ∀ parameter : Parameter, parameter.WellNamed →
      EndsAlike (· = .longNumber) (checkParameter member parameter)
        (parameter.requireTypable other)
  | ⟨name, text, internalType, components⟩, wellNamed => by
    rw [Parameter.WellNamed] at wellNamed
    rw [checkParameter, Parameter.requireTypable]
    refine EndsAlike.locate other name ?_
    unfold requireTag at wellNamed ⊢
    cases parsed : TypeTag.parse text with
    | error cause =>
      cases cause with
      | unsupported => exact .unsupported
      | longNumber => exact .defect rfl
    | ok tag =>
      show EndsAlike _
        (if tag.base = .tuple then checkComponents member name components else .ok ())
        (if tag.base = .tuple then requireStruct name internalType components else .ok ())
      rw [parsed] at wellNamed
      split
      · rename_i isTuple
        obtain ⟨hasName, named⟩ := wellNamed tag rfl isTuple
        exact checkComponents_endsAlike member name internalType components hasName named
      · exact .passes

/-- The components of a tuple are checked as they are mapped: with a name for the tuple and names
for its fields, nothing else can go wrong. -/
theorem checkComponents_endsAlike (member name internalType : String) :
    ∀ components : Option (List Parameter), HasStructName internalType name →
      ComponentsWellNamed components →
      EndsAlike (· = .longNumber) (checkComponents member name components)
        (requireStruct name internalType components)
  | none, _, _ => by
    rw [checkComponents, requireStruct]
    exact .incomplete
  | some components, ⟨declared, interface, isDeclared, isName⟩, named => by
    rw [ComponentsWellNamed] at named
    obtain ⟨filled, distinct, wellNamed⟩ := named
    rw [checkComponents, requireStruct]
    by_cases empty : components.isEmpty
    · rw [if_pos empty, if_pos empty]
      exact .incomplete
    · have fields : requireFields declared (components.map (·.name)) = .ok () :=
        requireFields_of_names isName (List.forall_mem_map.mpr filled) distinct
      rw [if_neg empty, if_neg empty, isDeclared]
      show EndsAlike _ (checkParameters member components)
        (requireAllTypable "" components >>= fun _ => requireFields declared _)
      rw [fields]
      have alike := (checkParameters_endsAlike member "" components wellNamed).bind
        (.passes : EndsAlike (· = .longNumber) (.ok ()) (.ok ()))
      have same : (checkParameters member components >>= fun _ => .ok ()) =
          checkParameters member components := by
        cases checkParameters member components <;> rfl
      rwa [same] at alike

/-- Parameters are checked one after the other as they are mapped with enough levels of tuples. -/
theorem checkParameters_endsAlike (member other : String) :
    ∀ parameters : List Parameter, AllWellNamed parameters →
      EndsAlike (· = .longNumber) (checkParameters member parameters)
        (requireAllTypable other parameters)
  | [], _ => by
    rw [checkParameters, requireAllTypable]
    exact .passes
  | parameter :: rest, wellNamed => by
    rw [AllWellNamed] at wellNamed
    rw [checkParameters, requireAllTypable]
    exact (checkParameter_endsAlike member other parameter wellNamed.1).bind
      (checkParameters_endsAlike member other rest wellNamed.2)

end

/-! ### Mapping several outputs -/

/-- Mapping parameters one after the other ends as the check of all of them does. -/
theorem resolveEach_checks (member : String) (parameters : List Parameter) {start : Registry} :
    Checks start (parameters.mapM (resolveParameter member))
      (requireParameters start.levels member parameters) fun _ => True := by
  induction parameters generalizing start with
  | nil =>
    rw [List.mapM_nil, requireParameters, mappedLevels, requireAllTypable, withinLevels_zero]
    exact .pure trivial
  | cons parameter rest inductionHypothesis =>
    rw [List.mapM_cons, requireParameters_cons]
    refine (resolveParameter_checks member parameter).bind fun ty middle keeps _ => ?_
    rw [← keeps.levels]
    exact inductionHypothesis.change fun _ _ => trivial

/-! ### Transactions -/

/-- Putting the call of a transaction together does not touch the registry, nor whoever listens,
whether the outputs pass their check or not. -/
theorem buildCall_keepsRegistry {function : Member}
    (changes : function.mutability ≠ some .readOnly) (registry : Registry) :
    Maintains (fun pass : Pass => pass.registry = registry) (buildCall function) := by
  have imports : ∀ (module : Json) (names : List String),
      Maintains (fun pass : Pass => pass.registry = registry) (Pass.useImport module names) :=
    fun _ _ => (Maintains.lift _).bind fun _ => .modify fun _ same => same
  have lines : Maintains (fun pass : Pass => pass.registry = registry)
      (Pass.requireLines [1, 0]) := .look fun _ => .lift _
  unfold buildCall
  refine .look fun pass => ?_
  split
  · rename_i readOnly
    exact (changes readOnly).elim
  · refine (Maintains.lift _).bind fun _ => (imports _ _).bind fun _ => ?_
    exact (imports _ _).bind fun _ => lines.bind fun _ => .pure _

/-- Where every tuple of the outputs has a name and its components have names that differ, checking
the outputs and mapping them into a registry end alike exactly if their tuples are not nested
deeper than the registry has levels, and the first thing that is wrong is no number that is too
long. Checking them, which is done for a transaction, leaves the registry as it is. -/
theorem checkParameters_endsAlike_iff {outputs : List Parameter} (wellNamed : AllWellNamed outputs)
    (member other : String) (registry : Registry) :
    (EndsAlike (fun _ => False) (checkParameters member outputs)
        (outcome (outputs.mapM (resolveParameter other) registry).1) ↔
      mappedLevels outputs ≤ registry.levels ∧
        checkParameters member outputs ≠ .error (.defect .longNumber)) ∧
      ∀ (function : Member) (pass : Pass), function.outputs = outputs →
        function.mutability ≠ some .readOnly →
        (buildCall function pass).2.registry = pass.registry := by
  refine ⟨?_, fun function pass _ changes =>
    buildCall_keepsRegistry changes pass.registry pass rfl⟩
  have walks := checkParameters_endsAlike member other outputs wellNamed
  rw [(resolveEach_checks other outputs).ends, requireParameters, withinLevels]
  constructor
  · intro alike
    refine ⟨Nat.le_of_not_lt fun deep => ?_, fun isLong => alike.among_of (.inl isLong)⟩
    exact alike.among_of (.inr (if_neg (Nat.not_le_of_lt deep)))
  · rintro ⟨enough, notLong⟩
    rw [if_pos enough]
    refine walks.mono fun cause isDefect => notLong ?_
    rw [isDefect, (checkParameters_failsOnly member outputs).cause_of isDefect]

/-- Outputs of which the last holds a tuple with a tag that is not supported. -/
def marketOutputs : List Parameter :=
  [⟨"place", "tuple[]", "struct Geo.Place[]",
      some [⟨"x", "int64", "", none⟩, ⟨"tags", "string[2]", "", none⟩]⟩,
    ⟨"offer", "tuple", "", some [⟨"id", "bytes32", "", none⟩, ⟨"price", "fixed128x18", "", none⟩]⟩]

/-- Checking and mapping end alike by the tag, behind a tuple that only mapping registers. -/
theorem marketOutputs_endAlike :
    AllWellNamed marketOutputs ∧
      checkParameters "store" marketOutputs =
        .error (.unsupportedType "fixed128x18" "store" "price") ∧
      EndsAlike (fun _ => False) (checkParameters "store" marketOutputs)
        (outcome (marketOutputs.mapM (resolveParameter "store")
          (.fresh [] "Result" (.text "Market") .absent)).1) := by
  have fails : checkParameters "store" marketOutputs =
      .error (.unsupportedType "fixed128x18" "store" "price") := by rfl
  have plain : ∀ (name : String), ∀ text ∈ ["int64", "string[2]", "bytes32", "fixed128x18"],
      Parameter.WellNamed ⟨name, text, "", none⟩ := by
    intro name text isText
    refine Parameter.wellNamed_of_noTuple fun tag parsed => ?_
    simp only [List.mem_cons, List.not_mem_nil, or_false] at isText
    rcases isText with rfl | rfl | rfl | rfl <;> cases parsed <;> nofun
  have wellNamed : AllWellNamed marketOutputs := by
    refine ⟨fun _ _ _ => ⟨⟨_, _, rfl, rfl⟩, by decide, by decide, ?_⟩,
      fun _ _ _ => ⟨⟨_, _, rfl, rfl⟩, by decide, by decide, ?_⟩, trivial⟩
    · exact ⟨plain _ _ (by decide), plain _ _ (by decide), trivial⟩
    · exact ⟨plain _ _ (by decide), plain _ _ (by decide), trivial⟩
  refine ⟨wellNamed, fails, (checkParameters_endsAlike_iff wellNamed _ _ _).1.mpr ⟨?_, ?_⟩⟩
  · decide +kernel
  · rw [fails]
    nofun

/-! ### Nested outputs -/

/-- An output below which tuples are nested as deep as given, each with a name. -/
def nestedOutput : Nat → Parameter
  | 0 => ⟨"item", "bool", "", none⟩
  | depth + 1 => ⟨"item", "tuple", "", some [nestedOutput depth]⟩

theorem nestedOutput_name (depth : Nat) : (nestedOutput depth).name = "item" := by
  cases depth <;> rfl

theorem nestedOutput_wellNamed (depth : Nat) : (nestedOutput depth).WellNamed := by
  induction depth with
  | zero =>
    refine Parameter.wellNamed_of_noTuple fun tag parsed => ?_
    cases parsed
    nofun
  | succ depth inductionHypothesis =>
    refine fun _ _ _ => ⟨⟨_, _, rfl, rfl⟩, ?_, List.nodup_singleton _, inductionHypothesis, trivial⟩
    rw [List.forall_mem_singleton, nestedOutput_name]
    decide

theorem checkParameter_nestedOutput (member : String) (depth : Nat) :
    checkParameter member (nestedOutput depth) = .ok () := by
  induction depth with
  | zero => rfl
  | succ depth inductionHypothesis =>
    show (checkParameter member (nestedOutput depth) >>= fun _ => checkParameters member []) = _
    rw [inductionHypothesis]
    rfl

theorem mappedLevels_nestedOutput (depth : Nat) : (nestedOutput depth).mappedLevels = depth := by
  induction depth with
  | zero => rfl
  | succ depth inductionHypothesis =>
    show max (nestedOutput depth).mappedLevels
      (if ((nestedOutput depth).requireTypable "").isOk then 0 else 0) + 1 = depth + 1
    rw [inductionHypothesis, ite_self, Nat.max_zero]

/-- An output passes its check at a depth at which it cannot be mapped any more. -/
theorem nestedOutput_endsApart :
    AllWellNamed [nestedOutput 220] ∧
      checkParameters "store" [nestedOutput 220] = .ok () ∧
      ¬EndsAlike (fun _ => False) (checkParameters "store" [nestedOutput 220])
        (outcome ([nestedOutput 220].mapM (resolveParameter "store")
          (.fresh [] "Result" (.text "Market") .absent)).1) := by
  have passes : checkParameters "store" [nestedOutput 220] = .ok () := by
    show (checkParameter "store" (nestedOutput 220) >>= fun _ => checkParameters "store" []) = _
    rw [checkParameter_nestedOutput]
    rfl
  have tooDeep : outcome ([nestedOutput 220].mapM (resolveParameter "store")
      (.fresh [] "Result" (.text "Market") .absent)).1 = .error (.defect .tooDeep) := by
    rw [(resolveEach_checks "store" [nestedOutput 220]).ends, requireParameters_singleton,
      requireParameter, mappedLevels_nestedOutput]
    rfl
  exact ⟨⟨nestedOutput_wellNamed 220, trivial⟩, passes, fun alike => alike.among_of (.inr tooDeep)⟩

end ContractClient
