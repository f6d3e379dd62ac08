/-
This file proves that a signature tells what it is the signature of. In a signature, a tuple is
spelled out by the types of its components, between parentheses and with commas between them. No
tag that is read has such a character in it, so that the types can be taken apart in one way only
(`TypeTree.Legible.readsUniquely`): members with equal signatures have equal names and equal trees
of types (`signature_eq_iff_types`).

A signature looks at the spelling of a tag to tell whether it names a tuple, and everything else
looks at what is read of it. On the trimmed tags that are read, the two agree
(`isTupleTag_eq_namesTuple`).
-/

import ContractClient.Abi.Basic
import ContractClient.Proofs.Abi.TagSpelling
import Mathlib.Data.List.TakeWhile

namespace ContractClient

open Spelling

/-! ### Trees of types -/

/-- The types of a parameter without any names: a tag, and below the tag of a tuple the types of
its components. -/
inductive TypeTree (Tag : Type) where
  | plain (tag : Tag)
  | tuple (tag : Tag) (components : List (TypeTree Tag))
deriving Repr

section

variable {Tag : Type} (isTuple : String → Bool) (seen : String → Tag)

mutual

/-- The types of a parameter, where `isTuple` tells the tags of tuples and every tag is seen as
`seen` says. -/
def Parameter.tree : Parameter → TypeTree Tag
  | ⟨_, tag, _, none⟩ => if isTuple tag then .tuple (seen tag) [] else .plain (seen tag)
  | ⟨_, tag, _, some components⟩ =>
    if isTuple tag then .tuple (seen tag) (treesOf components) else .plain (seen tag)
termination_by structural parameter => parameter

/-- The types of the parameters, in their order. -/
def treesOf : List Parameter → List (TypeTree Tag)
  | [] => []
  | parameter :: rest => parameter.tree :: treesOf rest
termination_by structural parameters => parameters

end

end

mutual

/-- The tags of a parameter and of its components, at any depth. -/
def Parameter.tags : Parameter → List String
  | ⟨_, tag, _, none⟩ => [tag]
  | ⟨_, tag, _, some components⟩ => tag :: tagsOf components
termination_by structural parameter => parameter

/-- The tags of the parameters and of their components, at any depth. -/
def tagsOf : List Parameter → List String
  | [] => []
  | parameter :: rest => parameter.tags ++ tagsOf rest
termination_by structural parameters => parameters

end

/-- Whether the tag can be read. -/
def isAccepted (tag : String) : Bool :=
  (TypeTag.parse tag).isOk

/-- Whether what is read of the tag is a tuple or an array of tuples. -/
def namesTuple (tag : String) : Bool :=
  match TypeTag.parse tag with
  | .ok read => read.base = .tuple
  | .error _ => false

/-- The types of the parameters with their tags as they are written. What is read as a tuple is
one. -/
def typeTrees (parameters : List Parameter) : List (TypeTree String) :=
  treesOf namesTuple id parameters

/-- The types of the parameters as a signature spells them. A tag that is spelled like one of a tuple
is one. -/
def spelledTypes (parameters : List Parameter) : List (TypeTree String) :=
  treesOf isTupleTag id parameters

/-- Induction over a parameter and all its components. -/
@[elab_as_elim]
theorem Parameter.induct {motive : Parameter → Prop}
    (step : ∀ parameter : Parameter,
      (∀ component ∈ parameter.components.getD [], motive component) → motive parameter) :
    ∀ parameter, motive parameter := by
  intro parameter
  refine @Parameter.rec motive (fun components => ∀ component ∈ components.getD [], motive component)
    (fun components => ∀ component ∈ components, motive component)
    (fun _ _ _ _ components => step _ components) nofun (fun _ components => components) nofun
    ?cons parameter
  case cons => exact fun _ _ first others => List.forall_mem_cons.mpr ⟨first, others⟩

section

variable {Tag : Type} {isTuple : String → Bool} {seen : String → Tag}

theorem Parameter.tree_eq (parameter : Parameter) :
    parameter.tree isTuple seen =
      if isTuple parameter.tag then
        .tuple (seen parameter.tag) (treesOf isTuple seen (parameter.components.getD []))
      else .plain (seen parameter.tag) := by
  rcases parameter with ⟨name, tag, internalType, _ | components⟩ <;> rfl

theorem treesOf_eq_map (parameters : List Parameter) :
    treesOf isTuple seen parameters = parameters.map (Parameter.tree isTuple seen) := by
  induction parameters with
  | nil => rfl
  | cons parameter rest inductionHypothesis => rw [treesOf, inductionHypothesis, List.map_cons]

theorem Parameter.tags_eq (parameter : Parameter) :
    parameter.tags = parameter.tag :: tagsOf (parameter.components.getD []) := by
  rcases parameter with ⟨name, tag, internalType, _ | components⟩ <;> rfl

theorem tagsOf_eq_flatMap (parameters : List Parameter) :
    tagsOf parameters = parameters.flatMap Parameter.tags := by
  induction parameters with
  | nil => rfl
  | cons parameter rest inductionHypothesis => rw [tagsOf, inductionHypothesis, List.flatMap_cons]

/-- What holds for all tags of a parameter holds for its own and for all those of its components. -/
theorem Parameter.forall_tags {holds : String → Prop} {parameter : Parameter} :
    (∀ tag ∈ parameter.tags, holds tag) ↔
      holds parameter.tag ∧ ∀ component ∈ parameter.components.getD [],
        ∀ tag ∈ component.tags, holds tag := by
  rw [tags_eq, List.forall_mem_cons, tagsOf_eq_flatMap, List.forall_mem_flatMap]

theorem forall_tagsOf {holds : String → Prop} {parameters : List Parameter} :
    (∀ tag ∈ tagsOf parameters, holds tag) ↔
      ∀ parameter ∈ parameters, ∀ tag ∈ parameter.tags, holds tag := by
  rw [tagsOf_eq_flatMap, List.forall_mem_flatMap]

/-- The tree depends only on what is said of the tags that the parameter has. -/
theorem Parameter.tree_congr {isTuple' : String → Bool} {seen' : String → Tag}
    {parameter : Parameter}
    (agree : ∀ tag ∈ parameter.tags, isTuple tag = isTuple' tag ∧ seen tag = seen' tag) :
    parameter.tree isTuple seen = parameter.tree isTuple' seen' := by
  induction parameter using Parameter.induct with
  | step parameter inductionHypothesis =>
    obtain ⟨⟨sameTest, sameTag⟩, components⟩ := forall_tags.mp agree
    rw [tree_eq, tree_eq, sameTest, sameTag, treesOf_eq_map, treesOf_eq_map]
    rw [List.map_congr_left fun component isIn =>
      inductionHypothesis component isIn (components component isIn)]

theorem treesOf_congr {isTuple' : String → Bool} {seen' : String → Tag}
    {parameters : List Parameter}
    (agree : ∀ tag ∈ tagsOf parameters, isTuple tag = isTuple' tag ∧ seen tag = seen' tag) :
    treesOf isTuple seen parameters = treesOf isTuple' seen' parameters := by
  rw [treesOf_eq_map, treesOf_eq_map]
  exact List.map_congr_left fun parameter isIn =>
    Parameter.tree_congr (forall_tagsOf.mp agree parameter isIn)

end

section

variable {Tag Other : Type} (change : Tag → Other)

mutual

/-- The tree with every tag changed. -/
def TypeTree.map : TypeTree Tag → TypeTree Other
  | plain tag => plain (change tag)
  | tuple tag components => tuple (change tag) (mapAll components)
termination_by structural tree => tree

/-- The trees with every tag in them changed. -/
def TypeTree.mapAll : List (TypeTree Tag) → List (TypeTree Other)
  | [] => []
  | tree :: rest => tree.map :: mapAll rest
termination_by structural trees => trees

end

theorem TypeTree.mapAll_eq_map (trees : List (TypeTree Tag)) :
    TypeTree.mapAll change trees = trees.map (TypeTree.map change) := by
  induction trees with
  | nil => rfl
  | cons tree rest inductionHypothesis => rw [mapAll, inductionHypothesis, List.map_cons]

/-- To change the tags of a tree is to see the tags of the parameter otherwise. -/
theorem Parameter.map_tree (isTuple : String → Bool) (seen : String → Tag)
    (parameter : Parameter) :
    (parameter.tree isTuple seen).map change = parameter.tree isTuple (change ∘ seen) := by
  induction parameter using Parameter.induct with
  | step parameter inductionHypothesis =>
    rw [tree_eq, tree_eq]
    split
    · rw [TypeTree.map, TypeTree.mapAll_eq_map, treesOf_eq_map, treesOf_eq_map, List.map_map]
      exact congrArg _ (List.map_congr_left inductionHypothesis)
    · rfl

theorem mapAll_treesOf (isTuple : String → Bool) (seen : String → Tag)
    (parameters : List Parameter) :
    TypeTree.mapAll change (treesOf isTuple seen parameters) =
      treesOf isTuple (change ∘ seen) parameters := by
  rw [TypeTree.mapAll_eq_map, treesOf_eq_map, treesOf_eq_map, List.map_map]
  exact List.map_congr_left fun parameter _ => parameter.map_tree change isTuple seen

end

/-! ### The characters of a tree -/

namespace TypeTree

mutual

/-- The characters of a tree in a signature. -/
def chars : TypeTree String → List Char
  | plain tag => tag.toList
  | tuple tag components => '(' :: (charsOf components ++ ')' :: (tupleSuffix tag).toList)
termination_by structural tree => tree

/-- The characters of trees in a signature, with commas between them. -/
def charsOf : List (TypeTree String) → List Char
  | [] => []
  | tree :: rest => tree.chars ++ charsBehind rest
termination_by structural trees => trees

/-- The characters of trees that stand behind another one, each with a comma in front of it. -/
def charsBehind : List (TypeTree String) → List Char
  | [] => []
  | tree :: rest => ',' :: (tree.chars ++ charsBehind rest)
termination_by structural trees => trees

end

theorem charsBehind_eq_flatMap (trees : List (TypeTree String)) :
    charsBehind trees = trees.flatMap fun tree => ',' :: tree.chars := by
  induction trees with
  | nil => rfl
  | cons tree rest inductionHypothesis =>
    rw [charsBehind, inductionHypothesis, List.flatMap_cons, List.cons_append]

end TypeTree

theorem toList_intercalate_comma (text : String) (texts : List String) :
    (",".intercalate (text :: texts)).toList =
      text.toList ++ texts.flatMap fun other => ',' :: other.toList := by
  induction texts generalizing text with
  | nil => rw [String.intercalate_singleton, List.flatMap_nil, List.append_nil]
  | cons other rest inductionHypothesis =>
    rw [String.intercalate_cons_cons, String.toList_append, inductionHypothesis]
    simp

theorem Parameter.canonicalType_eq (parameter : Parameter) :
    parameter.canonicalType =
      if isTupleTag parameter.tag then
        "(" ++ ",".intercalate (canonicalTypes (parameter.components.getD [])) ++ ")" ++
          tupleSuffix parameter.tag
      else parameter.tag := by
  rcases parameter with ⟨name, tag, internalType, _ | components⟩ <;> rfl

theorem canonicalTypes_eq_map (parameters : List Parameter) :
    canonicalTypes parameters = parameters.map Parameter.canonicalType := by
  induction parameters with
  | nil => rfl
  | cons parameter rest inductionHypothesis =>
    rw [canonicalTypes, inductionHypothesis, List.map_cons]

theorem toList_canonicalTypes_of_forall {parameters : List Parameter}
    (each : ∀ parameter ∈ parameters,
      parameter.canonicalType.toList = (parameter.tree isTupleTag id).chars) :
    (",".intercalate (canonicalTypes parameters)).toList =
      TypeTree.charsOf (spelledTypes parameters) := by
  cases parameters with
  | nil => rfl
  | cons parameter rest =>
    have others : ∀ other ∈ rest, ',' :: other.canonicalType.toList =
        ',' :: (other.tree isTupleTag id).chars := fun other isIn => by
      rw [each other (List.mem_cons_of_mem _ isIn)]
    rw [canonicalTypes, toList_intercalate_comma, each parameter List.mem_cons_self,
      canonicalTypes_eq_map, List.flatMap_map, List.flatMap_congr others, spelledTypes, treesOf,
      TypeTree.charsOf, TypeTree.charsBehind_eq_flatMap, treesOf_eq_map, List.flatMap_map]

/-- The type of a parameter in a signature consists of the characters of its tree, where tuples are
told by the spelling of their tags. -/
theorem Parameter.toList_canonicalType (parameter : Parameter) :
    parameter.canonicalType.toList = (parameter.tree isTupleTag id).chars := by
  induction parameter using Parameter.induct with
  | step parameter inductionHypothesis =>
    rw [tree_eq, canonicalType_eq]
    split
    · rw [String.toList_append, String.toList_append, String.toList_append,
        toList_canonicalTypes_of_forall inductionHypothesis]
      simp [TypeTree.chars, spelledTypes]
    · rfl

/-- The characters of a signature. -/
theorem Member.toList_signature (member : Member) :
    member.signature.toList =
      member.name.toList ++
        '(' :: (TypeTree.charsOf (spelledTypes member.inputs) ++ [')']) := by
  rw [signature, String.toList_append, String.toList_append, String.toList_append,
    toList_canonicalTypes_of_forall fun parameter _ => parameter.toList_canonicalType]
  simp

/-! ### Trees that can be read off -/

/-- The characters that keep types apart in a signature. -/
def isSeparator (character : Char) : Bool :=
  "(,)".toList.contains character

/-- No character separates types. -/
def IsClear (characters : List Char) : Prop :=
  ∀ character ∈ characters, isSeparator character = false

/-- Nothing stands here, or a character that separates types. -/
def AtSeparator (characters : List Char) : Prop :=
  ∀ character ∈ characters.head?, isSeparator character = true

/-- What stands in front of the first character that stops is determined, and so is the rest. -/
theorem append_unique {stops : Char → Bool} {front others rest remaining : List Char}
    (goesOn : ∀ character ∈ front, stops character = false)
    (goesOnToo : ∀ character ∈ others, stops character = false)
    (atStop : ∀ character ∈ rest.head?, stops character = true)
    (atStopToo : ∀ character ∈ remaining.head?, stops character = true)
    (same : front ++ rest = others ++ remaining) : front = others ∧ rest = remaining := by
  -- The part in front can be read off the whole: it is what is taken up to the first stop.
  have taken : ∀ {front rest : List Char}, (∀ character ∈ front, stops character = false) →
      (∀ character ∈ rest.head?, stops character = true) →
      (front ++ rest).takeWhile (fun character => !stops character) = front := by
    intro front rest goesOn atStop
    rw [List.takeWhile_append_of_pos fun character isIn => by rw [goesOn character isIn]; rfl]
    cases rest with
    | nil => exact List.append_nil front
    | cons stop _ =>
      rw [List.takeWhile_cons_of_neg (by simp [atStop stop rfl]), List.append_nil]
  have sameFront : front = others := by
    rw [← taken goesOn atStop, same, taken goesOnToo atStopToo]
  exact ⟨sameFront, List.append_cancel_left (sameFront ▸ same)⟩

/-- Characters that do not separate do not begin like what begins with a separator. -/
theorem IsClear.append_ne {characters rest remaining : List Char} {separator : Char}
    (clear : IsClear characters) (some : characters ≠ []) (separates : isSeparator separator = true) :
    characters ++ rest ≠ separator :: remaining := by
  cases characters with
  | nil => exact absurd rfl some
  | cons first others =>
    intro same
    have goesOn := clear first List.mem_cons_self
    rw [(List.cons.inj same).1, separates] at goesOn
    cases goesOn

theorem isTupleTag_iff {tag : String} :
    isTupleTag tag = true ↔
      ∃ suffix, tag.toList = "tuple".toList ++ suffix ∧ ∀ first ∈ suffix.head?, first = '[' := by
  rw [isTupleTag, Bool.or_eq_true, beq_iff_eq, String.startsWith_string_iff]
  constructor
  · rintro (rfl | ⟨behind, isTag⟩)
    · exact ⟨[], rfl, nofun⟩
    · exact ⟨'[' :: behind, isTag.symm, fun _ isHead => (Option.some.inj isHead).symm⟩
  · rintro ⟨suffix, isTag, bracket⟩
    cases suffix with
    | nil => exact .inl (String.toList_inj.mp isTag)
    | cons first behind =>
      obtain rfl := bracket first rfl
      exact .inr ⟨behind, isTag.symm⟩

theorem toList_tupleSuffix (tag : String) :
    (tupleSuffix tag).toList = tag.toList.drop "tuple".length :=
  String.toList_ofList

theorem tuple_append_tupleSuffix {tag : String} (isTuple : isTupleTag tag = true) :
    "tuple" ++ tupleSuffix tag = tag := by
  obtain ⟨suffix, isTag, -⟩ := isTupleTag_iff.mp isTuple
  rw [← String.toList_inj, String.toList_append, toList_tupleSuffix, isTag]
  rfl

theorem clear_tupleSuffix {tag : String} (clear : IsClear tag.toList) :
    IsClear (tupleSuffix tag).toList := by
  rw [toList_tupleSuffix]
  exact fun character isIn => clear character (List.mem_of_mem_drop isIn)

namespace TypeTree

/-- The tags of the tree are texts without separators, none of them is empty, and those of tuples
say so. -/
inductive Legible : TypeTree String → Prop where
  | plain {tag : String} (some : tag.toList ≠ []) (clear : IsClear tag.toList) :
      Legible (plain tag)
  | tuple {tag : String} {components : List (TypeTree String)} (isTuple : isTupleTag tag = true)
      (clear : IsClear tag.toList) (legible : ∀ component ∈ components, component.Legible) :
      Legible (tuple tag components)

/-- Whatever stands behind the tree in a signature, its characters are those of no other tree. -/
def ReadsUniquely (tree : TypeTree String) : Prop :=
  ∀ {other : TypeTree String} {rest remaining : List Char}, other.Legible → AtSeparator rest →
    AtSeparator remaining → tree.chars ++ rest = other.chars ++ remaining →
      tree = other ∧ rest = remaining

/-- A tree does not begin with a parenthesis that closes. -/
theorem Legible.append_ne {tree : TypeTree String} (legible : tree.Legible)
    (rest remaining : List Char) : tree.chars ++ rest ≠ ')' :: remaining := by
  cases legible with
  | plain some clear => exact clear.append_ne some rfl
  | tuple => exact fun same => absurd (List.cons.inj same).1 (by decide)

theorem atSeparator_charsBehind (trees : List (TypeTree String)) (rest : List Char) :
    AtSeparator (charsBehind trees ++ ')' :: rest) := by
  cases trees with
  | nil => exact fun _ isHead => Option.some.inj isHead ▸ rfl
  | cons tree others => exact fun _ isHead => Option.some.inj isHead ▸ rfl

theorem charsBehind_unique {trees others : List (TypeTree String)} {rest remaining : List Char}
    (unique : ∀ tree ∈ trees, tree.ReadsUniquely) (legible : ∀ other ∈ others, other.Legible)
    (same : charsBehind trees ++ ')' :: rest = charsBehind others ++ ')' :: remaining) :
    trees = others ∧ rest = remaining := by
  induction trees generalizing others with
  | nil =>
    cases others with
    | nil => exact ⟨rfl, (List.cons.inj same).2⟩
    | cons => exact absurd (List.cons.inj same).1 (by decide)
  | cons tree trees inductionHypothesis =>
    cases others with
    | nil => exact absurd (List.cons.inj same).1 (by decide)
    | cons other others =>
      rw [List.forall_mem_cons] at unique legible
      have behindComma : tree.chars ++ charsBehind trees ++ ')' :: rest =
          other.chars ++ charsBehind others ++ ')' :: remaining := (List.cons.inj same).2
      rw [List.append_assoc, List.append_assoc] at behindComma
      obtain ⟨rfl, behind⟩ := unique.1 legible.1 (atSeparator_charsBehind trees rest)
        (atSeparator_charsBehind others remaining) behindComma
      obtain ⟨rfl, sameRest⟩ := inductionHypothesis unique.2 legible.2 behind
      exact ⟨rfl, sameRest⟩

theorem charsOf_unique {trees others : List (TypeTree String)} {rest remaining : List Char}
    (unique : ∀ tree ∈ trees, tree.ReadsUniquely) (legibleFirst : ∀ tree ∈ trees, tree.Legible)
    (legible : ∀ other ∈ others, other.Legible)
    (same : charsOf trees ++ ')' :: rest = charsOf others ++ ')' :: remaining) :
    trees = others ∧ rest = remaining := by
  -- A list without trees ends at once, where another one begins with a tree.
  cases trees with
  | nil =>
    cases others with
    | nil => exact ⟨rfl, (List.cons.inj same).2⟩
    | cons other others =>
      rw [charsOf, charsOf, List.append_assoc] at same
      exact ((legible other List.mem_cons_self).append_ne _ _ same.symm).elim
  | cons tree trees =>
    cases others with
    | nil =>
      rw [charsOf, charsOf, List.append_assoc] at same
      exact ((legibleFirst tree List.mem_cons_self).append_ne _ _ same).elim
    | cons other others =>
      exact charsBehind_unique unique legible (congrArg (List.cons ',') same)

/-- The characters of a tree are read in one way only. -/
theorem Legible.readsUniquely {tree : TypeTree String} (legible : tree.Legible) :
    tree.ReadsUniquely := by
  induction legible with
  | @plain tag some clear =>
    intro other rest remaining otherLegible atSeparator atSeparatorToo same
    cases otherLegible with
    | @plain otherTag otherSome otherClear =>
      obtain ⟨sameTag, sameRest⟩ :=
        append_unique clear otherClear atSeparator atSeparatorToo same
      exact ⟨congrArg TypeTree.plain (String.toList_inj.mp sameTag), sameRest⟩
    | tuple => exact (clear.append_ne some rfl same).elim
  | @tuple tag components isTuple clear legible inductionHypothesis =>
    intro other rest remaining otherLegible atSeparator atSeparatorToo same
    cases otherLegible with
    | plain otherSome otherClear =>
      exact (otherClear.append_ne otherSome rfl same.symm).elim
    | @tuple otherTag otherComponents otherIsTuple otherClear otherLegible =>
      simp only [chars, List.cons_append, List.append_assoc, List.cons.injEq, true_and] at same
      obtain ⟨rfl, behind⟩ := charsOf_unique inductionHypothesis legible otherLegible same
      obtain ⟨sameSuffix, sameRest⟩ := append_unique (clear_tupleSuffix clear)
        (clear_tupleSuffix otherClear) atSeparator atSeparatorToo behind
      refine ⟨?_, sameRest⟩
      have sameTag : tag = otherTag := by
        rw [← tuple_append_tupleSuffix isTuple, ← tuple_append_tupleSuffix otherIsTuple,
          String.toList_inj.mp sameSuffix]
      rw [sameTag]

end TypeTree

/-! ### Tags that are read -/

theorem isAccepted_iff {tag : String} :
    isAccepted tag = true ↔ ∃ read, TypeTag.parse tag = .ok read := by
  rw [isAccepted]
  cases TypeTag.parse tag <;> simp [Except.isOk, Except.toBool]

/-- What is stripped off characters is blank. -/
theorem isBlank_or_mem_stripChars {characters : List Char} {character : Char}
    (isIn : character ∈ characters) :
    isBlank character = true ∨ character ∈ stripChars characters := by
  have dropped : ∀ {others : List Char}, character ∈ others →
      isBlank character = true ∨ character ∈ others.dropWhile isBlank := fun {others} isIn => by
    rw [← List.takeWhile_append_dropWhile (p := isBlank) (l := others), List.mem_append] at isIn
    exact isIn.imp_left List.mem_takeWhile_imp
  rcases dropped isIn with blank | isIn
  · exact .inl blank
  · rw [stripChars, stripEndChars, List.mem_reverse]
    exact dropped (List.mem_reverse.mpr isIn)

/-- Neither blanks nor digits separate types. -/
theorem isSeparator_eq_false {character : Char}
    (other : isBlank character = true ∨ isDecimalDigit character = true) :
    isSeparator character = false := by
  have unlike : ∀ separator ∈ "(,)".toList,
      ¬(isBlank separator = true ∨ isDecimalDigit separator = true) :=
    List.all_iff_forall_prop.mp (by decide +kernel)
  rw [Bool.eq_false_iff]
  exact fun separates => unlike character (List.contains_iff_mem.mp separates) other

/-- No tag that is read has a separator in it. -/
theorem clear_of_isAccepted {tag : String} (accepted : isAccepted tag = true) :
    IsClear tag.toList := by
  obtain ⟨read, isRead⟩ := isAccepted_iff.mp accepted
  have keeps : lenient.KeepsTo (isSeparator · = false) :=
    lenient_keepsTo (List.all_iff_forall_prop.mp (by decide))
      (fun _ isDigit => isSeparator_eq_false (.inr isDigit)) (by decide)
  intro character isIn
  rcases isBlank_or_mem_stripChars isIn with blank | isIn
  · exact isSeparator_eq_false (.inl blank)
  · exact keeps.tag (by decide) (by decide) (TypeTag.parse_eq_ok_iff.mp isRead) character isIn

theorem ne_nil_of_isAccepted {tag : String} (accepted : isAccepted tag = true) :
    tag.toList ≠ [] := by
  intro none
  rw [String.toList_eq_nil_iff.mp none] at accepted
  exact absurd accepted (by decide +kernel)

/-- Where all tags can be read, the types can be read off a signature. -/
theorem Parameter.legible_tree {parameter : Parameter}
    (accepted : ∀ tag ∈ parameter.tags, isAccepted tag = true) :
    (parameter.tree isTupleTag id).Legible := by
  induction parameter using Parameter.induct with
  | step parameter inductionHypothesis =>
    obtain ⟨ownTag, components⟩ := forall_tags.mp accepted
    rw [tree_eq]
    split
    · rename_i isTuple
      refine .tuple isTuple (clear_of_isAccepted ownTag) ?_
      rw [treesOf_eq_map, List.forall_mem_map]
      exact fun component isIn => inductionHypothesis component isIn (components component isIn)
    · exact .plain (ne_nil_of_isAccepted ownTag) (clear_of_isAccepted ownTag)

/-- Of all base types, only the tuple begins with its letter. -/
theorem Spelling.SpellsBase.head_iff {spelling : Spelling} {characters : List Char}
    {base : BaseType} (spells : spelling.SpellsBase characters base) :
    characters.head? = some 't' ↔ base = .tuple := by
  cases spells with
  | word isWord isText =>
    have words : ∀ base ∈ wordTypes, base.text.toList.head? = some 't' ↔ base = .tuple := by decide
    exact isText ▸ words _ isWord
  | _ => exact iff_of_false (by simp) nofun

theorem Spelling.SpellsSuffixes.head {spelling : Spelling} {characters : List Char}
    {dimensions : List (Option Nat)} (spells : spelling.SpellsSuffixes characters dimensions) :
    ∀ first ∈ characters.head?, first = '[' := by
  cases spells with
  | nil => exact nofun
  | cons => exact fun _ isHead => (Option.some.inj isHead).symm

/-- On trimmed tags that are read, the spelling of a tag tells tuples as what is read of it does. -/
theorem isTupleTag_eq_namesTuple {tag : String} (trimmed : strip tag = tag)
    (accepted : isAccepted tag = true) : isTupleTag tag = namesTuple tag := by
  obtain ⟨read, isRead⟩ := isAccepted_iff.mp accepted
  have stripped : stripChars tag.toList = tag.toList := by
    rw [← String.toList_ofList (l := stripChars tag.toList)]
    exact congrArg String.toList trimmed
  obtain ⟨base, suffixes, isTag, isBase, areSuffixes⟩ := TypeTag.parse_eq_ok_iff.mp isRead
  rw [stripped] at isTag
  rw [Bool.eq_iff_iff, isTupleTag_iff, namesTuple, isRead, decide_eq_true_eq]
  constructor
  · rintro ⟨behind, isTuple, -⟩
    have head : (base ++ suffixes).head? = some 't' := by
      rw [← isTag, isTuple]
      rfl
    rw [List.head?_append, Option.or_eq_some_iff] at head
    rcases head with head | ⟨-, head⟩
    · exact isBase.head_iff.mp head
    · exact absurd (areSuffixes.head 't' head) (by decide)
  · intro isTuple
    rw [isTuple] at isBase
    cases isBase with
    | word _ isText => exact ⟨suffixes, isText ▸ isTag, areSuffixes.head⟩

/-! ### Signatures -/

section

variable {first second : Member}

/-- The name ends where the first parenthesis of a signature opens. -/
theorem name_eq_of_signature (noParenthesis : '(' ∉ first.name.toList)
    (noParenthesisToo : '(' ∉ second.name.toList) (same : first.signature = second.signature) :
    first.name = second.name := by
  have goesOn : ∀ {name : String}, '(' ∉ name.toList →
      ∀ character ∈ name.toList, (character == '(') = false := fun noParenthesis _ isIn =>
    beq_eq_false_iff_ne.mpr fun opens => noParenthesis (opens ▸ isIn)
  have opens : ∀ {behind : List Char}, ∀ character ∈ ('(' :: behind).head?,
      (character == '(') = true := fun _ isHead => Option.some.inj isHead ▸ rfl
  rw [← String.toList_inj, Member.toList_signature, Member.toList_signature] at same
  exact String.toList_inj.mp
    (append_unique (goesOn noParenthesis) (goesOn noParenthesisToo) opens opens same).1

/-- Signatures with one name are equal exactly if the types are spelled alike. -/
theorem signature_eq_iff_spelledTypes (sameName : first.name = second.name)
    (accepted : ∀ tag ∈ tagsOf first.inputs, isAccepted tag = true)
    (acceptedToo : ∀ tag ∈ tagsOf second.inputs, isAccepted tag = true) :
    first.signature = second.signature ↔
      spelledTypes first.inputs = spelledTypes second.inputs := by
  have legible : ∀ {parameters : List Parameter},
      (∀ tag ∈ tagsOf parameters, isAccepted tag = true) →
        ∀ tree ∈ spelledTypes parameters, tree.Legible := by
    intro parameters accepted
    rw [spelledTypes, treesOf_eq_map, List.forall_mem_map]
    exact fun parameter isIn => parameter.legible_tree (forall_tagsOf.mp accepted parameter isIn)
  rw [← String.toList_inj, Member.toList_signature, Member.toList_signature, sameName,
    List.append_cancel_left_eq, List.cons.injEq, eq_self, true_and]
  constructor
  · intro same
    exact (TypeTree.charsOf_unique (fun _ isIn => (legible accepted _ isIn).readsUniquely)
      (legible accepted) (legible acceptedToo) same).1
  · exact congrArg fun trees => TypeTree.charsOf trees ++ [')']

/-- The types are spelled as they are written if all tags are trimmed and can be read. -/
theorem spelledTypes_eq_typeTrees {parameters : List Parameter}
    (trimmed : ∀ tag ∈ tagsOf parameters, strip tag = tag)
    (accepted : ∀ tag ∈ tagsOf parameters, isAccepted tag = true) :
    spelledTypes parameters = typeTrees parameters :=
  treesOf_congr fun tag isIn =>
    ⟨isTupleTag_eq_namesTuple (trimmed tag isIn) (accepted tag isIn), rfl⟩

/-- A signature tells what it is the signature of: no parenthesis opens in the name, and all tags
are trimmed and can be read. -/
structure Member.IsLegible (member : Member) : Prop where
  name : '(' ∉ member.name.toList
  trimmed : ∀ tag ∈ tagsOf member.inputs, strip tag = tag
  accepted : ∀ tag ∈ tagsOf member.inputs, isAccepted tag = true

/-- Signatures are unambiguous: they are equal exactly if the names are and the types of the inputs
are. The spelling of a tag tells tuples as what is read of it does. -/
theorem signature_eq_iff_types (legible : first.IsLegible) (legibleToo : second.IsLegible) :
    (first.signature = second.signature ↔
      first.name = second.name ∧ typeTrees first.inputs = typeTrees second.inputs) ∧
    ∀ tag ∈ tagsOf first.inputs ++ tagsOf second.inputs, isTupleTag tag = namesTuple tag := by
  have sameTypes : first.name = second.name → (first.signature = second.signature ↔
      typeTrees first.inputs = typeTrees second.inputs) := fun sameName => by
    rw [signature_eq_iff_spelledTypes sameName legible.accepted legibleToo.accepted,
      spelledTypes_eq_typeTrees legible.trimmed legible.accepted,
      spelledTypes_eq_typeTrees legibleToo.trimmed legibleToo.accepted]
  refine ⟨⟨fun same => ?_, fun ⟨sameName, types⟩ => (sameTypes sameName).mpr types⟩,
    fun tag isIn => ?_⟩
  · have sameName := name_eq_of_signature legible.name legibleToo.name same
    exact ⟨sameName, (sameTypes sameName).mp same⟩
  · rcases List.mem_append.mp isIn with isIn | isIn
    · exact isTupleTag_eq_namesTuple (legible.trimmed tag isIn) (legible.accepted tag isIn)
    · exact isTupleTag_eq_namesTuple (legibleToo.trimmed tag isIn) (legibleToo.accepted tag isIn)

end

/-- A function of an array of tuples, with the given names in it. -/
def settle (outer inner : String) : Member :=
  ⟨.function, "settle", [⟨outer, "tuple[2]", outer, some [⟨inner, "tuple", "", some []⟩,
    ⟨inner, "uint8[]", "", none⟩]⟩, ⟨inner, "bytes32", inner, none⟩], [], "view"⟩

theorem settle_isLegible (outer inner : String) : (settle outer inner).IsLegible := by
  have tags : ∀ tag ∈ ["tuple[2]", "tuple", "uint8[]", "bytes32"],
      strip tag = tag ∧ isAccepted tag = true := by decide +kernel
  have noParenthesis : '(' ∉ "settle".toList := by decide
  exact ⟨noParenthesis, fun tag isIn => (tags tag isIn).1, fun tag isIn => (tags tag isIn).2⟩

theorem settle_determined :
    (settle "orders" "fee").signature = (settle "trades" "key").signature ∧
      typeTrees (settle "orders" "fee").inputs = typeTrees (settle "trades" "key").inputs ∧
      isTupleTag "tuple[2]" = namesTuple "tuple[2]" := by
  obtain ⟨determined, agree⟩ := signature_eq_iff_types (settle_isLegible "orders" "fee")
    (settle_isLegible "trades" "key")
  have same : (settle "orders" "fee").signature = (settle "trades" "key").signature := by
    decide +kernel
  exact ⟨same, (determined.mp same).2, agree _ (by decide)⟩

end ContractClient
