/-
This file proves that types and shapes say the same. In a run of calls that asks for plain names
only, the text of a type that is given for a subject has the shape of the subject, then and ever
after; and two subjects are given the same text exactly if they have the same shape
(`runEvents_share_texts`). So a name never stands for two shapes, and a shape never has two names.

Interfaces are found by the texts of the types of their fields, one level deep. What carries this
to whole trees is that within one list of interfaces the text of a type and its shape determine
each other (`HasShape.unique`, `HasShape.eq_of_alike`), field by field.
-/

import ContractClient.Proofs.Shape.Basic

namespace ContractClient

/-! ### Plain names -/

/-- The name is not that of a primitive type, and has no bracket in it. -/
def PlainName (name : String) : Prop :=
  name ∉ primitiveNames ∧ '[' ∉ name.toList

instance (name : String) : Decidable (PlainName name) :=
  inferInstanceAs (Decidable (_ ∧ _))

/-- All interfaces have plain names. -/
def PlainNames (interfaces : List Interface) : Prop :=
  ∀ interface ∈ interfaces, PlainName interface.name

theorem plainName_numbered {name : String} (plain : PlainName name) (number : Nat) :
    PlainName (numbered name number) := by
  have underscore : '_' ∈ (numbered name number).toList := by simp [numbered]
  constructor
  · intro primitive
    simp only [primitiveNames, List.mem_cons, List.not_mem_nil, or_false] at primitive
    rcases primitive with same | same | same <;> rw [same] at underscore <;>
      exact absurd underscore (by decide)
  · have noDigit : '[' ∉ Nat.toDigits 10 number := fun digit =>
      absurd (Nat.isDigit_of_mem_toDigits (by decide) (by decide) digit) (by decide)
    simp [numbered, plain.2, noDigit]

theorem plainName_freeName {name : String} (plain : PlainName name) (taken : List String) :
    PlainName (freeName taken name) := by
  unfold freeName
  split
  · exact plainName_numbered plain _
  · exact plain

section

variable {reserved : List String} {interfaces : List Interface}

/-- The type that a plain name writes is the name itself. -/
theorem PlainName.ofText {name : String} (plain : PlainName name) : Ty.ofText name = ⟨name, 0⟩ :=
  Ty.ofText_of_not_mem plain.2

theorem PlainName.ne_bigintName {name : String} (plain : PlainName name) : name ≠ bigintName := by
  rintro rfl
  exact plain.1 (by simp [primitiveNames, bigintName])

theorem PlainNames.findInterface?_primitive (plain : PlainNames interfaces) {name : String}
    (primitive : name ∈ primitiveNames) : findInterface? interfaces name = none := by
  refine List.find?_eq_none.mpr fun interface member same => ?_
  exact (plain interface member).1 (beq_iff_eq.mp same ▸ primitive)

theorem Known.ofText_text {ty : Ty} (known : Known interfaces ty) : Ty.ofText ty.text = ty := by
  obtain ⟨name, dimensions, rfl, _⟩ := known
  exact Ty.ofText_arrays_text name dimensions

/-! ### From parameters to types -/

/-- The name of a field and the text of its type, beside the name of a field and a shape: the
names are the same, and the text writes a type of a shape that is canonically that shape. -/
def Stands (interfaces : List Interface) (written : String × String) (named : String × Shape) :
    Prop :=
  written.1 = named.1 ∧
    ∃ shape, HasShape interfaces shape (Ty.ofText written.2) ∧ shape.canonical = named.2

/-- The name of a field and the text of its type. -/
def Field.written (field : Field) : String × String :=
  (field.name, field.ty.text)

theorem haveShapes_of_stand {fields : List Field} {canonical : List (String × Shape)}
    (known : ∀ field ∈ fields, Known interfaces field.ty)
    (stand : List.Forall₂ (Stands interfaces) (fields.map Field.written) canonical) :
    ∃ shapes, HaveShapes interfaces shapes fields ∧ Shape.canonicalFields shapes = canonical := by
  induction fields generalizing canonical with
  | nil =>
    rw [List.map_nil, List.forall₂_nil_left_iff] at stand
    exact ⟨[], by rw [HaveShapes], stand.symm⟩
  | cons field fields inductionHypothesis =>
    rw [List.map_cons, List.forall₂_cons_left_iff] at stand
    obtain ⟨named, others, ⟨sameName, shape, hasShape, isCanonical⟩, stand, rfl⟩ := stand
    obtain ⟨shapes, haveShapes, areCanonical⟩ :=
      inductionHypothesis (fun other member => known other (List.mem_cons_of_mem _ member)) stand
    have ofText : Ty.ofText field.ty.text = field.ty := (known field List.mem_cons_self).ofText_text
    refine ⟨(field.name, shape) :: shapes, ?_, ?_⟩
    · rw [HaveShapes]
      exact ⟨field, fields, rfl, rfl, ofText ▸ hasShape, haveShapes⟩
    · rw [Shape.canonicalFields, isCanonical, areCanonical]
      exact congrArg (· :: others) (Prod.ext sameName rfl)

theorem HaveShapes.names_eq {shapes : List (String × Shape)} {fields : List Field}
    (haveShapes : HaveShapes interfaces shapes fields) :
    shapes.map (·.1) = fields.map (·.name) := by
  rw [haveShapes_iff] at haveShapes
  induction haveShapes with
  | nil => rfl
  | cons first _ inductionHypothesis =>
    rw [List.map_cons, List.map_cons, inductionHypothesis, first.1]

/-- The name of an interface has the shape that the types of its fields have. -/
theorem Shaped.hasShape (wellFormed : WellFormed reserved interfaces)
    (plain : PlainNames interfaces) {fields : List Field} {name : String}
    (shaped : Shaped interfaces fields name) {shapes : List (String × Shape)}
    (stand : List.Forall₂ (Stands interfaces) (fields.map Field.written)
      (Shape.canonicalFields shapes)) :
    ∃ shape, HasShape interfaces shape (Ty.ofText name) ∧
      shape.canonical = (Shape.record shapes).canonical := by
  obtain ⟨interface, member, rfl, sameSignature⟩ := shaped
  obtain ⟨earlier, front, fits⟩ := wellFormed.fits_of_mem member
  have perm : (interface.fields.map Field.written).Perm (fields.map Field.written) :=
    inOrder_pairLe_eq_iff.mp sameSignature
  obtain ⟨canonical, standing, permCanonical⟩ := List.perm_comp_forall₂ perm stand
  obtain ⟨others, haveShapes, rfl⟩ := haveShapes_of_stand
    (fun field isField => (fits.fieldsKnown field isField).mono front) standing
  have found : findInterface? interfaces interface.name = some interface :=
    wellFormed.findInterface?_eq_some_iff.mpr ⟨member, rfl⟩
  have named := plain interface member
  refine ⟨.record others, ?_, ?_⟩
  · rw [named.ofText]
    exact (hasShape_record named.ne_bigintName found).mpr ⟨others, rfl, haveShapes⟩
  · refine (Shape.canonical_record_eq_iff ?_).mpr permCanonical
    rw [haveShapes.names_eq]
    exact fits.fieldsDistinct

/-- The fields for parameters stand beside the shapes of the parameters. -/
theorem FieldsHaveTypes.stand_cons {parameter : Parameter} {parameters : List Parameter}
    {name : String} {names : List String} {ty : Ty} {rest : List Field} {shape : Shape}
    {shapes : List (String × Shape)} (known : Known interfaces ty)
    (isShape : parameter.shape? = some shape)
    (areShapes : namedShapes? parameters names = some shapes)
    (hasShape : ∃ other, HasShape interfaces other ty ∧ other.canonical = shape.canonical)
    (stand : List.Forall₂ (Stands interfaces) (rest.map Field.written)
      (Shape.canonicalFields shapes)) :
    ∃ shapes, namedShapes? (parameter :: parameters) (name :: names) = some shapes ∧
      List.Forall₂ (Stands interfaces) ((⟨name, ty, false⟩ :: rest).map Field.written)
        (Shape.canonicalFields shapes) := by
  obtain ⟨other, hasShape, alike⟩ := hasShape
  refine ⟨(name, shape) :: shapes, ?_, ?_⟩
  · rw [namedShapes?, isShape, areShapes]
    rfl
  · rw [List.map_cons, Shape.canonicalFields]
    refine .cons ⟨rfl, other, ?_, alike⟩ stand
    rw [Field.written, known.ofText_text]
    exact hasShape

end

mutual

/-- A type that stands for a parameter has the shape of the parameter. -/
theorem Parameter.HasTy.hasShape {reserved : List String} {interfaces : List Interface}
    (wellFormed : WellFormed reserved interfaces) (plain : PlainNames interfaces) :
    ∀ {parameter : Parameter} {ty : Ty}, parameter.HasTy interfaces ty →
      ∃ shape, parameter.shape? = some shape ∧
        ∃ other, HasShape interfaces other ty ∧ other.canonical = shape.canonical
  | ⟨name, text, internalType, components⟩, ty, hasTy => by
    rw [Parameter.HasTy] at hasTy
    obtain ⟨tag, parsed, rest⟩ := hasTy
    cases primitive : tag.base.primitive? with
    | some base =>
      simp only [primitive] at rest
      subst rest
      obtain ⟨isPrimitive, noArray⟩ := BaseType.primitive?_eq_some primitive
      have leaf : HasShape interfaces (.primitive base.base) base := by
        obtain ⟨name, rank⟩ := base
        cases noArray
        exact (hasShape_leaf (.inr (plain.findInterface?_primitive isPrimitive))).mpr rfl
      exact ⟨_, by simp only [Parameter.shape?, parsed, primitive], _, leaf.arrays _, rfl⟩
    | none =>
      simp only [primitive] at rest
      obtain ⟨struct, hasName, rfl⟩ := rest
      obtain ⟨shape, isShape, other, hasShape, alike⟩ := hasName.hasShape wellFormed plain
      refine ⟨shape.arrays tag.dimensions.length, ?_, _, hasShape.arrays _, ?_⟩
      · simp only [Parameter.shape?, parsed, primitive, isShape, Option.map_some]
      · rw [Shape.canonical_arrays, Shape.canonical_arrays, alike]

theorem ComponentsHaveName.hasShape {reserved : List String} {interfaces : List Interface}
    (wellFormed : WellFormed reserved interfaces) (plain : PlainNames interfaces) :
    ∀ {components : Option (List Parameter)} {name : String},
      ComponentsHaveName interfaces components name →
        ∃ shape, componentsShape? components = some shape ∧
          ∃ other, HasShape interfaces other (Ty.ofText name) ∧ other.canonical = shape.canonical
  | none, name, hasName => by
    rw [ComponentsHaveName] at hasName
    exact hasName.elim
  | some components, name, hasName => by
    rw [ComponentsHaveName] at hasName
    obtain ⟨fields, haveTypes, shaped⟩ := hasName
    obtain ⟨shapes, areShapes, stand⟩ := haveTypes.stand wellFormed plain
    refine ⟨.record shapes, ?_, shaped.hasShape wellFormed plain stand⟩
    rw [componentsShape?, areShapes, Option.map_some]

theorem FieldsHaveTypes.stand {reserved : List String} {interfaces : List Interface}
    (wellFormed : WellFormed reserved interfaces) (plain : PlainNames interfaces) :
    ∀ {parameters : List Parameter} {names : List String} {fields : List Field},
      FieldsHaveTypes interfaces parameters names fields →
        ∃ shapes, namedShapes? parameters names = some shapes ∧
          List.Forall₂ (Stands interfaces) (fields.map Field.written)
            (Shape.canonicalFields shapes)
  | [], _, fields, haveTypes => by
    rw [FieldsHaveTypes] at haveTypes
    · subst haveTypes
      exact ⟨[], by simp [namedShapes?], .nil⟩
    · simp
  | _ :: _, [], fields, haveTypes => by
    rw [FieldsHaveTypes] at haveTypes
    · subst haveTypes
      exact ⟨[], by simp [namedShapes?], .nil⟩
    · simp
  | parameter :: parameters, name :: names, fields, haveTypes => by
    rw [FieldsHaveTypes] at haveTypes
    obtain ⟨ty, rest, rfl, hasTy, others⟩ := haveTypes
    obtain ⟨shape, isShape, hasShape⟩ := hasTy.hasShape wellFormed plain
    obtain ⟨shapes, areShapes, stand⟩ := others.stand wellFormed plain
    exact FieldsHaveTypes.stand_cons hasTy.known isShape areShapes hasShape stand

end

/-! ### From shapes to types -/

section

variable {reserved : List String} {interfaces : List Interface}

/-- The name of a field and its type. -/
def Field.typed (field : Field) : String × Ty :=
  (field.name, field.ty)

/-- The name of a field and a shape, beside the name of a field and a type: the names are the
same, and the type has a shape that is canonically that shape. -/
def Types (interfaces : List Interface) (named : String × Shape) (typed : String × Ty) : Prop :=
  typed.1 = named.1 ∧ ∃ shape, HasShape interfaces shape typed.2 ∧ shape.canonical = named.2

theorem HaveShapes.types {shapes : List (String × Shape)} {fields : List Field}
    (haveShapes : HaveShapes interfaces shapes fields) :
    List.Forall₂ (Types interfaces) (Shape.canonicalFields shapes) (fields.map Field.typed) := by
  rw [haveShapes_iff] at haveShapes
  induction haveShapes with
  | nil => exact .nil
  | cons first _ inductionHypothesis =>
    exact .cons ⟨first.1, _, first.2, rfl⟩ inductionHypothesis

/-- Where types of the shapes of fields are the only ones of such shapes, the types that belong to
the canonical forms of the shapes are those of the fields. -/
theorem HaveShapes.typed_eq {shapes : List (String × Shape)} {fields : List Field}
    (only : ∀ named ∈ shapes, ∀ other ty otherTy, HasShape interfaces named.2 ty →
      HasShape interfaces other otherTy → named.2.canonical = other.canonical → ty = otherTy)
    (haveShapes : HaveShapes interfaces shapes fields) {typed : List (String × Ty)}
    (types : List.Forall₂ (Types interfaces) (Shape.canonicalFields shapes) typed) :
    fields.map Field.typed = typed := by
  rw [haveShapes_iff] at haveShapes
  induction haveShapes generalizing typed with
  | nil => exact (List.forall₂_nil_left_iff.mp types).symm
  | @cons named field shapes fields first _ inductionHypothesis =>
    rw [Shape.canonicalFields, List.forall₂_cons_left_iff] at types
    obtain ⟨⟨name, ty⟩, others, ⟨sameName, shape, hasShape, alike⟩, types, rfl⟩ := types
    have sameTy : field.ty = ty :=
      only named List.mem_cons_self shape field.ty ty first.2 hasShape alike.symm
    have same : field.typed = (name, ty) :=
      Prod.ext (first.1.trans sameName.symm) sameTy
    rw [List.map_cons, same,
      inductionHypothesis (fun named member => only named (List.mem_cons_of_mem _ member)) types]

/-- Interfaces of the same shape, up to the order of fields, have one signature, where the types of
the fields of one of them are the only ones of their shapes. -/
theorem HaveShapes.signature_eq {shapes others : List (String × Shape)}
    {interface other : Interface}
    (only : ∀ named ∈ shapes, ∀ other ty otherTy, HasShape interfaces named.2 ty →
      HasShape interfaces other otherTy → named.2.canonical = other.canonical → ty = otherTy)
    (haveShapes : HaveShapes interfaces shapes interface.fields)
    (otherShapes : HaveShapes interfaces others other.fields)
    (alike : (Shape.record shapes).canonical = (Shape.record others).canonical) :
    interface.signature = other.signature := by
  rw [Shape.canonical, Shape.canonical, Shape.record.injEq] at alike
  obtain ⟨typed, types, permTyped⟩ :=
    List.perm_comp_forall₂ (perm_of_inOrder_eq alike) otherShapes.types
  have perm : (interface.fields.map Field.typed).Perm (other.fields.map Field.typed) := by
    rw [haveShapes.typed_eq only types]
    exact permTyped
  have permWritten := perm.map fun typed => (typed.1, typed.2.text)
  rw [List.map_map, List.map_map] at permWritten
  exact inOrder_pairLe_eq_iff.mpr permWritten

/-- Types of the same shape, up to the order of fields, are one type. -/
theorem HasShape.eq_of_alike (wellFormed : WellFormed reserved interfaces) {first second : Shape}
    {firstTy secondTy : Ty} (isFirst : HasShape interfaces first firstTy)
    (isSecond : HasShape interfaces second secondTy) (alike : first.canonical = second.canonical) :
    firstTy = secondTy := by
  induction first generalizing second firstTy secondTy with
  | primitive name =>
    cases second with
    | primitive other =>
      rw [Shape.canonical, Shape.canonical, Shape.primitive.injEq] at alike
      rw [HasShape] at isFirst isSecond
      rw [isFirst.1, isSecond.1, alike]
    | array item => simp [Shape.canonical] at alike
    | record shapes => simp [Shape.canonical] at alike
  | array item inductionHypothesis =>
    cases second with
    | primitive other => simp [Shape.canonical] at alike
    | array other =>
      rw [Shape.canonical, Shape.canonical, Shape.array.injEq] at alike
      rw [HasShape] at isFirst isSecond
      obtain ⟨rank, dimensions, hasShape⟩ := isFirst
      obtain ⟨otherRank, otherDimensions, otherShape⟩ := isSecond
      have same := inductionHypothesis hasShape otherShape alike
      rw [Ty.mk.injEq] at same
      obtain ⟨firstBase, firstRank⟩ := firstTy
      obtain ⟨secondBase, secondRank⟩ := secondTy
      simp only at same dimensions otherDimensions
      rw [same.1, dimensions, otherDimensions, same.2]
    | record shapes => simp [Shape.canonical] at alike
  | record shapes inductionHypothesis =>
    cases second with
    | primitive other => simp [Shape.canonical] at alike
    | array other => simp [Shape.canonical] at alike
    | record others =>
      obtain ⟨firstBase, firstRank⟩ := firstTy
      obtain ⟨secondBase, secondRank⟩ := secondTy
      rw [HasShape] at isFirst isSecond
      obtain ⟨rfl, _, interface, found, haveShapes⟩ := isFirst
      obtain ⟨rfl, _, other, otherFound, otherShapes⟩ := isSecond
      obtain ⟨member, named⟩ := wellFormed.findInterface?_eq_some_iff.mp found
      obtain ⟨otherMember, otherNamed⟩ := wellFormed.findInterface?_eq_some_iff.mp otherFound
      have sameSignature : interface.signature = other.signature :=
        haveShapes.signature_eq
          (fun named member _ _ _ isNamed isOther alike =>
            inductionHypothesis named member isNamed isOther alike) otherShapes alike
      cases wellFormed.eq_of_signature member otherMember sameSignature
      simp only at named otherNamed
      rw [← named, ← otherNamed]

end

/-! ### Runs -/

section

variable {reserved : List String} {interfaces : List Interface}

/-- The text that stands for a subject writes a type of the shape of the subject. -/
theorem Subject.HasText.hasShape (wellFormed : WellFormed reserved interfaces)
    (plain : PlainNames interfaces) {subject : Subject} {text : String}
    (hasText : subject.HasText interfaces text) :
    ∃ shape, subject.shape? = some shape ∧
      ∃ other, HasShape interfaces other (Ty.ofText text) ∧ other.canonical = shape.canonical := by
  cases subject with
  | parameter asked =>
    obtain ⟨ty, hasTy, rfl⟩ := hasText
    rw [hasTy.known.ofText_text]
    exact hasTy.hasShape wellFormed plain
  | struct components => exact ComponentsHaveName.hasShape wellFormed plain hasText
  | result outputs =>
    obtain ⟨fields, haveTypes, shaped⟩ := hasText
    obtain ⟨shapes, areShapes, stand⟩ := haveTypes.stand wellFormed plain
    refine ⟨.record shapes, ?_, shaped.hasShape wellFormed plain stand⟩
    rw [Subject.shape?, areShapes, Option.map_some]

/-- Where only plain names are asked for, only plain names are given. -/
theorem Log.plainNames {start after : Registry} {events : List Event}
    (log : Log start after events) (fresh : start.interfaces = [])
    (plain : ∀ name ∈ requestedNames events, PlainName name) : PlainNames after.interfaces := by
  intro interface member
  rcases log.named interface member with before | ⟨requested, taken, event, same⟩
  · rw [fresh] at before
    cases before
  · rw [same]
    exact plainName_freeName (plain requested (mem_requestedNames.mpr event)) taken

end

/-- In the run of the calls, a text that is given for a subject writes a type of the shape of the
subject in every list of interfaces that the run comes to from then on; and texts that are given
are the same exactly if the shapes of their subjects are, up to the order of fields. -/
structure TextsTellShapes (start : Registry) (calls : List Call) : Prop where
  hasShape : ∀ subject text interfaces, .given subject text interfaces ∈ runEvents calls start →
    ∃ shape, subject.shape? = some shape ∧
      ∀ later, interfaces <+: later → later <+: (runCalls calls start).interfaces →
        ∃ other, HasShape later other (Ty.ofText text) ∧ other.canonical = shape.canonical
  shared : ∀ subject text interfaces other otherText otherInterfaces,
    .given subject text interfaces ∈ runEvents calls start →
      .given other otherText otherInterfaces ∈ runEvents calls start →
        (text = otherText ↔
          subject.shape?.map Shape.canonical = other.shape?.map Shape.canonical)

/-- Texts tell shapes in every run on a registry that starts without interfaces, in which only
plain names are asked for. -/
theorem runEvents_share_texts (levels : Nat) (reserved : List String) (resultSuffix : String)
    (contract : Json) (collector : Collector) (calls : List Call)
    (plain : ∀ name ∈ requestedNames (runEvents calls
      (Registry.freshWithin levels reserved resultSuffix contract collector)), PlainName name) :
    TextsTellShapes (Registry.freshWithin levels reserved resultSuffix contract collector)
      calls := by
  have soundStart := Registry.freshWithin_sound levels reserved resultSuffix contract collector
  generalize starts : Registry.freshWithin levels reserved resultSuffix contract collector = start
    at plain soundStart
  have wellFormed := (runCalls_sound calls soundStart).1.wellFormed
  have log := runEvents_log calls soundStart
  have plainFinal := log.plainNames (starts ▸ rfl) plain
  have expands : ∀ subject text interfaces, .given subject text interfaces ∈ runEvents calls start →
      ∀ later, interfaces <+: later → later <+: (runCalls calls start).interfaces →
        ∃ shape, subject.shape? = some shape ∧
          ∃ other, HasShape later other (Ty.ofText text) ∧ other.canonical = shape.canonical := by
    intro subject text interfaces event later grown front
    obtain ⟨_, hasText⟩ := log.given subject text interfaces event
    exact (hasText.mono grown.subset).hasShape (wellFormed.front front)
      fun interface member => plainFinal interface (front.subset member)
  constructor
  case hasShape =>
    intro subject text interfaces event
    have front := (log.given subject text interfaces event).1
    obtain ⟨shape, isShape, _⟩ :=
      expands subject text interfaces event interfaces (List.prefix_refl _) front
    refine ⟨shape, isShape, fun later grown front => ?_⟩
    obtain ⟨same, isSame, hasShape⟩ := expands subject text interfaces event later grown front
    cases Option.some.inj (isShape.symm.trans isSame)
    exact hasShape
  case shared =>
    intro subject text interfaces other otherText otherInterfaces event otherEvent
    have front := (log.given subject text interfaces event).1
    have otherFront := (log.given other otherText otherInterfaces otherEvent).1
    obtain ⟨shape, isShape, expanded, hasShape, alike⟩ :=
      expands subject text interfaces event _ front (List.prefix_refl _)
    obtain ⟨otherShape, isOther, otherExpanded, hasOther, otherAlike⟩ :=
      expands other otherText otherInterfaces otherEvent _ otherFront (List.prefix_refl _)
    rw [isShape, isOther, Option.map_some, Option.map_some, Option.some.injEq]
    constructor
    · rintro rfl
      rw [← alike, ← otherAlike, hasShape.unique hasOther]
    · intro same
      have sameTy := hasShape.eq_of_alike wellFormed hasOther
        (alike.trans (same.trans otherAlike.symm))
      rw [← Ty.text_ofText text, ← Ty.text_ofText otherText, sameTy]

/-- Two structs of other names, widths and orders of fields ask for plain names, and so are told
apart by their shapes alone. -/
theorem runEvents_share_texts_points :
    let point : Parameter := ⟨"p", "tuple", "struct Point",
      some [⟨"x", "uint256", "", none⟩, ⟨"y", "bool", "", none⟩]⟩
    let spot : Parameter := ⟨"q", "tuple[]", "struct Spot[]",
      some [⟨"y", "bool", "", none⟩, ⟨"x", "int8", "", none⟩]⟩
    let start := Registry.freshWithin 196 ["Token"] "Result" .null .absent
    let calls := [.parameter "" point, .parameter "" spot]
    requestedNames (runEvents calls start) = ["Point", "Spot"] ∧ TextsTellShapes start calls := by
  intro point spot start calls
  refine ⟨by decide +kernel, ?_⟩
  exact runEvents_share_texts 196 ["Token"] "Result" .null .absent calls (by decide +kernel)

end ContractClient
