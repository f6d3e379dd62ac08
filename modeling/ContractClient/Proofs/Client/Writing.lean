/-
This file says where the text of a client module has what the module is made of. Every module has a
section of interfaces, which holds each of them (`ClientModule.writes_interface`), and a section for
its class, which holds the lines of each member of the class (`ClientModule.writes_part`). So what
is said of the lines of a method is said of the text.
-/

import ContractClient.Client.ClientModule

namespace ContractClient

/-! ### Parts of texts -/

/-- The text stands in the other one. -/
def StandsIn (part text : String) : Prop :=
  ∃ before after, text = before ++ part ++ after

theorem StandsIn.trans {part middle text : String} (inner : StandsIn part middle)
    (outer : StandsIn middle text) : StandsIn part text := by
  obtain ⟨before, after, rfl⟩ := inner
  obtain ⟨front, back, rfl⟩ := outer
  exact ⟨front ++ before, after ++ back, by simp only [String.append_assoc]⟩

/-- A text that something stands in is not empty. -/
theorem StandsIn.ne_empty {part text : String} (stands : StandsIn part text)
    (filled : part ≠ "") : text ≠ "" := by
  obtain ⟨before, after, rfl⟩ := stands
  intro empty
  obtain ⟨front, -⟩ := String.append_eq_empty_iff.mp empty
  exact filled (String.append_eq_empty_iff.mp front).2

section

variable {separator : String} {rest : List String}

/-- Joined texts end with what the last of them are, joined by themselves. -/
theorem exists_intercalate_last (filled : rest ≠ []) (front : List String) :
    ∃ before, separator.intercalate (front ++ rest) = before ++ separator.intercalate rest := by
  induction front with
  | nil => exact ⟨"", String.empty_append.symm⟩
  | cons first others inductionHypothesis =>
    obtain ⟨before, same⟩ := inductionHypothesis
    obtain ⟨second, later, split⟩ := List.exists_cons_of_ne_nil
      (List.append_ne_nil_of_right_ne_nil others filled)
    refine ⟨first ++ separator ++ before, ?_⟩
    rw [List.cons_append, split, String.intercalate_cons_cons, ← split, same]
    simp only [String.append_assoc]

/-- Joined texts begin with what the first of them are, joined by themselves. -/
theorem exists_intercalate_first (filled : rest ≠ []) (back : List String) :
    ∃ after, separator.intercalate (rest ++ back) = separator.intercalate rest ++ after := by
  induction rest with
  | nil => exact absurd rfl filled
  | cons first others inductionHypothesis =>
    cases others with
    | nil =>
      cases back with
      | nil => exact ⟨"", String.append_empty.symm⟩
      | cons second later =>
        refine ⟨separator ++ separator.intercalate (second :: later), ?_⟩
        rw [List.singleton_append, String.intercalate_cons_cons, String.intercalate_singleton]
        simp only [String.append_assoc]
    | cons second later =>
      obtain ⟨after, same⟩ := inductionHypothesis (List.cons_ne_nil second later)
      refine ⟨after, ?_⟩
      rw [List.cons_append, List.cons_append, String.intercalate_cons_cons, ← List.cons_append,
        same, String.intercalate_cons_cons]
      simp only [String.append_assoc]

/-- Some of the texts that are joined, one behind the other, stand joined in the whole. -/
theorem standsIn_intercalate (filled : rest ≠ []) {texts : List String} (isPart : rest <:+: texts) :
    StandsIn (separator.intercalate rest) (separator.intercalate texts) := by
  obtain ⟨front, back, rfl⟩ := isPart
  obtain ⟨after, ends⟩ := @exists_intercalate_first separator _ filled back
  obtain ⟨before, starts⟩ := @exists_intercalate_last separator (rest ++ back)
    (List.append_ne_nil_of_left_ne_nil filled back) front
  refine ⟨before, after, ?_⟩
  rw [List.append_assoc, starts, ends, String.append_assoc]

theorem standsIn_intercalate_of_mem {part : String} {texts : List String} (isPart : part ∈ texts) :
    StandsIn part (separator.intercalate texts) := by
  obtain ⟨front, back, rfl⟩ := List.append_of_mem isPart
  have one := @standsIn_intercalate separator [part] (List.cons_ne_nil _ _) _
    ⟨front, back, List.append_assoc ..⟩
  rwa [String.intercalate_singleton] at one

end

/-! ### Sections -/

section

variable {module : ClientModule} {style : Style}

/-- A module always has a section of interfaces, as the interface of its contract is there. -/
theorem ClientModule.interfaces_mem_sections (module : ClientModule) (style : Style) :
    renderInterfaces module.interfaces style ∈ module.sections style := by
  have opens : StandsIn ("export interface " ++ contractInfo.name ++ " \x7b")
      (contractInfo.render style) := standsIn_intercalate_of_mem List.mem_cons_self
  have isFirst : StandsIn (contractInfo.render style) (renderInterfaces module.interfaces style) :=
    standsIn_intercalate_of_mem (List.mem_map_of_mem List.mem_cons_self)
  have filled := (opens.trans isFirst).ne_empty (by decide)
  exact List.mem_filter.mpr ⟨.tail _ (.tail _ (.head _)), bne_iff_ne.mpr filled⟩

/-- A module always has a section for its class. -/
theorem ClientModule.client_mem_sections (module : ClientModule) (style : Style) :
    module.client.render style ∈ module.sections style := by
  have opens : StandsIn "export default class " (module.client.render style) := by
    refine ⟨"", module.client.name ++ (" \x7b\n" ++ ("\n\n".intercalate
      (module.client.parts.map (renderLines style.indentUnit 1)) ++ "\n\x7d")), ?_⟩
    unfold ClientClass.render
    rw [String.empty_append]
    simp only [String.append_assoc]
  have filled := opens.ne_empty (by decide)
  exact List.mem_filter.mpr ⟨.tail _ (.tail _ (.tail _ (.head _))), bne_iff_ne.mpr filled⟩

/-- The module has the text in one of its sections. -/
def ClientModule.Writes (module : ClientModule) (style : Style) (part : String) : Prop :=
  ∃ whole ∈ module.sections style, StandsIn part whole

/-- What stands in a section stands in the text of the module. -/
theorem ClientModule.Writes.standsIn {part : String} (writes : module.Writes style part) :
    StandsIn part (module.render style) := by
  obtain ⟨whole, isSection, stands⟩ := writes
  have inSections : StandsIn part ("\n\n".intercalate (module.sections style)) :=
    stands.trans (standsIn_intercalate_of_mem isSection)
  exact inSections.trans ⟨"", "\n", by rw [String.empty_append, ClientModule.render]⟩

/-- A module writes its interfaces. -/
theorem ClientModule.writes_interface {interface : Interface}
    (member : interface ∈ contractInfo :: module.interfaces) :
    module.Writes style (interface.render style) :=
  ⟨_, module.interfaces_mem_sections style,
    standsIn_intercalate_of_mem (List.mem_map_of_mem member)⟩

/-- A module writes all lines of a member of its class that follow one another. -/
theorem ClientModule.writes_lines {part lines : List Line} (member : part ∈ module.client.parts)
    (filled : lines ≠ []) (isPart : lines <:+: part) :
    module.Writes style (renderLines style.indentUnit 1 lines) := by
  refine ⟨_, module.client_mem_sections style, ?_⟩
  have inPart : StandsIn (renderLines style.indentUnit 1 lines)
      (renderLines style.indentUnit 1 part) :=
    standsIn_intercalate (by simpa using filled) (isPart.map _)
  have inParts : StandsIn (renderLines style.indentUnit 1 part)
      ("\n\n".intercalate (module.client.parts.map (renderLines style.indentUnit 1))) :=
    standsIn_intercalate_of_mem (List.mem_map_of_mem member)
  exact (inPart.trans inParts).trans ⟨_, "\n\x7d", rfl⟩

/-- A member of a class has lines. -/
theorem ClientClass.ne_nil_of_mem_parts {client : ClientClass} {part : List Line}
    (member : part ∈ client.parts) : part ≠ [] := by
  rcases List.mem_append.mp member with others | isDeploy
  · rcases List.mem_append.mp others with isFixed | isMethod
    · have filled : ∀ fixed ∈ [fieldLines, constructorLines, checkLines, balanceLines],
          fixed.isEmpty = false := by decide
      exact List.isEmpty_eq_false_iff.mp (filled part isFixed)
    · obtain ⟨method, -, rfl⟩ := List.mem_map.mp isMethod
      exact List.cons_ne_nil _ _
  · rw [List.mem_singleton.mp isDeploy]
    exact List.cons_ne_nil _ _

/-- A module writes the members of its class. -/
theorem ClientModule.writes_part {part : List Line} (member : part ∈ module.client.parts) :
    module.Writes style (renderLines style.indentUnit 1 part) :=
  module.writes_lines member (ClientClass.ne_nil_of_mem_parts member) List.infix_rfl

variable {method : Method}

theorem ClientClass.lines_mem_parts {client : ClientClass} (isMethod : method ∈ client.methods) :
    method.lines ∈ client.parts :=
  List.mem_append_left _ (List.mem_append_right _ (List.mem_map_of_mem isMethod))

/-- A module writes the lines of its queries that call the function and give the answer back. -/
theorem ClientModule.writes_answer {answer : Answer} (isMethod : method ∈ module.client.methods)
    (called : method.call = .query answer) :
    module.Writes style (renderLines style.indentUnit 1
      (answer.lines ("await " ++ method.invocation ++ ".call(" ++ optionsName ++ ");"))) := by
  have isPart : method.callLines <:+: method.lines := ⟨_, _, rfl⟩
  simp only [Method.callLines, called] at isPart
  refine module.writes_lines (ClientClass.lines_mem_parts isMethod) ?_ isPart
  cases answer <;> exact List.cons_ne_nil _ _

end

end ContractClient
