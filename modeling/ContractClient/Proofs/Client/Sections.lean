/-
This file says how the sections of a client module are laid out. A section is put together from
lines that are not empty, with an empty line between any two interfaces and between any two members
of the class; so no two lines of it in a row are empty, unless what is brought in has a gap itself.

What is brought in are names, types, rebuilt values and functions that are called. Each of them
stands on one line, with one exception: a function that is found by its signature is written with
the types of its inputs as they are given. So a class has the gaps of its accessors, and no other
section has any (`ClientModule.render_isLaidOut`).
-/

import ContractClient.Proofs.Client.Writing
import ContractClient.Proofs.Json.DisplayLines

namespace ContractClient

/-! ### Indented lines -/

section

variable {unit : Json} {lines : List Line}

theorem Line.render_laidOut (isOne : OneLine unit.display) (level : Int) {line : Line}
    (framed : Framed line.text) : LaidOut (line.render unit level) (HasGap line.text) := by
  have filled : line.text ≠ "" := by
    rintro none
    obtain ⟨first, rest, same, _⟩ := framed.starts
    cases none ▸ same
  rw [Line.render, if_neg (by simpa using filled), ← @String.append_empty (_ ++ line.text)]
  exact framed.laidOut.surround (oneLine_indentation isOne _) (by decide)

theorem renderLines_laidOut (isOne : OneLine unit.display) (level : Int) (filled : lines ≠ [])
    (framed : ∀ line ∈ lines, Framed line.text) :
    LaidOut (renderLines unit level lines) (∃ line ∈ lines, HasGap line.text) :=
  .intercalate (by decide) filled fun line isLine => line.render_laidOut isOne level
    (framed line isLine)

end

/-! ### Methods -/

/-- The values that the answer gives back bring no line break along. -/
def Answer.IsPlain : Answer → Prop
  | .nothing => True
  | .value _ rebuilt => OneLine rebuilt.text
  | .record _ fields => ∀ field ∈ fields, OneLine field.1 ∧ OneLine field.2.text

/-- What a call gives back brings no line break along. -/
def CallKind.IsPlain : CallKind → Prop
  | .query answer => OneLine answer.typeText ∧ answer.IsPlain
  | .transaction => True

/-- Nothing that the method brings into its lines has a line break, apart from the signature of its
function. -/
structure Method.IsPlain (method : Method) : Prop where
  name : OneLine method.name
  arguments : ∀ argument ∈ method.arguments, OneLine argument.text
  accessor : Framed method.accessor.text
  call : method.call.IsPlain

theorem oneLine_passedNames {arguments : List Argument}
    (plain : ∀ argument ∈ arguments, OneLine argument.text) : OneLine (passedNames arguments) := by
  refine .intercalate (by decide) (List.forall_mem_map.mpr fun argument isArgument => ?_)
  have isOne := plain argument isArgument
  rw [Argument.text, oneLine_append_iff, oneLine_append_iff] at isOne
  exact isOne.1.1

theorem oneLine_declaredArguments {arguments : List Argument} {options : String}
    (plain : ∀ argument ∈ arguments, OneLine argument.text) (isOne : OneLine options) :
    OneLine (declaredArguments arguments options) := by
  refine .intercalate (by decide) (List.forall_mem_append.mpr ⟨?_, ?_⟩)
  · exact List.forall_mem_map.mpr plain
  · exact List.forall_mem_singleton.mpr isOne

section

variable {method : Method}

theorem Method.IsPlain.heading (plain : method.IsPlain) : IsLine method.heading := by
  have name := plain.name
  have call := plain.call
  unfold Method.heading
  split
  · rename_i answer called
    rw [called] at call
    refine IsLine.append_left (by decide) (OneLine.append (OneLine.append ?_ (by decide)) call.1)
    exact (name.append (by decide)).append (oneLine_declaredArguments plain.arguments (by decide))
  · refine IsLine.append_left (by decide) ?_
    exact (name.append (by decide)).append (oneLine_declaredArguments plain.arguments (by decide))

/-- The call of a function has the gaps of its accessor, whatever stands around it. -/
theorem Method.IsPlain.invocation (plain : method.IsPlain) {front back : String}
    (isFront : OneLine front) (isBack : OneLine back) :
    LaidOut (front ++ method.invocation ++ back) (HasGap method.accessor.text) := by
  have surrounded := plain.accessor.laidOut.surround (by decide : OneLine "this.contract!.methods")
    (((by decide : OneLine "(").append (oneLine_passedNames plain.arguments)).append
      (by decide : OneLine ")"))
  rw [← String.append_assoc, ← String.append_assoc] at surrounded
  exact LaidOut.surround surrounded isFront isBack

/-- An answer is written as the line of the call and lines of its own. -/
theorem Answer.lines_cases {answer : Answer} (plain : answer.IsPlain) (call : String) :
    ∃ front rest, OneLine front ∧ answer.lines call = ⟨1, front ++ call⟩ :: rest ∧
      ∀ line ∈ rest, IsLine line.text := by
  cases answer with
  | nothing => exact ⟨"", [], by decide, by rw [lines, String.empty_append], fun _ => nofun⟩
  | value ty rebuilt =>
    refine ⟨"const result = ", _, by decide, rfl, List.forall_mem_singleton.mpr ?_⟩
    exact IsLine.append_left (by decide) ((by decide : OneLine "return ").append plain)
  | record shape fields =>
    refine ⟨"const resultArr: any = ", _, by decide, rfl, ?_⟩
    refine List.forall_mem_cons.mpr ⟨by decide, List.forall_mem_append.mpr ⟨?_, ?_⟩⟩
    · refine List.forall_mem_map.mpr fun field isField => IsLine.append_left (by decide) ?_
      exact ((plain field isField).1.append (by decide)).append (plain field isField).2
    · exact List.forall_mem_singleton.mpr (by decide)

/-- One line of a method calls its function. -/
theorem Method.IsPlain.callLines (plain : method.IsPlain) :
    ∃ first rest, method.callLines = first :: rest ∧
      LaidOut first.text (HasGap method.accessor.text) ∧ ∀ line ∈ rest, IsLine line.text := by
  have call := plain.call
  unfold Method.callLines
  split
  · rename_i answer called
    rw [called] at call
    obtain ⟨front, rest, isFront, same, areLines⟩ := Answer.lines_cases call.2
      ("await " ++ method.invocation ++ ".call(" ++ optionsName ++ ");")
    refine ⟨_, rest, same, ?_, areLines⟩
    have laidOut := plain.invocation (isFront.append (by decide : OneLine "await "))
      (by decide : OneLine (".call(" ++ optionsName ++ ");"))
    simpa only [String.append_assoc] using laidOut
  · refine ⟨_, [], rfl, ?_, fun _ => nofun⟩
    have laidOut := plain.invocation (by decide : OneLine "return ")
      (by decide : OneLine (".send(" ++ optionsName ++ ");"))
    simpa only [String.append_assoc] using laidOut

/-- A method has the gaps of its accessor. -/
theorem Method.IsPlain.lines (plain : method.IsPlain) :
    (∀ line ∈ method.lines, Framed line.text) ∧
      ((∃ line ∈ method.lines, HasGap line.text) ↔ HasGap method.accessor.text) := by
  obtain ⟨first, rest, same, laidOut, areLines⟩ := plain.callLines
  have others : ∀ line ∈ [⟨0, method.heading⟩, ⟨1, "this.checkInitialized();"⟩] ++ rest ++
      [⟨0, "\x7d;"⟩], IsLine line.text := by
    simp only [List.forall_mem_append, List.forall_mem_cons]
    exact ⟨⟨⟨plain.heading, by decide, fun _ => nofun⟩, areLines⟩, by decide, fun _ => nofun⟩
  have perm : method.lines.Perm (first :: ([⟨0, method.heading⟩,
      ⟨1, "this.checkInitialized();"⟩] ++ rest ++ [⟨0, "\x7d;"⟩])) := by
    rw [Method.lines, same, List.append_assoc, List.append_assoc]
    exact List.perm_middle
  constructor
  · intro line isLine
    rcases List.mem_cons.mp (perm.mem_iff.mp isLine) with rfl | isOther
    · exact laidOut.framed
    · exact (others line isOther).framed
  · simp only [perm.mem_iff, List.exists_mem_cons_iff, laidOut.hasGap_iff]
    exact or_iff_left fun ⟨line, isOther, gap⟩ => (others line isOther).oneLine.not_hasGap gap

end

/-! ### The class -/

/-- Nothing that a class brings into its lines has a line break, apart from the signatures of
functions. -/
structure ClientClass.IsPlain (client : ClientClass) : Prop where
  name : OneLine client.name
  methods : ∀ method ∈ client.methods, method.IsPlain
  deploy : ∀ argument ∈ client.deployArguments, OneLine argument.text

/-- The members that every class has are written in lines that are not empty. -/
theorem commonLines_areLines :
    ∀ lines ∈ [fieldLines, constructorLines, checkLines, balanceLines],
      lines ≠ [] ∧ ∀ line ∈ lines, IsLine line.text := by
  have heading : IsLine ("constructor(web3: Web3, contractInfo?: " ++ contractInfoName ++
      ") \x7b") := by
    decide
  simp only [fieldLines, constructorLines, checkLines, balanceLines, List.forall_mem_cons, heading,
    true_and]
  repeat' apply And.intro
  all_goals first
    | exact isLine_ofList (by decide)
    | exact List.cons_ne_nil _ _
    | exact fun _ none => (List.not_mem_nil none).elim

theorem deployLines_areLines {arguments : List Argument}
    (plain : ∀ argument ∈ arguments, OneLine argument.text) :
    ∀ line ∈ deployLines arguments, IsLine line.text := by
  have heading : IsLine ("deploy = async (" ++
      declaredArguments arguments (optionsName ++ ": SendOptions") ++
      "): Promise<Contract> => \x7b") :=
    .append_left (isLine_ofList (by decide)) ((isLine_ofList (by decide)).oneLine.append
      (oneLine_declaredArguments plain (by decide)))
  have data : OneLine (deployData arguments) := by
    unfold deployData
    split
    · exact (isLine_ofList (by decide)).oneLine
    · exact ((isLine_ofList (by decide)).oneLine.append (oneLine_passedNames plain)).append
        (by decide)
  have call : IsLine (".deploy(" ++ deployData arguments ++ ")") :=
    .append_left (by decide) (OneLine.append (by decide) data)
  have sends : IsLine (".send(" ++ optionsName ++ ");") := by
    decide
  simp only [deployLines, List.forall_mem_cons, heading, call, sends, true_and]
  repeat' apply And.intro
  all_goals first
    | exact isLine_ofList (by decide)
    | exact fun _ none => (List.not_mem_nil none).elim

/-- A text between braces on lines of their own. -/
theorem frame_eq_intercalate (front middle : String) :
    front ++ " \x7b\n" ++ middle ++ "\n\x7d" =
      "\n".intercalate [front ++ " \x7b", middle, "\x7d"] := by
  rw [← String.toList_inj]
  simp [String.intercalate_cons_cons, String.toList_append]

theorem ClientClass.render_eq_intercalate (client : ClientClass) (style : Style) :
    client.render style = "\n".intercalate ["export default class " ++ client.name ++ " \x7b",
      "\n\n".intercalate (client.parts.map (renderLines style.indentUnit 1)), "\x7d"] :=
  frame_eq_intercalate _ _

section

variable {client : ClientClass} {style : Style}

/-- Every member of a class has lines, and they have the gaps of the accessors. -/
theorem ClientClass.IsPlain.parts (plain : client.IsPlain) :
    (∀ lines ∈ client.parts, lines ≠ [] ∧ ∀ line ∈ lines, Framed line.text) ∧
      ((∃ lines ∈ client.parts, ∃ line ∈ lines, HasGap line.text) ↔
        ∃ method ∈ client.methods, HasGap method.accessor.text) := by
  have deploy := deployLines_areLines plain.deploy
  constructor
  · rw [ClientClass.parts, List.forall_mem_append, List.forall_mem_append, List.forall_mem_map,
      List.forall_mem_singleton]
    refine ⟨⟨fun lines isCommon => ?_, fun method isMethod => ?_⟩, List.cons_ne_nil _ _, ?_⟩
    · have areLines := commonLines_areLines lines isCommon
      exact ⟨areLines.1, fun line isLine => (areLines.2 line isLine).framed⟩
    · exact ⟨List.cons_ne_nil _ _, (plain.methods method isMethod).lines.1⟩
    · exact fun line isLine => (deploy line isLine).framed
  · rw [ClientClass.parts]
    simp only [List.mem_append, List.mem_map, List.mem_singleton, or_and_right, exists_or,
      exists_exists_and_eq_and, exists_eq_left]
    rw [or_iff_left, or_iff_right]
    · refine exists_congr fun method => and_congr_right fun isMethod => ?_
      exact (plain.methods method isMethod).lines.2
    · rintro ⟨lines, isCommon, line, isLine, gap⟩
      exact ((commonLines_areLines lines isCommon).2 line isLine).oneLine.not_hasGap gap
    · rintro ⟨line, isLine, gap⟩
      exact (deploy line isLine).oneLine.not_hasGap gap

/-- A class has the gaps of the accessors of its methods. -/
theorem ClientClass.IsPlain.render_laidOut (plain : client.IsPlain)
    (isOne : OneLine style.indentUnit.display) :
    LaidOut (client.render style) (∃ method ∈ client.methods, HasGap method.accessor.text) := by
  obtain ⟨framed, gaps⟩ := plain.parts
  have first : IsLine ("export default class " ++ client.name ++ " \x7b") :=
    .append_left (by decide) ((by decide : OneLine "export default class ").append plain.name)
  have last : IsLine "\x7d" := by decide
  have parts : LaidOut ("\n\n".intercalate (client.parts.map (renderLines style.indentUnit 1))) _ :=
    .intercalate (by decide) (List.cons_ne_nil _ _) fun lines isPart =>
      renderLines_laidOut isOne 1 (framed lines isPart).1 (framed lines isPart).2
  rw [client.render_eq_intercalate style]
  generalize "\n\n".intercalate _ = middle at parts ⊢
  have areFramed : ∀ text ∈ ["export default class " ++ client.name ++ " \x7b", middle, "\x7d"],
      Framed text := by
    simp only [List.forall_mem_cons]
    exact ⟨first.framed, parts.framed, last.framed, fun _ => nofun⟩
  refine ⟨.intercalate (List.cons_ne_nil _ _) areFramed, ?_⟩
  rw [hasGap_intercalate_iff (by decide) areFramed, ← gaps, ← parts.hasGap_iff]
  simp [first.oneLine.not_hasGap, last.oneLine.not_hasGap]

end

/-! ### Imports and interfaces -/

/-- The imports bring no line break along. -/
def Imports.IsPlain (imports : Imports) : Prop :=
  ∀ entry ∈ imports, OneLine entry.1.display ∧ ∀ name ∈ entry.2, OneLine name

/-- Using more names of one line, from a module that is called by one, keeps the imports plain. -/
theorem Imports.IsPlain.use {imports : Imports} (plain : imports.IsPlain) {module : Json}
    (isModule : OneLine module.display) {names : List String}
    (areNames : ∀ name ∈ names, OneLine name) : (imports.use module names).IsPlain := by
  induction imports with
  | nil =>
    refine List.forall_mem_singleton.mpr ⟨isModule, fun name isName => areNames name ?_⟩
    exact (mem_addNames.mp isName).resolve_left List.not_mem_nil
  | cons entry rest inductionHypothesis =>
    obtain ⟨isFirst, others⟩ := List.forall_mem_cons.mp plain
    rw [Imports.use]
    split
    · refine List.forall_mem_cons.mpr ⟨⟨isFirst.1, fun name isName => ?_⟩, others⟩
      exact (mem_addNames.mp isName).elim (isFirst.2 name) (areNames name)
    · exact List.forall_mem_cons.mpr ⟨isFirst, inductionHypothesis others⟩

theorem Imports.IsPlain.useAll {imports : Imports} (plain : imports.IsPlain)
    {uses : List (Json × List String)} (areUses : Imports.IsPlain uses) :
    (imports.useAll uses).IsPlain := by
  induction uses generalizing imports with
  | nil => exact plain
  | cons entry rest inductionHypothesis =>
    obtain ⟨isFirst, others⟩ := List.forall_mem_cons.mp areUses
    exact inductionHypothesis (plain.use isFirst.1 isFirst.2) others

/-- A statement stands on one line. Where anything is imported from a module, its name is that of
an entry. -/
theorem Imports.IsPlain.statement {imports : Imports} (plain : imports.IsPlain) {module : Json}
    {statement : String} (states : imports.statement? module = some statement) :
    IsLine statement := by
  unfold Imports.statement? at states
  split at states
  · cases states
  · rename_i names filled
    obtain rfl := Option.some.inj states
    have isName : ∀ name ∈ imports.names module, OneLine name ∧ OneLine module.display := by
      intro name isName
      obtain ⟨entry, found, isName⟩ := mem_names_iff.mp isName
      have isPlain := plain entry (List.mem_of_find?_eq_some found)
      have same : entry.1.sameName module := by simpa using List.find?_some found
      exact ⟨isPlain.2 name isName, Json.oneLine_display_of_sameName same isPlain.1⟩
    obtain ⟨first, isFirst⟩ := List.exists_mem_of_ne_nil _ filled
    refine .append_left (by decide) (OneLine.append (OneLine.append (OneLine.append (by decide) ?_)
      (by decide)) (isName first isFirst).2)
    exact .intercalate (by decide) fun name isMember => (isName name isMember).1

theorem Imports.IsPlain.render_laidOut {imports : Imports} (plain : imports.IsPlain) {style : Style}
    (web3 : OneLine style.web3Module) : LaidOut (imports.render style) False := by
  refine .lines (List.cons_ne_nil _ _) (List.forall_mem_cons.mpr ⟨?_, fun line isLine => ?_⟩)
  · exact .append_left (by decide) ((by decide : OneLine "import Web3 from '").append web3)
  · obtain ⟨module, _, states⟩ := List.mem_filterMap.mp isLine
    exact plain.statement states

/-- An interface whose name and fields stand on one line each. -/
structure Interface.IsPlain (interface : Interface) : Prop where
  name : OneLine interface.name
  fields : ∀ field ∈ interface.fields, OneLine field.name ∧ OneLine field.ty.text

theorem Interface.IsPlain.render_laidOut {interface : Interface} (plain : interface.IsPlain)
    {style : Style} (isOne : OneLine style.indentUnit.display) :
    LaidOut (interface.render style) False := by
  refine .lines (List.cons_ne_nil _ _) (List.forall_mem_cons.mpr ⟨?_, ?_⟩)
  · exact .append_left (by decide) ((by decide : OneLine "export interface ").append plain.name)
  · refine List.forall_mem_append.mpr ⟨List.forall_mem_map.mpr fun field isField => ?_, ?_⟩
    · obtain ⟨name, ty⟩ := plain.fields field isField
      have isLine : IsLine field.text := by
        refine .append_left (by decide) (OneLine.append (OneLine.append (name.append ?_) ?_) ty)
        · split <;> decide
        · decide
      exact isLine.append_left (oneLine_indentation isOne 1)
    · exact List.forall_mem_singleton.mpr (by decide)

theorem renderInterfaces_laidOut {interfaces : List Interface}
    (plain : ∀ interface ∈ interfaces, interface.IsPlain) {style : Style}
    (isOne : OneLine style.indentUnit.display) :
    LaidOut (renderInterfaces interfaces style) False := by
  have isInfo : contractInfo.IsPlain := ⟨by decide, by decide⟩
  have laidOut : LaidOut (renderInterfaces interfaces style) _ :=
    .intercalate (by decide) (List.cons_ne_nil _ _) fun interface member =>
      Interface.IsPlain.render_laidOut
        (List.forall_mem_cons.mpr ⟨isInfo, plain⟩ interface member) isOne
  exact ⟨laidOut.framed, laidOut.hasGap_iff.trans (by simp)⟩

/-! ### Modules -/

/-- The header section of a module, which is missing where the header says nothing. -/
def headerSections (header : String) : List String :=
  if strip header = "" then [] else [strip header]

/-- The text is made of the sections, with one empty line between any two of them: no section begins
or ends with a line break. The text does not begin with one either, and it ends with a brace and one
line break. -/
structure IsLaidOut (text : String) (sections : List String) : Prop where
  joined : text = "\n\n".intercalate sections ++ "\n"
  framed : ∀ part ∈ sections, Framed part
  starts : StartsPlain text
  ends : ∃ body, text = body ++ "\x7d\n"

/-- Nothing that a module brings in has a line break, apart from the signatures of functions; and
its header has no gap. -/
structure ClientModule.IsPlain (module : ClientModule) : Prop where
  header : ¬ HasGap (strip module.header)
  imports : module.imports.IsPlain
  interfaces : ∀ interface ∈ module.interfaces, interface.IsPlain
  client : module.client.IsPlain

theorem exists_intercalate_concat (separator last : String) (texts : List String) :
    ∃ front, separator.intercalate (texts ++ [last]) = front ++ last := by
  have ends := @exists_intercalate_last separator _ (List.cons_ne_nil last []) texts
  rwa [String.intercalate_singleton] at ends

/-- The last character of a class is a brace. -/
theorem ClientClass.exists_render (client : ClientClass) (style : Style) :
    ∃ body, client.render style = body ++ "\x7d" :=
  (exists_intercalate_concat "\n" "\x7d" [_, _]).imp fun _ same =>
    (client.render_eq_intercalate style).trans same

section

variable {module : ClientModule} {style : Style}

/-- The sections of a plain module have the gaps of the accessors of its methods. -/
theorem ClientModule.IsPlain.sections (plain : module.IsPlain)
    (isOne : OneLine style.indentUnit.display) (web3 : OneLine style.web3Module) :
    module.sections style = headerSections module.header ++ [module.imports.render style,
        renderInterfaces module.interfaces style, module.client.render style] ∧
      (∀ part ∈ module.sections style, Framed part) ∧
      ((∃ part ∈ module.sections style, HasGap part) ↔
        ∃ method ∈ module.client.methods, HasGap method.accessor.text) := by
  have imports := plain.imports.render_laidOut web3
  have interfaces := renderInterfaces_laidOut plain.interfaces isOne
  have client := plain.client.render_laidOut isOne
  have filled : ∀ {text : String}, Framed text → (text != "") = true := by
    rintro text ⟨⟨first, rest, same, _⟩, _⟩
    rw [bne_iff_ne]
    rintro rfl
    cases same
  have header : ∀ part ∈ headerSections module.header, LaidOut part False := by
    unfold headerSections
    split
    · exact fun _ => nofun
    · rename_i notEmpty
      exact List.forall_mem_singleton.mpr ⟨strip_framed notEmpty, iff_of_false plain.header id⟩
  have same : module.sections style = headerSections module.header ++ [module.imports.render style,
      renderInterfaces module.interfaces style, module.client.render style] := by
    unfold ClientModule.sections headerSections
    rw [List.filter_cons, List.filter_cons, if_pos (filled imports.framed), List.filter_cons,
      if_pos (filled interfaces.framed), List.filter_cons, if_pos (filled client.framed)]
    by_cases none : strip module.header = "" <;> simp [none]
  refine ⟨same, ?_, ?_⟩
  · rw [same, List.forall_mem_append]
    refine ⟨fun part isPart => (header part isPart).framed, ?_⟩
    simp only [List.forall_mem_cons]
    exact ⟨imports.framed, interfaces.framed, client.framed, fun _ => nofun⟩
  · rw [same]
    simp only [List.mem_append, List.mem_cons, List.not_mem_nil, or_false, or_and_right, exists_or,
      exists_eq_left, imports.hasGap_iff, interfaces.hasGap_iff, client.hasGap_iff, false_or]
    refine or_iff_right ?_
    rintro ⟨part, isPart, gap⟩
    exact (header part isPart).hasGap_iff.mp gap

/-- A plain module is laid out in its sections, and it has the gaps of the accessors of its
methods. -/
theorem ClientModule.IsPlain.isLaidOut (plain : module.IsPlain)
    (isOne : OneLine style.indentUnit.display) (web3 : OneLine style.web3Module) :
    IsLaidOut (module.render style) (headerSections module.header ++ [module.imports.render style,
        renderInterfaces module.interfaces style, module.client.render style]) ∧
      (HasGap (module.render style) ↔
        ∃ method ∈ module.client.methods, HasGap method.accessor.text) := by
  obtain ⟨same, framed, gaps⟩ := plain.sections isOne web3
  have notNone : module.sections style ≠ [] := by simp [same]
  have whole : Framed ("\n\n".intercalate (module.sections style)) := .intercalate notNone framed
  rw [← same, ClientModule.render]
  refine ⟨⟨rfl, framed, whole.starts.append_right, ?_⟩, ?_⟩
  · obtain ⟨front, joined⟩ := exists_intercalate_concat "\n\n" (module.client.render style)
      (headerSections module.header ++ [module.imports.render style,
        renderInterfaces module.interfaces style])
    obtain ⟨body, braced⟩ := module.client.exists_render style
    rw [List.append_assoc, List.cons_append, List.cons_append, List.nil_append, ← same] at joined
    refine ⟨front ++ body, ?_⟩
    rw [joined, braced, ← String.toList_inj]
    simp [String.toList_append]
  · rw [hasGap_append_of_ends whole.ends, or_iff_left (by decide),
      hasGap_intercalate_iff (by decide) framed, gaps]

end

end ContractClient
