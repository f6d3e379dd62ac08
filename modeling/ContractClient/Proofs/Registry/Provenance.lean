/-
This file says where the interfaces of a registry come from and what they are for. Behind every
step that ends well, an interface that was not there before bears the name of a tuple that was
mapped, or of a result (`Accounted.named`); each of these tuples and results has its interface
(`Accounted.stands`); and a new interface is reached from the text that the step gives, through the
fields of other interfaces (`Accounted.reached`). So nothing is registered that the type at the end
does not need.

An interface that is found by its shape may be older than those of its fields were at their
mapping. This does not matter: its fields write the same types, so what is reached from them is
reached from it.
-/

import ContractClient.Proofs.Registry.Events
import ContractClient.Proofs.Text.Order

namespace ContractClient

/-! ### Reaching interfaces -/

/-- The text is the name of the interface with any number of brackets behind it. -/
def Mentions (text : String) (interface : Interface) : Prop :=
  ∃ dimensions, text = interface.name ++ String.ofList (bracketChars dimensions)

/-- The interface is one that the text mentions, or that a field of such an interface mentions, and
so on. -/
inductive Reached (interfaces : List Interface) : String → Interface → Prop
  | named {text : String} {interface : Interface} :
      interface ∈ interfaces → Mentions text interface → Reached interfaces text interface
  | through {text : String} {outer inner : Interface} {field : Field} :
      Reached interfaces text outer → field ∈ outer.fields → inner ∈ interfaces →
        Mentions field.ty.text inner → Reached interfaces text inner

theorem Mentions.arrays {text : String} {interface : Interface} (mentions : Mentions text interface)
    (dimensions : Nat) :
    Mentions (text ++ String.ofList (bracketChars dimensions)) interface := by
  obtain ⟨others, rfl⟩ := mentions
  refine ⟨others + dimensions, ?_⟩
  rw [bracketChars_add, String.ofList_append, String.append_assoc]

theorem mentions_name (interface : Interface) : Mentions interface.name interface :=
  ⟨0, by simp⟩

section

variable {interfaces : List Interface} {text : String} {interface : Interface}

theorem Reached.mono {later : List Interface} (grown : interfaces ⊆ later)
    (reached : Reached interfaces text interface) : Reached later text interface := by
  induction reached with
  | named member mentions => exact .named (grown member) mentions
  | through _ isField member mentions inductionHypothesis =>
    exact .through inductionHypothesis isField (grown member) mentions

/-- What is reached from a type is reached from its array types. -/
theorem Reached.arrays (reached : Reached interfaces text interface) (dimensions : Nat) :
    Reached interfaces (text ++ String.ofList (bracketChars dimensions)) interface := by
  induction reached with
  | named member mentions => exact .named member (mentions.arrays dimensions)
  | through _ isField member mentions inductionHypothesis =>
    exact .through inductionHypothesis isField member mentions

/-- What is reached from the type of a field is reached from the interface of the field. -/
theorem Reached.of_field {outer : Interface} {field : Field}
    (reached : Reached interfaces text outer) (isField : field ∈ outer.fields)
    (behind : Reached interfaces field.ty.text interface) :
    Reached interfaces text interface := by
  induction behind with
  | named member mentions => exact .through reached isField member mentions
  | through _ innerField member mentions inductionHypothesis =>
    exact .through inductionHypothesis innerField member mentions

/-- What is reached from the types of fields is reached from the interface of their shape. -/
theorem Reached.of_shaped {fields : List Field} {name : String} {field : Field}
    (shaped : Shaped interfaces fields name) (isField : field ∈ fields)
    (behind : Reached interfaces field.ty.text interface) :
    Reached interfaces name interface := by
  obtain ⟨outer, member, rfl, shape⟩ := shaped
  have samePairs := inOrder_pairLe_eq_iff.mp shape
  obtain ⟨other, isOther, same⟩ := List.mem_map.mp
    (samePairs.mem_iff.mpr (List.mem_map_of_mem (f := fun field => (field.name, field.ty.text))
      isField))
  have sameText : other.ty.text = field.ty.text := congrArg Prod.snd same
  exact (Reached.named member (mentions_name outer)).of_field isOther (sameText ▸ behind)

end

/-! ### The tuples of a parameter -/

mutual

/-- The tuples in a parameter, the parameter itself among them if it is one. -/
def Parameter.tuples : Parameter → List Parameter
  | ⟨name, text, internalType, components⟩ =>
    match TypeTag.parse text with
    | .ok tag =>
      if tag.base = .tuple then
        ⟨name, text, internalType, components⟩ :: componentTuples components
      else []
    | .error _ => []
termination_by structural parameter => parameter

/-- The tuples in the components of a tuple. -/
def componentTuples : Option (List Parameter) → List Parameter
  | none => []
  | some components => tuplesAmong components
termination_by structural components => components

/-- The tuples in parameters, at any depth. -/
def tuplesAmong : List Parameter → List Parameter
  | [] => []
  | parameter :: rest => parameter.tuples ++ tuplesAmong rest
termination_by structural parameters => parameters

end

/-- The name that a tuple asks for. -/
def Parameter.structName (tuple : Parameter) : Except Fault String := do
  let declared ← declaredName tuple.internalType tuple.name
  ContractClient.structName declared

/-! ### Sources -/

/-- What an interface is registered for: a tuple, or the outputs of a member, whose interface is
called after the member with a suffix behind its name. -/
inductive Source where
  | tuple (parameter : Parameter)
  | result (suffix member : String) (outputs : List Parameter)

namespace Source

/-- The name that the source asks for. -/
def asked : Source → Except Fault String
  | tuple parameter => parameter.structName
  | result suffix member _ => resultName suffix member

/-- The name is that of an interface for the source. -/
def HasName (interfaces : List Interface) : Source → String → Prop
  | tuple parameter, name => ComponentsHaveName interfaces parameter.components name
  | result _ _ outputs, name => OutputsHaveName interfaces outputs name

/-- The interface is that of the source, and bears the name that the source asks for, or one with a
number behind it. -/
structure Names (interfaces : List Interface) (source : Source) (interface : Interface) :
    Prop where
  asked : ∃ name taken, source.asked = .ok name ∧ interface.name = freeName taken name
  stands : source.HasName interfaces interface.name

theorem HasName.mono {earlier later : List Interface} (grown : earlier ⊆ later) {source : Source}
    {name : String} (hasName : source.HasName earlier name) : source.HasName later name := by
  cases source with
  | tuple parameter => exact ComponentsHaveName.mono grown hasName
  | result suffix member outputs =>
    obtain ⟨fields, haveTypes, shaped⟩ := hasName
    exact ⟨fields, haveTypes.mono grown, shaped.mono grown⟩

theorem Names.mono {earlier later : List Interface} (grown : earlier ⊆ later) {source : Source}
    {interface : Interface} (names : source.Names earlier interface) :
    source.Names later interface :=
  ⟨names.asked, names.stands.mono grown⟩

end Source

/-! ### Accounts of new interfaces -/

/-- Every later interface was there at the start, or it bears the name of one of the sources and is
reached from one of the texts; and there is an interface for each of the sources. -/
structure Accounted (start later : List Interface) (sources : List Source)
    (texts : List String) : Prop where
  named : ∀ interface ∈ later, interface ∈ start ∨
    ∃ source ∈ sources, source.Names later interface
  stands : ∀ source ∈ sources, ∃ name, source.HasName later name
  reached : ∀ interface ∈ later, interface ∈ start ∨
    ∃ text ∈ texts, Reached later text interface

section

variable {start middle later : List Interface} {sources others : List Source}
  {texts moreTexts : List String}

theorem Accounted.none (interfaces : List Interface) (texts : List String) :
    Accounted interfaces interfaces [] texts :=
  ⟨fun _ member => .inl member, nofun, fun _ member => .inl member⟩

/-- The accounts of two steps together are one of their sequence. -/
theorem Accounted.append (grown : middle ⊆ later) (first : Accounted start middle sources texts)
    (second : Accounted middle later others moreTexts) :
    Accounted start later (sources ++ others) (texts ++ moreTexts) := by
  constructor
  case named =>
    intro interface member
    rcases second.named interface member with before | ⟨source, isSource, names⟩
    · refine (first.named interface before).imp_right fun ⟨source, isSource, names⟩ => ?_
      exact ⟨source, List.mem_append_left _ isSource, names.mono grown⟩
    · exact .inr ⟨source, List.mem_append_right _ isSource, names⟩
  case stands =>
    intro source isSource
    rcases List.mem_append.mp isSource with isFirst | isSecond
    · obtain ⟨name, hasName⟩ := first.stands source isFirst
      exact ⟨name, hasName.mono grown⟩
    · exact second.stands source isSecond
  case reached =>
    intro interface member
    rcases second.reached interface member with before | ⟨text, isText, reached⟩
    · refine (first.reached interface before).imp_right fun ⟨text, isText, reached⟩ => ?_
      exact ⟨text, List.mem_append_left _ isText, reached.mono grown⟩
    · exact .inr ⟨text, List.mem_append_right _ isText, reached⟩

/-- Texts from which as much is reached account for as much. -/
theorem Accounted.imp (accounted : Accounted start later sources texts)
    (reaches : ∀ text ∈ texts, ∀ interface, Reached later text interface →
      ∃ other ∈ moreTexts, Reached later other interface) :
    Accounted start later sources moreTexts :=
  ⟨accounted.named, accounted.stands, fun interface member =>
    (accounted.reached interface member).imp_right fun ⟨text, isText, reached⟩ =>
      reaches text isText interface reached⟩

/-- An interface registered for fields accounts for what the types of the fields do, and for the
source that the fields are those of. -/
theorem Accounted.close {fields : List Field} {name asked : String} {taken : List String}
    {source : Source} (grown : middle ⊆ later)
    (accounted : Accounted start middle sources (fields.map (·.ty.text)))
    (shaped : Shaped later fields name) (asks : source.asked = .ok asked)
    (stands : source.HasName later name)
    (adds : ∀ interface ∈ later, interface ∈ middle ∨
      interface.name = name ∧ name = freeName taken asked) :
    Accounted start later (source :: sources) [name] := by
  constructor
  case named =>
    intro interface member
    rcases adds interface member with before | ⟨same, free⟩
    · refine (accounted.named interface before).imp_right fun ⟨other, isSource, names⟩ => ?_
      exact ⟨other, List.mem_cons_of_mem _ isSource, names.mono grown⟩
    · exact .inr ⟨source, List.mem_cons_self,
        ⟨asked, taken, asks, same.trans free⟩, same ▸ stands⟩
  case stands =>
    refine List.forall_mem_cons.mpr ⟨⟨name, stands⟩, fun other isSource => ?_⟩
    obtain ⟨otherName, hasName⟩ := accounted.stands other isSource
    exact ⟨otherName, hasName.mono grown⟩
  case reached =>
    intro interface member
    rcases adds interface member with before | ⟨same, _⟩
    · rcases accounted.reached interface before with old | ⟨text, isText, reached⟩
      · exact .inl old
      · obtain ⟨field, isField, rfl⟩ := List.mem_map.mp isText
        exact .inr ⟨name, List.mem_singleton_self _,
          .of_shaped shaped isField (reached.mono grown)⟩
    · have mentions : Mentions name interface := same ▸ mentions_name interface
      exact .inr ⟨name, List.mem_singleton_self _, .named member mentions⟩

end

/-! ### Registering -/

section

variable {α β : Type} {reserved : List String} {start : Registry}

/-- What two rules say of a step holds together. -/
theorem Yields.and {step : Registering α} {first second : List Interface → α → Prop}
    (yields : Yields reserved start step first) (also : Yields reserved start step second) :
    Yields reserved start step fun interfaces value =>
      first interfaces value ∧ second interfaces value :=
  ⟨yields.sound, yields.keeps, yields.grows,
    fun value same => ⟨yields.right value same, also.right value same⟩⟩

/-- What follows a result starts where the result is asked for. -/
theorem Yields.afterLift {result : Except Fault α} {next : α → Registering β}
    {right : List Interface → β → Prop} (sound : start.Sound reserved)
    (rest : ∀ value, result = .ok value → Yields reserved start (next value) right) :
    Yields reserved start ((liftM result : Registering α) >>= next) right := by
  cases result with
  | error fault =>
    exact .of_error (Registering.lift_bind_run (.error fault) next start) sound (.refl start)
      (List.prefix_refl _)
  | ok value => exact rest value rfl

/-- Registering adds at most the interface whose name it gives, and then that name was free. -/
theorem Registry.register_adds {requested : String} {fields : List Field} {origin : Origin}
    {right : List Interface → String → Prop}
    (registers : Yields reserved start (register requested fields origin) right) :
    Yields reserved start (register requested fields origin) fun interfaces name =>
      right interfaces name ∧ ∀ interface ∈ interfaces, interface ∈ start.interfaces ∨
        interface.name = name ∧ name = freeName start.taken requested := by
  refine ⟨registers.sound, registers.keeps, registers.grows,
    fun name same => ⟨registers.right name same, ?_⟩⟩
  rw [register_run] at same ⊢
  split at same
  · rename_i distinct
    rw [if_pos distinct]
    cases found : start.shaped? (fieldSignature fields) with
    | some existing => exact fun interface member => .inl member
    | none =>
      rw [found] at same
      intro interface member
      refine (List.mem_append.mp member).imp_right fun added => ?_
      rw [List.mem_singleton.mp added, ← Except.ok.inj same]
      exact ⟨rfl, rfl⟩
  · cases same

/-- The interface that stands for a tuple accounts for what those of its components do. -/
theorem registerStruct_accounts {first : Registry} (soundStart : start.Sound reserved)
    (name text internalType : String) {declared : String} {components : List Parameter}
    {fields : List Field} (declares : declaredName internalType name = .ok declared)
    (someComponents : ¬components.isEmpty)
    (haveTypes : FieldsHaveTypes start.interfaces components (components.map (·.name)) fields)
    (inner : Accounted first.interfaces start.interfaces ((tuplesAmong components).map .tuple)
      (fields.map (·.ty.text))) :
    Yields reserved start (registerStruct declared fields) fun interfaces name' =>
      Accounted first.interfaces interfaces
        (.tuple ⟨name, text, internalType, some components⟩ ::
          (tuplesAmong components).map .tuple) [name'] := by
  have hasFields : fields ≠ [] :=
    haveTypes.ne_nil (List.length_map _) fun none => someComponents (none ▸ rfl)
  unfold registerStruct
  refine .afterLift soundStart fun _ passes => .afterLift soundStart fun asked names => ?_
  have registers := Registry.register_yields soundStart asked .struct hasFields
    (named_of_requireNames passes) haveTypes.known
  refine (Registry.register_adds registers).conclude
    fun interfaces given grows ⟨shaped, adds⟩ => ?_
  have asks : (Source.tuple ⟨name, text, internalType, some components⟩).asked = .ok asked := by
    simp only [Source.asked, Parameter.structName, declares, bind, Except.bind, names]
  refine inner.close grows.subset shaped asks ?_ adds
  rw [Source.HasName, ComponentsHaveName]
  exact ⟨fields, haveTypes.mono grows.subset, shaped⟩

end

/-! ### Mapping -/

mutual

/-- What is registered for a parameter is accounted for by its tuples and by its type. -/
theorem mapParameter_accounts {reserved : List String} (levels : Nat) (member : String) :
    ∀ (parameter : Parameter) {start : Registry}, start.Sound reserved →
      Yields reserved start (mapParameter levels member parameter) fun interfaces ty =>
        Accounted start.interfaces interfaces (parameter.tuples.map .tuple) [ty.text]
  | ⟨name, text, internalType, components⟩, start, sound => by
    rw [mapParameter, Parameter.tuples]
    refine .locating member name (.afterLift sound fun tag required => ?_)
    rw [requireTag_eq_ok_iff.mp required]
    cases primitive : tag.base.primitive? with
    | some ty =>
      have noTuple : tag.base ≠ .tuple := fun isTuple => by
        rw [BaseType.primitive?_eq_none.mpr isTuple] at primitive
        cases primitive
      simp only [noTuple, if_false]
      exact .pure sound (.none _ _)
    | none =>
      simp only [BaseType.primitive?_eq_none.mp primitive, if_true]
      refine (mapTuple_accounts levels name text internalType components sound).bind
        fun struct after soundAfter _ accounted => .pure soundAfter ?_
      refine accounted.imp fun given isGiven interface reached => ?_
      obtain rfl := List.mem_singleton.mp isGiven
      refine ⟨_, List.mem_singleton_self _, ?_⟩
      rw [Ty.text_arrays, Ty.text_ofText]
      exact reached.arrays _

theorem mapTuple_accounts {reserved : List String} (levels : Nat)
    (name text internalType : String) :
    ∀ (components : Option (List Parameter)) {start : Registry}, start.Sound reserved →
      Yields reserved start (mapTuple levels name internalType components) fun interfaces given =>
        Accounted start.interfaces interfaces
          (.tuple ⟨name, text, internalType, components⟩ ::
            (componentTuples components).map .tuple) [given]
  | none, _, sound => by
    rw [mapTuple]
    exact .throw sound _
  | some components, start, sound => by
    rw [mapTuple, componentTuples]
    refine .unless sound fun notEmpty => .afterLift sound fun declared declares => ?_
    refine .afterLift sound fun below _ => ?_
    have mapped := (mapFields_yields below components sound).and
      (mapFields_accounts below components sound)
    refine mapped.bind fun fields middle soundMiddle _ ⟨haveTypes, inner⟩ => ?_
    exact registerStruct_accounts soundMiddle name text internalType declares notEmpty haveTypes
      inner

theorem mapFields_accounts {reserved : List String} (levels : Nat) :
    ∀ (components : List Parameter) {start : Registry}, start.Sound reserved →
      Yields reserved start (mapFields levels components) fun interfaces fields =>
        Accounted start.interfaces interfaces ((tuplesAmong components).map .tuple)
          (fields.map (·.ty.text))
  | [], _, sound => by
    rw [mapFields, tuplesAmong]
    exact .pure sound (.none _ _)
  | component :: rest, start, sound => by
    rw [mapFields, tuplesAmong, List.map_append]
    refine (mapParameter_accounts levels "" component sound).bind
      fun ty middle soundMiddle _ first => ?_
    refine (mapFields_accounts levels rest soundMiddle).bind
      fun fields after soundAfter grows others => .pure soundAfter ?_
    exact first.append grows.subset others

end

/-! ### Results -/

section

variable {reserved : List String} {start : Registry}

theorem resolveParameter_accounts (sound : start.Sound reserved) (member : String)
    (parameter : Parameter) :
    Yields reserved start (resolveParameter member parameter) fun interfaces ty =>
      Accounted start.interfaces interfaces (parameter.tuples.map .tuple) [ty.text] :=
  Yields.look (mapParameter_accounts start.levels member parameter sound)

/-- Where there is a name for each output, all of them are mapped. -/
theorem mapOutputs_accounts (member : String) (outputs : List Parameter) :
    ∀ (names : List String) {start : Registry}, names.length = outputs.length →
      start.Sound reserved →
        Yields reserved start (mapOutputs member names outputs) fun interfaces fields =>
          Accounted start.interfaces interfaces ((tuplesAmong outputs).map .tuple)
            (fields.map (·.ty.text)) := by
  induction outputs with
  | nil =>
    intro names _ _ sound
    rw [mapOutputs, tuplesAmong]
    · exact .pure sound (.none _ _)
    · simp
  | cons output outputs inductionHypothesis =>
    intro names _ sameLength sound
    cases names with
    | nil => cases sameLength
    | cons name names =>
      rw [mapOutputs, tuplesAmong, List.map_append]
      refine (resolveParameter_accounts sound member output).bind
        fun ty middle soundMiddle _ first => ?_
      refine (inductionHypothesis names (Nat.succ.inj sameLength) soundMiddle).bind
        fun fields after soundAfter grows others => .pure soundAfter ?_
      exact first.append grows.subset others

/-- What is registered for a result is accounted for by the result itself, by the tuples of its
outputs and by its name. -/
theorem resolveResult_accounts (sound : start.Sound reserved) (member : String)
    (outputs : List Parameter) :
    Yields reserved start (resolveResult member outputs) fun interfaces given =>
      Accounted start.interfaces interfaces
        (.result start.resultSuffix member outputs :: (tuplesAmong outputs).map .tuple)
        [given] := by
  have sameLength : (outputFieldNames outputs).length = outputs.length :=
    length_fieldNamesFrom _ _ _
  unfold resolveResult
  refine .unless sound fun _ => .unless sound fun several => ?_
  have mapped := (mapOutputs_yields member outputs (outputFieldNames outputs) sound).and
    (mapOutputs_accounts member outputs (outputFieldNames outputs) sameLength sound)
  refine mapped.bindKeeping fun fields middle soundMiddle keeps _ ⟨haveTypes, inner⟩ =>
    Yields.look ?_
  rw [keeps.resultSuffix]
  refine .afterLift soundMiddle fun asked names => ?_
  have registers := registerOutputs_yields soundMiddle asked several haveTypes
  refine (Registry.register_adds registers).conclude
    fun interfaces given grows ⟨shaped, adds⟩ => ?_
  have asks : (Source.result start.resultSuffix member outputs).asked = .ok asked := names
  exact inner.close grows.subset shaped asks ⟨fields, haveTypes.mono grows.subset, shaped⟩ adds

end

end ContractClient
