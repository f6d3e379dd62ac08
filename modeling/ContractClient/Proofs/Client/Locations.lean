/-
This file says where an unsupported type is reported by a client. Its tags are met in one order:
function by function, the inputs before the outputs, and the inputs of the constructor last. If the
client fails for an unsupported type, it is the first one that is met, and the member is the one it
belongs to (`assembleModule_unsupported`).

The parameter is the innermost one with a name wherever tags are mapped. Where they are only
checked, in the outputs of a transaction, it is the parameter with the tag, whether that has a name
or not; so a component without a name is not found there (`checkedOutput_unnamed`).
-/

import ContractClient.Abi.Reader
import ContractClient.Proofs.Client.Outcomes
import ContractClient.Proofs.Client.Positions
import ContractClient.Proofs.Client.Silence
import ContractClient.Proofs.Registry.Spots

namespace ContractClient

/-! ### The sites of a client -/

/-- A spot in a member, which is mapped or only checked. -/
structure Site where
  owner : String
  isChecked : Bool
  spot : Spot
deriving Repr, DecidableEq

namespace Site

/-- Whether the tag at the site is that of no type that is supported. -/
def isUnsupported (site : Site) : Bool :=
  site.spot.isUnsupported

/-- The report of an unsupported tag at the site. -/
def fault (site : Site) : Fault :=
  if site.isChecked then site.spot.checkedFault site.owner
  else site.spot.mappedFault site.owner

end Site

/-- The sites in the inputs and then in the outputs of a function. What a transaction gives back is
only checked. -/
def Member.sites (function : Member) : List Site :=
  (spotsAmong function.inputs).map (⟨function.name, false, ·⟩) ++
    (spotsAmong function.outputs).map
      (⟨function.name, function.mutability != some .readOnly, ·⟩)

/-- The sites in the inputs of the constructor, if there is one. -/
def deploySites : Option Member → List Site
  | none => []
  | some constructor => (spotsAmong constructor.inputs).map (⟨"constructor", false, ·⟩)

/-- The sites of a client in the order in which they are met. -/
def clientSites (members : List Member) : List Site :=
  (functionsAmong members).flatMap Member.sites ++ deploySites (constructorAmong members)

/-- The report of the first site whose tag is not supported. -/
def blamed? (sites : List Site) : Option Fault :=
  (sites.find? Site.isUnsupported).map Site.fault

theorem blamed?_append (first second : List Site) :
    blamed? (first ++ second) = (blamed? first).or (blamed? second) := by
  rw [blamed?, List.find?_append, Option.map_or, blamed?, blamed?]

theorem blamed?_mapped (member : String) (spots : List Spot) :
    blamed? (spots.map (⟨member, false, ·⟩)) = reported? (Spot.mappedFault member) spots := by
  rw [blamed?, List.find?_map, Option.map_map]
  rfl

theorem blamed?_checked (member : String) (spots : List Spot) :
    blamed? (spots.map (⟨member, true, ·⟩)) = reported? (Spot.checkedFault member) spots := by
  rw [blamed?, List.find?_map, Option.map_map]
  rfl

/-! ### Steps of a generation -/

/-- From whatever pass it starts, the step is blamed on the given fault. -/
def Blaming {α : Type} (first? : Option Fault) (step : Building α) : Prop :=
  ∀ start, Blames first? (step start).1

section

variable {α β : Type} {first? second? : Option Fault}

theorem Blaming.pure (value : α) : Blaming none (Pure.pure value) :=
  fun _ => .ok value

theorem Blaming.modify (update : Pass → Pass) : Blaming none (modify update : Building Unit) :=
  fun _ => .ok ()

theorem Blaming.lift {result : Except Fault α} (blames : Blames first? result) :
    Blaming first? (liftM result : Building α) := by
  cases result with
  | error fault => exact fun _ => blames
  | ok value => exact fun _ => blames

theorem Blaming.registering {step : Registering α}
    (blames : ∀ registry, Blames first? (step registry).1) :
    Blaming first? (Pass.registering step) :=
  fun pass => blames pass.registry

theorem Blaming.look {next : Pass → Building α} (rest : ∀ pass, Blaming first? (next pass)) :
    Blaming first? (get >>= next) :=
  fun start => rest start start

theorem Blaming.bind {step : Building α} {next : α → Building β} (first : Blaming first? step)
    (second : ∀ value, Blaming second? (next value)) :
    Blaming (first?.or second?) (step >>= next) := by
  intro start
  have blames := first start
  rw [bind_run]
  cases run : step start with
  | mk ended middle =>
    rw [run] at blames
    cases ended with
    | error fault => exact blames.stops
    | ok value =>
      rw [blames.passes value rfl, Option.none_or]
      exact second value middle

theorem Blaming.after {step : Building α} {next : α → Building β} (first : Blaming none step)
    (second : ∀ value, Blaming second? (next value)) :
    Blaming second? (step >>= next) := by
  have blaming := first.bind second
  rwa [Option.none_or] at blaming

theorem Blaming.before {step : Building α} {next : α → Building β}
    (first : Blaming first? step) (second : ∀ value, Blaming none (next value)) :
    Blaming first? (step >>= next) := by
  have blaming := first.bind second
  rwa [Option.or_none] at blaming

end

theorem requireModuleName_quiet (module : Json) : Blames none (requireModuleName module) := by
  unfold requireModuleName
  split
  · exact .ok _
  · exact .other id

theorem useImport_quiet (module : Json) (names : List String) :
    Blaming none (Pass.useImport module names) :=
  Blaming.after (.lift (requireModuleName_quiet module)) fun _ => .modify _

theorem requireLines_quiet (depths : List Nat) : Blaming none (Pass.requireLines depths) :=
  .look fun _ => .lift (.of_failsByDefect (requireIndentation_failsByDefect _ _))

theorem methodName_quiet (function : Member) : Blaming none (Pass.methodName function) := by
  unfold Pass.methodName
  refine Blaming.after (.lift ?_) fun _ => .look fun pass => ?_
  · unfold Member.requireSignature
    split
    · exact .other id
    · exact .ok _
  split
  case' isTrue =>
    refine (Blaming.modify _).after fun _ => ?_
  all_goals
    refine .look fun pass => ?_
    split
    · exact .pure _
    · exact fun _ => .other id

theorem planNames_quiet (members : List Member) : Blaming none (Pass.planNames members) := by
  have spelling : FailsByDefect ((functionsAmong members).forM Member.requireSignature) := by
    rw [forM_requireSignature]
    exact .ite (.defect _) (.ok ())
  unfold Pass.planNames
  cases spelled : (functionsAmong members).forM Member.requireSignature with
  | ok _ => exact .modify _
  | error fault =>
    obtain ⟨cause, rfl⟩ := spelling fault spelled
    exact (Blaming.modify _).after fun _ _ => .other id

/-! ### Methods -/

theorem resolveParameter_blaming (member : String) (parameter : Parameter) :
    Blaming (reported? (Spot.mappedFault member) parameter.spots)
      (Pass.registering (resolveParameter member parameter)) := by
  refine .registering fun registry => .of_outcome ?_
  rw [(resolveParameter_checks member parameter).ends]
  exact (parameter.requireTypable_blames member).withinLevels

theorem buildArguments_blaming (member : String) (parameters : List Parameter) :
    Blaming (reported? (Spot.mappedFault member) (spotsAmong parameters))
      (buildArguments member parameters) := by
  have each : ∀ entries : List (String × Parameter),
      Blaming (reported? (Spot.mappedFault member) (spotsAmong (entries.map (·.2))))
        (entries.mapM fun entry => do
          let ty ← Pass.registering (resolveParameter member entry.2)
          return (⟨entry.1, ty⟩ : Argument)) := by
    intro entries
    induction entries with
    | nil =>
      rw [List.map_nil, spotsAmong]
      exact .pure []
    | cons entry rest inductionHypothesis =>
      rw [List.mapM_cons, List.map_cons, spotsAmong, reported?_append]
      refine Blaming.bind ?_ fun _ => inductionHypothesis.before fun _ => .pure _
      exact (resolveParameter_blaming member entry.2).before fun _ => .pure _
  have same : ((argumentNames parameters).zip parameters).map (·.2) = parameters :=
    List.map_snd_zip (Nat.le_of_eq (length_argumentNamesFrom _ _ _).symm)
  have blaming := each ((argumentNames parameters).zip parameters)
  rw [same] at blaming
  exact blaming

theorem returnType_blaming (member : String) :
    ∀ outputs : List Parameter,
      Blaming (reported? (Spot.mappedFault member) (spotsAmong outputs))
        (returnType member outputs)
  | [] => by
    rw [spotsAmong]
    exact .pure _
  | [output] => by
    rw [spotsAmong, spotsAmong, List.append_nil]
    exact resolveParameter_blaming member output
  | first :: second :: rest => by
    refine Blaming.before (.registering fun registry => .of_outcome ?_) fun _ => .pure _
    rw [(resolveResult_checks member _).ends]
    exact requireResult_blames _ _ member _

theorem rebuildResult_quiet (interfaces : List Interface) (value : Expr) (ty : Ty) (depth : Int) :
    Blames none (rebuildResult interfaces value ty depth) :=
  .of_failsByDefect fun _ fails => ⟨_, (rebuildResult_eq_error fails).1⟩

theorem rebuildFields_quiet (shape : Interface) (names : List String) (index : Nat) :
    Blaming none (rebuildFields shape index names) := by
  induction names generalizing index with
  | nil => exact .pure []
  | cons name rest inductionHypothesis =>
    refine .look fun pass => Blaming.after (.lift (rebuildResult_quiet _ _ _ _)) fun _ => ?_
    refine (requireLines_quiet _).after fun _ => ?_
    exact (inductionHypothesis _).after fun _ => .pure _

theorem buildAnswer_quiet (function : Member) (ty : Ty) :
    Blaming none (buildAnswer function ty) := by
  unfold buildAnswer
  refine .look fun pass => ?_
  split
  · exact (requireLines_quiet _).after fun _ => .pure _
  · refine (requireLines_quiet _).after fun _ => ?_
    exact Blaming.after (.lift (rebuildResult_quiet _ _ _ _)) fun _ => .pure _
  · dsimp only
    split
    · exact fun _ => .other id
    · refine (requireLines_quiet _).after fun _ => ?_
      exact (rebuildFields_quiet _ _ _).after fun _ => .pure _

theorem buildCall_blaming (function : Member) :
    Blaming
      (blamed? ((spotsAmong function.outputs).map
        (⟨function.name, function.mutability != some .readOnly, ·⟩)))
      (buildCall function) := by
  unfold buildCall
  refine .look fun pass => ?_
  split
  · rename_i reads
    rw [reads, bne_self_eq_false, blamed?_mapped]
    refine (returnType_blaming function.name function.outputs).before fun ty => ?_
    refine (useImport_quiet _ _).after fun _ => (buildAnswer_quiet function ty).after fun _ => ?_
    exact (requireLines_quiet _).after fun _ => .pure _
  · rename_i changes
    rw [bne_iff_ne.mpr changes, blamed?_checked]
    refine Blaming.before (.lift (checkParameters_blames _ _)) fun _ => ?_
    refine (useImport_quiet _ _).after fun _ => (useImport_quiet _ _).after fun _ => ?_
    exact (requireLines_quiet _).after fun _ => .pure _

/-- The method of a function is blamed on the first tag in it that is not supported. -/
theorem buildMethod_blaming (function : Member) :
    Blaming (blamed? function.sites) (buildMethod function) := by
  rw [Member.sites, blamed?_append, blamed?_mapped]
  refine (buildArguments_blaming function.name function.inputs).bind fun _ => ?_
  refine (methodName_quiet function).after fun _ => ?_
  exact (buildCall_blaming function).before fun _ => .look fun _ => .pure _

theorem buildMethods_blaming (functions : List Member) :
    Blaming (blamed? (functions.flatMap Member.sites)) (buildMethods functions) := by
  induction functions with
  | nil => exact .pure []
  | cons function rest inductionHypothesis =>
    rw [List.flatMap_cons, blamed?_append]
    exact (buildMethod_blaming function).bind fun _ => inductionHypothesis.before fun _ => .pure _

/-! ### Modules -/

theorem buildDeploy_blaming (constructor : Option Member) :
    Blaming (blamed? (deploySites constructor)) (buildDeploy constructor) := by
  have rest : ∀ (pass : Pass) (arguments : List Argument),
      Blaming none (do
        Pass.useImport pass.style.contractModule ["Contract", "SendOptions"]
        modify fun pass => { pass with hasDeploy := true }
        Pass.requireLines [0, 1, 2]
        return arguments : Building (List Argument)) := by
    intro pass arguments
    refine (useImport_quiet _ _).after fun _ => (Blaming.modify _).after fun _ => ?_
    exact (requireLines_quiet _).after fun _ => .pure _
  unfold buildDeploy
  refine .look fun pass => ?_
  by_cases deployed : pass.hasDeploy
  · rw [if_pos deployed]
    exact fun _ => .other id
  · rw [if_neg deployed]
    cases constructor with
    | none => exact rest pass []
    | some member =>
      rw [deploySites, blamed?_mapped]
      exact (buildArguments_blaming "constructor" member.inputs).before fun arguments =>
        rest pass arguments

theorem buildClass_blaming (members : List Member) :
    Blaming (blamed? (clientSites members)) (buildClass members) := by
  have finish : ∀ methods : List Method,
      Blaming (blamed? (deploySites (constructorAmong members))) (do
        let deployArguments ← buildDeploy (constructorAmong members)
        return ⟨(← get).className, methods, deployArguments⟩ : Building ClientClass) :=
    fun methods => (buildDeploy_blaming _).before fun _ => .look fun _ => .pure _
  rw [clientSites, blamed?_append]
  unfold buildClass
  refine .look fun pass => (useImport_quiet _ _).after fun _ => ?_
  refine (planNames_quiet members).after fun _ => (Blaming.modify _).after fun _ => ?_
  refine (requireLines_quiet _).after fun _ => ?_
  refine (buildMethods_blaming _).bind fun methods => ?_
  dsimp only
  split
  · exact (Blaming.modify _).after fun _ => finish methods
  · exact finish methods

theorem buildModule_blaming (members : List Member) :
    Blaming (blamed? (clientSites members)) (buildModule members) := by
  refine (buildClass_blaming members).before fun client => .look fun pass => ?_
  cases pass.style.header with
  | none => exact fun _ => .other id
  | some header =>
    refine Blaming.after (.lift ?_) fun _ => .pure _
    exact (requireModuleName_quiet _).after fun _ => requireModuleName_quiet _

/-! ### Where the first unsupported type is reported -/

/-- If a client cannot be put together for an unsupported type, it is the first one that is met, and
the member that it belongs to is named. The parameter is the innermost one around it with a name,
except that in the outputs of a transaction it is always the parameter or component with the tag:
the two differ exactly if that has no name and something around it does. -/
theorem assembleModule_unsupported {contract : Json} {members : List Member} {style : Style}
    {collector : Collector} {tag member parameter : String}
    (fails : (assembleModule contract members style collector).1 =
      .error (.unsupportedType tag member parameter)) :
    ∃ site, (clientSites members).find? Site.isUnsupported = some site ∧
      tag = site.spot.tag ∧ member = site.owner ∧
      (site.isChecked → parameter = site.spot.name) ∧
      (parameter = site.spot.nearestName ↔
        (site.isChecked → site.spot.name = "" →
          ∀ name ∈ site.spot.around, name = "")) := by
  rw [assembleModule_fst, map_eq_error_iff] at fails
  have blames := buildModule_blaming members (.start contract style collector)
  rw [fails] at blames
  obtain ⟨site, found, isFault⟩ := Option.map_eq_some_iff.mp (blames.fails _ rfl trivial)
  refine ⟨site, found, ?_⟩
  unfold Site.fault at isFault
  split at isFault
  · rename_i checked
    cases isFault
    refine ⟨rfl, rfl, fun _ => rfl, site.spot.name_eq_nearestName_iff.trans ?_⟩
    exact ⟨fun outside _ => outside, fun outside => outside checked⟩
  · rename_i mapped
    cases isFault
    exact ⟨rfl, rfl, fun checked => (mapped checked).elim,
      iff_of_true rfl fun checked => (mapped checked).elim⟩

/-- The entry of a function whose output is a tuple in a tuple, with a component in it that has no
name and no type that is supported. -/
def quoteEntry (stateMutability : String) : Json :=
  .object [("type", .text "function"), ("name", .text "best"),
    ("stateMutability", .text stateMutability),
    ("outputs", .array [.object [("name", .text "offer"), ("type", .text "tuple"),
      ("internalType", .text "struct Offer"),
      ("components", .array [.object [("name", .text ""), ("type", .text "tuple[]"),
        ("internalType", .text "struct Price[]"),
        ("components", .array [.object [("name", .text ""), ("type", .text "fixed")]])]])]])]

/-- The function of the entry. -/
def quote (stateMutability : String) : Member :=
  ⟨.function, "best", [],
    [⟨"offer", "tuple", "struct Offer",
      some [⟨"", "tuple[]", "struct Price[]", some [⟨"", "fixed", "", none⟩]⟩]⟩],
    stateMutability⟩

/-- In a query the tag is found by the name of the output around it. -/
theorem mappedOutput_unnamed :
    ∃ site, (clientSites [quote "view"]).find? Site.isUnsupported = some site ∧
      "fixed" = site.spot.tag ∧ "best" = site.owner ∧ site.spot.name = "" ∧
      "offer" = site.spot.nearestName := by
  have fails : (assembleModule (.text "Market") [quote "view"] Options.standard.style
      .absent).1 = .error (.unsupportedType "fixed" "best" "offer") := by
    with_unfolding_all rfl
  have first : ((clientSites [quote "view"]).find? Site.isUnsupported).map
      (fun site => (site.isChecked, site.spot.name)) = some (false, "") := by
    decide +kernel
  obtain ⟨site, found, sameTag, sameMember, _, located⟩ := assembleModule_unsupported fails
  rw [found, Option.map_some, Option.some_inj, Prod.mk.injEq] at first
  obtain ⟨isMapped, unnamed⟩ := first
  exact ⟨site, found, sameTag, sameMember, unnamed,
    located.mpr fun isChecked => nomatch isMapped.symm.trans isChecked⟩

/-- In a transaction the same tag is reported without the name of the output around it. -/
theorem checkedOutput_unnamed :
    (readAbi (.text "Market") (.array [quoteEntry "nonpayable"]) .absent).1 =
        .ok [quote "nonpayable"] ∧
      (assembleModule (.text "Market") [quote "nonpayable"] Options.standard.style .absent).1 =
        .error (.unsupportedType "fixed" "best" "") ∧
      ((clientSites [quote "nonpayable"]).find? Site.isUnsupported).map
        (·.spot.nearestName) = some "offer" := by
  refine ⟨?_, ?_, by decide +kernel⟩
  · with_unfolding_all rfl
  · with_unfolding_all rfl

end ContractClient
