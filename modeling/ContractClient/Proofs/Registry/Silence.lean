/-
This file proves that it does not matter to a registry who is told of its changes. A registry and
the same one with another listener, who was told of everything that was noticed so far (`Retold`),
take every step in the same way: it gives the same, and what the one keeps in addition the other
tells its listener (`resolveParameter_agrees`, `resolveResult_agrees`).
-/

import ContractClient.Proofs.Registry.Typing
import ContractClient.Proofs.Steps

namespace ContractClient

/-! ### Listeners -/

/-- The collector after all of the notices. -/
def Collector.addAll (collector : Collector) (notices : List Notice) : Collector :=
  notices.foldl Collector.add collector

@[simp] theorem Collector.addAll_nil (collector : Collector) : collector.addAll [] = collector :=
  rfl

theorem Collector.addAll_append (collector : Collector) (earlier later : List Notice) :
    collector.addAll (earlier ++ later) = (collector.addAll earlier).addAll later :=
  List.foldl_append

theorem Collector.keeping_addAll (earlier notices : List Notice) :
    (keeping earlier).addAll notices = keeping (earlier ++ notices) := by
  induction notices generalizing earlier with
  | nil => rw [addAll_nil, List.append_nil]
  | cons notice rest inductionHypothesis =>
    refine (inductionHypothesis (earlier ++ [notice])).trans ?_
    rw [List.append_assoc, List.singleton_append]

@[simp] theorem Collector.absent_addAll (notices : List Notice) :
    absent.addAll notices = absent := by
  induction notices with
  | nil => rfl
  | cons _ _ inductionHypothesis => exact inductionHypothesis

@[simp] theorem Collector.isPresent_addAll (collector : Collector) (notices : List Notice) :
    (collector.addAll notices).isPresent = collector.isPresent := by
  cases collector with
  | absent => rw [absent_addAll]
  | keeping earlier =>
    rw [keeping_addAll]
    rfl

/-- All that the first collector keeps was told to the listener. -/
def Collector.Retold (listener kept told : Collector) : Prop :=
  ∃ notices, kept = .keeping notices ∧ told = listener.addAll notices

theorem Collector.Retold.start (listener : Collector) : Retold listener (.keeping []) listener :=
  ⟨[], rfl, rfl⟩

theorem Collector.Retold.add {listener kept told : Collector} (retold : Retold listener kept told)
    (notice : Notice) : Retold listener (kept.add notice) (told.add notice) := by
  obtain ⟨notices, rfl, rfl⟩ := retold
  exact ⟨notices ++ [notice], rfl, (listener.addAll_append notices [notice]).symm⟩

/-- Whoever listens, the run ends as given, and the listener is told the given notices. -/
def Tells {α : Type} (run : Collector → α × Collector) (ended : α)
    (gained : List Notice) : Prop :=
  ∀ listener, run listener = (ended, listener.addAll gained)

/-- A run that does not tell listeners apart tells each of them the same. -/
theorem Tells.of_retold {α : Type} {run : Collector → α × Collector}
    (retold : ∀ listener, (run (.keeping [])).1 = (run listener).1 ∧
      listener.Retold (run (.keeping [])).2 (run listener).2) :
    ∃ ended gained, Tells run ended gained := by
  obtain ⟨_, gained, isKept, _⟩ := retold .absent
  refine ⟨(run (.keeping [])).1, gained, fun listener => ?_⟩
  obtain ⟨same, notices, isKeptToo, isTold⟩ := retold listener
  obtain rfl : gained = notices := Collector.keeping.inj (isKept.symm.trans isKeptToo)
  exact Prod.ext same.symm isTold

/-! ### Steps of a registry -/

/-- The other registry differs in who listens, and all that is kept here was told there. -/
def Registry.Retold (listener : Collector) (registry other : Registry) : Prop :=
  ∃ told, listener.Retold registry.collector told ∧ other = { registry with collector := told }

section

variable {listener : Collector}

/-- A look at the registry that does not show who listens. -/
theorem Registry.agrees_look {α : Type} {next : Registry → Registering α}
    (unseen : ∀ registry told, next { registry with collector := told } = next registry)
    (rest : ∀ registry, Agrees (Retold listener) (next registry)) :
    Agrees (Retold listener) (get >>= next) := by
  refine Agrees.look (fun registry other retold => ?_) rest
  obtain ⟨told, _, rfl⟩ := retold
  exact (unseen registry told).symm

theorem Registry.Retold.insert {registry other : Registry} (retold : registry.Retold listener other)
    (requested : String) (fields : List Field) (origin : Origin) :
    (registry.insert requested fields origin).1 = (other.insert requested fields origin).1 ∧
      (registry.insert requested fields origin).2.Retold listener
        (other.insert requested fields origin).2 := by
  obtain ⟨told, heard, rfl⟩ := retold
  unfold Registry.insert
  dsimp only
  refine ⟨rfl, ?_⟩
  split
  · exact ⟨told, heard, rfl⟩
  · exact ⟨_, heard.add _, rfl⟩

theorem Registry.register_agrees (requested : String) (fields : List Field) (origin : Origin) :
    Agrees (Retold listener) (register requested fields origin) := by
  intro registry other retold
  have sameShape : other.shaped? (fieldSignature fields) =
      registry.shaped? (fieldSignature fields) := by
    obtain ⟨_, _, rfl⟩ := retold
    rfl
  rw [register_run, register_run, sameShape]
  split
  · split
    · exact ⟨rfl, retold⟩
    · obtain ⟨sameName, retoldThen⟩ := retold.insert requested fields origin
      exact ⟨congrArg Except.ok sameName, retoldThen⟩
  · exact ⟨rfl, retold⟩

theorem registerStruct_agrees (declared : String) (fields : List Field) :
    Agrees (Registry.Retold listener) (registerStruct declared fields) :=
  (Agrees.lift _).bind fun _ => (Agrees.lift _).bind fun _ =>
    Registry.register_agrees _ fields .struct

theorem Agrees.locating {α : Type} {step : Registering α} (member parameter : String)
    (agrees : Agrees (Registry.Retold listener) step) :
    Agrees (Registry.Retold listener) (ContractClient.locating member parameter step) := by
  intro registry other retold
  obtain ⟨same, retoldThen⟩ := agrees registry other retold
  unfold ContractClient.locating
  cases run : step registry with
  | mk ended after =>
    cases otherRun : step other with
    | mk otherEnded otherAfter =>
      rw [run, otherRun] at same retoldThen
      obtain rfl : ended = otherEnded := same
      cases ended with
      | error fault => exact ⟨rfl, retoldThen⟩
      | ok value => exact ⟨rfl, retoldThen⟩

mutual

theorem mapParameter_agrees (levels : Nat) (member : String) :
    ∀ parameter : Parameter,
      Agrees (Registry.Retold listener) (mapParameter levels member parameter)
  | ⟨name, text, internalType, components⟩ => by
    rw [mapParameter]
    refine Agrees.locating member name ((Agrees.lift _).bind fun tag => ?_)
    cases tag.base.primitive? with
    | some ty => exact .pure _
    | none => exact (mapTuple_agrees levels name internalType components).bind fun _ => .pure _

theorem mapTuple_agrees (levels : Nat) (name internalType : String) :
    ∀ components : Option (List Parameter),
      Agrees (Registry.Retold listener) (mapTuple levels name internalType components)
  | none => by
    rw [mapTuple]
    exact .throw _
  | some components => by
    rw [mapTuple]
    refine Agrees.unless ?_
    refine (Agrees.lift _).bind fun declared => (Agrees.lift _).bind fun below => ?_
    exact (mapFields_agrees below components).bind fun fields =>
      registerStruct_agrees declared fields

theorem mapFields_agrees (levels : Nat) :
    ∀ components : List Parameter, Agrees (Registry.Retold listener) (mapFields levels components)
  | [] => by
    rw [mapFields]
    exact .pure []
  | component :: rest => by
    rw [mapFields]
    exact (mapParameter_agrees levels "" component).bind fun _ =>
      (mapFields_agrees levels rest).bind fun _ => .pure _

end

theorem resolveParameter_agrees (member : String) (parameter : Parameter) :
    Agrees (Registry.Retold listener) (resolveParameter member parameter) :=
  Registry.agrees_look (fun _ _ => rfl) fun registry =>
    mapParameter_agrees registry.levels member parameter

theorem mapOutputs_agrees (member : String) (outputs : List Parameter) :
    ∀ names : List String,
      Agrees (Registry.Retold listener) (mapOutputs member names outputs) := by
  induction outputs with
  | nil =>
    intro names
    rw [mapOutputs]
    · exact .pure []
    · simp
  | cons output outputs inductionHypothesis =>
    intro names
    cases names with
    | nil =>
      rw [mapOutputs]
      · exact .pure []
      · simp
    | cons name names =>
      rw [mapOutputs]
      exact (resolveParameter_agrees member output).bind fun _ =>
        (inductionHypothesis names).bind fun _ => .pure _

theorem resolveResult_agrees (member : String) (outputs : List Parameter) :
    Agrees (Registry.Retold listener) (resolveResult member outputs) := by
  unfold resolveResult
  refine Agrees.unless (Agrees.unless ?_)
  refine (mapOutputs_agrees member outputs _).bind fun fields => ?_
  refine Registry.agrees_look (fun _ _ => rfl) fun registry => (Agrees.lift _).bind fun name => ?_
  exact Registry.register_agrees name fields .result

end

end ContractClient
