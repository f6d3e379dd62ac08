/-
This file says which arguments a synthesizer gives for parameters, whatever it was asked for before.
If the parameters can be mapped there is one argument for each of them, in their order and with the
type of its own. How the arguments are called depends on the parameters alone: the numbers start
anew with every list, and no earlier member takes a name from a later one (`buildArguments_named`).
-/

import ContractClient.Proofs.Client.Sessions

namespace ContractClient

/-- After any calls, parameters that can be mapped get arguments with the names that are given to
them in turn. -/
theorem afterTasks_buildArguments {levels : Nat} {parameters : List Parameter}
    (mappable : ∀ parameter ∈ parameters, parameter.Mappable levels) (contract : Json)
    (style : Style) (collector : Collector) (tasks : List Task) (member : String) :
    ∃ arguments after,
      buildArguments member parameters
        (afterTasks tasks (.startWithin levels contract style collector)) =
        (.ok arguments, after) ∧
      arguments.map (·.name) = argumentNames parameters ∧
      Typed after.registry.interfaces parameters arguments := by
  have stands := afterTasks_stands tasks
    (Pass.startWithin_stands levels contract style collector)
  generalize afterTasks tasks (.startWithin levels contract style collector) = reached at stands
  have ends := (buildArguments_builds stands.sound member parameters).ends
  rw [stands.levels, requireParameters_eq_ok_iff.mpr mappable] at ends
  obtain ⟨arguments, gives⟩ := outcome_eq_ok_iff.mp ends
  have runs : buildArguments member parameters reached =
      (.ok arguments, (buildArguments member parameters reached).2) := Prod.ext gives rfl
  have built : Gives (style.reservedNames contract.display) reached
      (buildArguments member parameters) _ := buildArguments_gives member parameters
  obtain ⟨_, named, typed⟩ := built arguments _ runs
  exact ⟨arguments, _, runs, named, typed stands.sound⟩

/-- Each list of parameters has its names. They differ, each is an identifier and no reserved word,
and none is that of the options. A parameter keeps its own, without one underscore in front, where
it is such a name and no argument before has it; the others get numbers that grow along the list,
each the least from the counter on that gives a free name. Whatever was called for before, the
parameters get arguments with these names if they can be mapped, one for each of them. -/
theorem buildArguments_named (parameters : List Parameter) :
    ∃ names numbers,
      ArgumentsNamed [optionsName] 0 parameters names numbers ∧
      names.Nodup ∧
      (∀ name ∈ names, isIdentifier name ∧ name ∉ reservedWords ∧ name ≠ optionsName) ∧
      ∀ levels contract style collector tasks member,
        (∀ parameter ∈ parameters, parameter.Mappable levels) →
          ∃ arguments after,
            buildArguments member parameters
              (afterTasks tasks (.startWithin levels contract style collector)) =
              (.ok arguments, after) ∧
            arguments.map (·.name) = names ∧
            Typed after.registry.interfaces parameters arguments := by
  obtain ⟨numbers, named⟩ := argumentNamesFrom_named parameters [optionsName] 0
  obtain ⟨distinct, _, apart⟩ := List.nodup_append.mp (argumentNames_nodup parameters)
  refine ⟨argumentNames parameters, numbers, named, distinct, fun name isName => ?_, ?_⟩
  · obtain ⟨isIdentifier, notReserved⟩ :=
      isArgumentName_iff.mp (isArgumentName_of_mem_argumentNames name isName)
    exact ⟨isIdentifier, notReserved, apart name isName optionsName (List.mem_singleton_self _)⟩
  · intro levels contract style collector tasks member mappable
    exact afterTasks_buildArguments mappable contract style collector tasks member

/-- Parameters whose names are kept, taken, reserved, or those of numbers. -/
def mixedParameters : List Parameter :=
  ["_to", "", "arg0", "options", "to", "arg5", "class", ""].map fun name =>
    ⟨name, "uint256", "", none⟩

theorem mixedParameters_mappable :
    ∀ parameter ∈ mixedParameters, parameter.Mappable mappableLevels := by
  have passes : requireParameters mappableLevels "" mixedParameters = .ok () := rfl
  exact requireParameters_eq_ok_iff.mp passes

/-- Arguments are built, and building others fails. -/
def mixedTasks : List Task :=
  [.synthesize ⟨.function, "pay", mixedParameters, [], "nonpayable"⟩,
    .arguments "pay" [⟨"", "uint256", "", none⟩, ⟨"", "uint7", "", none⟩]]

/-- The names come out as if nothing had been called for before. -/
theorem mixedParameters_named :
    (∀ parameter ∈ mixedParameters, parameter.Mappable mappableLevels) ∧
      ∃ arguments after,
        buildArguments "move" mixedParameters
          (afterTasks mixedTasks (.startWithin mappableLevels (.text "Token")
            Options.standard.style .absent)) = (.ok arguments, after) ∧
        arguments.map (·.name) =
          ["to", "arg0", "arg1", "arg2", "arg3", "arg5", "arg4", "arg6"] := by
  obtain ⟨names, _, _, _, _, builds⟩ := buildArguments_named mixedParameters
  obtain ⟨arguments, after, runs, _, _⟩ := builds mappableLevels (.text "Token")
    Options.standard.style .absent mixedTasks "move" mixedParameters_mappable
  have found : endsWell (fun arguments _ => decide (arguments.map (·.name) =
        ["to", "arg0", "arg1", "arg2", "arg3", "arg5", "arg4", "arg6"]))
      (buildArguments "move" mixedParameters
        (afterTasks mixedTasks (.startWithin mappableLevels (.text "Token")
          Options.standard.style .absent))) := by
    decide +kernel
  have named := of_endsWell found runs
  exact ⟨mixedParameters_mappable, arguments, after, runs, of_decide_eq_true named⟩

end ContractClient
