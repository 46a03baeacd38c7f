import MeshScript.CommandLine.Arguments
import MeshScript.Proofs.FileSystem.Places
/-!
# MeshScript.Proofs.CommandLine.Arguments -- what is promised about arguments that are accepted

`ArgumentParser.Documented` states what the documentation of a parser says about arguments that it
accepts: what a command requires has been given. It leaves open which arguments are accepted, how
they are written, and what is printed for those that are not.

A parser that reads everything first and asks at the end whether it is complete keeps the promises
(`parseArguments_documented`).
-/

namespace MeshScript.CommandLine

/-- **One of the two cannot be given** beside the other. -/
def Argument.Excludes (argument other : Argument) : Prop :=
  other.id ∈ argument.conflicts ∨ argument.id ∈ other.conflicts

instance (argument other : Argument) : Decidable (argument.Excludes other) :=
  inferInstanceAs (Decidable (_ ∨ _))

/-- **Nothing was given that the argument cannot stand beside.** A parser does not insist on an
argument otherwise. -/
def Given.LeavesRoom (given : Given) (command : Command) (argument : Argument) : Prop :=
  ∀ other ∈ command.arguments, given.has other = true → ¬argument.Excludes other

/-- **What the documentation promises.** -/
structure ArgumentParser.Documented (parser : ArgumentParser) : Prop where
  /-- A required argument has been given. -/
  required {command : Command} {arguments : List Text} {given : Given} {argument : Argument} :
    parser command arguments = .ok given → argument ∈ command.arguments →
    given.LeavesRoom command argument → argument.required = true → given.has argument = true
  /-- An argument that is required unless another one is given has been given, if not that one. -/
  requiredUnless {command : Command} {arguments : List Text} {given : Given}
    {argument : Argument} {other : Text} :
    parser command arguments = .ok given → argument ∈ command.arguments →
    given.LeavesRoom command argument → argument.requiredUnless? = some other →
    given.valueOf? other = none → given.has argument = true

/-! ## A parser that asks at the end -/

/-- What is read is complete. -/
theorem isComplete_of_read {command : Command} {arguments : List Text} {given : Given}
    (h : command.read arguments = .ok given) : given.isComplete command = true := by
  unfold Command.read at h
  split at h
  · cases h
  · obtain ⟨reading, -, h⟩ := bind_eq_ok_iff.1 h
    obtain ⟨-, -, h⟩ := bind_eq_ok_iff.1 h
    split at h
    · cases h
    · rename_i hcomplete
      cases h
      simpa using hcomplete

/-- What is missing from something complete was not asked for. -/
theorem Given.isComplete_missing {given : Given} {command : Command} {argument : Argument}
    (h : given.isComplete command = true) (hmem : argument ∈ command.arguments)
    (hmissing : given.has argument = false) :
    argument.required = false ∧
      ∀ other ∈ argument.requiredUnless?, (given.valueOf? other).isSome = true := by
  have hargument := List.all_eq_true.1 h argument hmem
  rw [hmissing, if_neg Bool.false_ne_true, Bool.and_eq_true, Bool.not_eq_true'] at hargument
  refine ⟨hargument.1, fun other hother => ?_⟩
  have hunless := hargument.2
  rw [Option.mem_def.1 hother, Option.all_some] at hunless
  exact hunless

/-- What is accepted is complete. -/
theorem isComplete_of_parseArguments {command : Command} {arguments : List Text} {given : Given}
    (h : parseArguments command arguments = .ok given) : given.isComplete command = true := by
  unfold parseArguments at h
  cases hread : command.read arguments with
  | error stop =>
    rw [hread] at h
    cases h
  | ok read =>
    rw [hread] at h
    cases h
    exact isComplete_of_read hread

/-- **The parser** keeps the promises. -/
theorem parseArguments_documented : ArgumentParser.Documented parseArguments where
  required {command arguments given argument} h hmem _ hrequired := by
    cases hgiven : given.has argument with
    | true => rfl
    | false =>
      have hmissing := Given.isComplete_missing (isComplete_of_parseArguments h) hmem hgiven
      exact hmissing.1.symm.trans hrequired
  requiredUnless {command arguments given argument other} h hmem _ hother hnone := by
    cases hgiven : given.has argument with
    | true => rfl
    | false =>
      have hmissing := Given.isComplete_missing (isComplete_of_parseArguments h) hmem hgiven
      have hsome := hmissing.2 other hother
      rw [hnone] at hsome
      exact hsome

end MeshScript.CommandLine
