import MeshScript.Path
/-!
# MeshScript.CommandLine.Command -- what a program can be called with

A command declares its arguments. To read the arguments of a call against that declaration is the
business of a library: an `ArgumentParser` tells what was given, or it ends the program itself, with
a text that it words. What is promised about arguments that it accepts is stated in
`MeshScript.Proofs.CommandLine.Arguments`, and a parser that keeps these promises is in
`MeshScript.CommandLine.Arguments`.
-/

namespace MeshScript.CommandLine

/-- **What a program leaves behind** besides files. -/
structure Outcome where
  exit : Nat
  stdout : Text := []
  stderr : Text := []
  deriving DecidableEq, Repr

/-- **An argument** that a command declares. -/
structure Argument where
  /-- The name under which it is asked for. -/
  id : Text
  /-- Its place among the positional arguments, counted from one. -/
  position? : Option Nat := none
  /-- Its name behind two dashes. -/
  long? : Option Text := none
  /-- Its letter behind one dash. -/
  short? : Option Char := none
  /-- It has no value. -/
  isFlag : Bool := false
  /-- It has to be given. -/
  required : Bool := false
  /-- It has to be given unless this one is. -/
  requiredUnless? : Option Text := none
  /-- What cannot be given beside it. -/
  conflicts : List Text := []
  deriving DecidableEq, Repr

/-- **A command.** -/
structure Command where
  name : Text
  version : Text
  /-- Without any argument it shows how it is called. -/
  helpIfEmpty : Bool := false
  arguments : List Argument
  deriving DecidableEq, Repr

/-- **What was given**: arguments by their names, with their values. That of a flag is empty. -/
structure Given where
  values : List (Text × Text) := []
  deriving DecidableEq, Repr

namespace Given

/-- The value of the argument with this name. -/
def valueOf? (given : Given) (id : Text) : Option Text :=
  given.values.lookup id

/-- The value of an argument. -/
def value? (given : Given) (argument : Argument) : Option Text :=
  given.valueOf? argument.id

/-- The argument was given. -/
def has (given : Given) (argument : Argument) : Bool :=
  (given.value? argument).isSome

end Given

/-- **A parser of arguments**: what was given, or what the program ends with. -/
abbrev ArgumentParser : Type :=
  Command → List Text → Except Outcome Given

end MeshScript.CommandLine
