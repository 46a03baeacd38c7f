import MeshScript.CommandLine.Command
/-!
# MeshScript.CommandLine.Arguments -- reading the arguments of a call

Options stand anywhere; `--` makes everything behind it positional. The value of a long option
follows it or an equals sign, the value of a short one follows it directly, behind an equals sign,
or as the next argument. A value that is an argument of its own does not begin with a dash, except
for the dash alone. Every command has two flags more than it declares, for help and for the version.

Arguments are read one by one and the first that does not fit ends the reading; so
does a flag that asks for the version or for help. What has to be there and what goes
together is checked at the end.
-/

namespace MeshScript.CommandLine

/-- Why the reading ends early. -/
inductive Stop
  | help
  | version
  | usage
  deriving DecidableEq, Repr

/-! ## Options -/

/-- **An option**: a declared argument, or one that every command has. -/
inductive Switch
  | argument (argument : Argument)
  | help
  | version
  deriving DecidableEq, Repr

namespace Command

/-- The option with this long name. -/
def long? (command : Command) (name : Text) : Option Switch :=
  match command.arguments.find? (·.long? = some name) with
  | some argument => some (.argument argument)
  | none =>
    if name = "help".toList then some .help
    else if name = "version".toList then some .version
    else none

/-- The option with this letter. -/
def short? (command : Command) (letter : Char) : Option Switch :=
  match command.arguments.find? (·.short? = some letter) with
  | some argument => some (.argument argument)
  | none =>
    match letter with
    | 'h' => some .help
    | 'V' => some .version
    | _ => none

end Command

/-! ## One argument after the other -/

/-- **What has been read.** -/
structure Reading where
  given : Given := {}
  /-- How many positional arguments there were. -/
  positionals : Nat := 0
  /-- The option that still waits for its value. -/
  waiting? : Option Argument := none
  /-- `--` has been read. -/
  rest : Bool := false
  deriving DecidableEq, Repr

namespace Reading

variable (reading : Reading)

/-- No option waits for its value. -/
def settled : Except Stop Unit :=
  if reading.waiting?.isSome then .error .usage else .ok ()

/-- Gives an argument its value; none is given twice. -/
def assign (argument : Argument) (value : Text) : Except Stop Reading :=
  if reading.given.has argument then .error .usage
  else .ok { reading with
    given := ⟨reading.given.values ++ [(argument.id, value)]⟩
    waiting? := none }

/-- Reads an option; `value?` is what is attached to it. -/
def switch (option : Switch) (value? : Option Text) : Except Stop Reading := do
  reading.settled
  match option, value? with
  | .argument argument, none =>
    if argument.isFlag then reading.assign argument []
    else return { reading with waiting? := some argument }
  | .argument argument, some value =>
    if argument.isFlag then throw .usage
    reading.assign argument value
  | .help, none => throw .help
  | .version, none => throw .version
  | _, some _ => throw .usage

variable (command : Command)

/-- Reads an argument that begins with two dashes. -/
def long (body : Text) : Except Stop Reading :=
  let name := body.takeWhile (· != '=')
  let value? :=
    match body.dropWhile (· != '=') with
    | [] => none
    | _ :: value => some value
  match command.long? name with
  | none => .error .usage
  | some option => reading.switch option value?

/-- Reads the letters behind a single dash. The first that takes a value takes all that
follows it. -/
def short (reading : Reading) : Text → Except Stop Reading
  | [] => .ok reading
  | letter :: attached =>
    match command.short? letter with
    | none => .error .usage
    | some option =>
      let takesValue :=
        match option with
        | .argument argument => !argument.isFlag
        | .help | .version => false
      if takesValue then
        reading.switch option
          (match attached with
            | [] => none
            | '=' :: value => some value
            | value => some value)
      else do short (← reading.switch option none) attached

/-- Reads a positional argument. -/
def positional (value : Text) : Except Stop Reading := do
  reading.settled
  match command.arguments.find? (·.position? = some (reading.positionals + 1)) with
  | none => throw .usage
  | some argument =>
    let reading ← reading.assign argument value
    return { reading with positionals := reading.positionals + 1 }

/-- **Reads one argument.** -/
def read (reading : Reading) (argument : Text) : Except Stop Reading :=
  if reading.rest then reading.positional command argument
  else
    match argument with
    | ['-', '-'] => .ok { reading with rest := true }
    | '-' :: '-' :: body => reading.long command body
    | '-' :: letter :: attached => reading.short command (letter :: attached)
    | _ =>
      match reading.waiting? with
      | some waiting => reading.assign waiting argument
      | none => reading.positional command argument

end Reading

/-! ## All arguments -/

/-- **What was given is complete**: what has to be there is, and nothing is that cannot be
given beside something else. -/
def Given.isComplete (given : Given) (command : Command) : Bool :=
  command.arguments.all fun argument =>
    if given.has argument then
      argument.conflicts.all fun other => (given.valueOf? other).isNone
    else
      !argument.required &&
        argument.requiredUnless?.all fun other => (given.valueOf? other).isSome

/-- Reads the arguments of a call. -/
def Command.read (command : Command) (arguments : List Text) : Except Stop Given := do
  if command.helpIfEmpty && arguments.isEmpty then throw .usage
  let reading ← arguments.foldlM (Reading.read command) {}
  reading.settled
  if !reading.given.isComplete command then throw .usage
  return reading.given

/-! ## Answers of its own -/

/-- How an argument is written. -/
def Argument.written (argument : Argument) : Text :=
  let name := '<' :: argument.id ++ ['>']
  match argument.position?, argument.long? with
  | some _, _ => if argument.required then name else '[' :: argument.id ++ [']']
  | none, long? =>
    (argument.short?.toList.flatMap fun letter => ['-', letter, ',', ' ']) ++
      "--".toList ++ long?.getD [] ++ if argument.isFlag then [] else ' ' :: name

/-- How the command is called. -/
def Command.usage (command : Command) : Text :=
  let (positionals, options) := command.arguments.partition (·.position?.isSome)
  "Usage: ".toList ++ command.name ++ " [OPTIONS]".toList ++
    (positionals.flatMap fun argument => ' ' :: argument.written) ++ "\n\nOptions:\n".toList ++
    (options.flatMap fun argument => "  ".toList ++ argument.written ++ ['\n']) ++
    "  -h, --help\n  -V, --version\n".toList

/-- What the program ends with if the reading ends early. -/
def Stop.outcome (command : Command) : Stop → Outcome
  | help => { exit := 0, stdout := command.usage }
  | version => { exit := 0, stdout := command.name ++ ' ' :: command.version ++ ['\n'] }
  | usage => { exit := 2, stderr := command.usage }

/-- **The parser** of arguments. -/
def parseArguments : ArgumentParser := fun command arguments =>
  (command.read arguments).mapError (Stop.outcome command)

end MeshScript.CommandLine
