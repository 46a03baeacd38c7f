import MeshScript.CommandLine.Command
import MeshScript.Log
import MeshScript.Run
import MeshScript.Settings
/-!
# MeshScript.CommandLine -- the program

`CommandLine.run` takes the arguments and the files to an exit status, two texts and
the files afterwards.

* With a script file, that file is normalized in memory and printed. No file changes,
  and no configuration is read.
* Without one, the settings are loaded first: the file `geofix.toml` if it is there,
  over it the file of `--config`, over both the directories given as options. Then the
  export is normalized, and with `--report` its summary is printed.

What happens is told on the error output, as far as the log lets it through; a failure is told
there last. Reading the arguments, putting the settings together, printing the summary and writing
the log are left to `Libraries`.
-/

namespace MeshScript.CommandLine

/-! ## The command -/

namespace Argument

/-- The base name of the results. -/
def base : Argument where
  id := "base".toList
  position? := some 1
  required := true

/-- The shape that was exported. -/
def shape : Argument where
  id := "shape".toList
  position? := some 2
  requiredUnless? := some "script".toList

/-- A script file to be printed in its normal form. -/
def script : Argument where
  id := "script".toList
  long? := some "script".toList
  short? := some 's'
  conflicts := ["shape".toList, "report".toList]

/-- A configuration file. -/
def config : Argument where
  id := "config".toList
  long? := some "config".toList
  short? := some 'c'

/-- Where the export left its files. -/
def scratchDir : Argument where
  id := "scratch-dir".toList
  long? := some "scratch-dir".toList

/-- Where the results go. -/
def outputDir : Argument where
  id := "output-dir".toList
  long? := some "output-dir".toList
  short? := some 'o'

/-- Whether a summary is printed. -/
def report : Argument where
  id := "report".toList
  long? := some "report".toList
  isFlag := true

end Argument

/-- **The command.** -/
def command : Command where
  name := "geofix".toList
  version := "0.1.0".toList
  helpIfEmpty := true
  arguments := [.base, .shape, .script, .config, .scratchDir, .outputDir, .report]

/-! ## What the program is put together from -/

/-- **The libraries** of the program. -/
structure Libraries where
  /-- Reads the arguments. -/
  arguments : ArgumentParser
  /-- Puts the settings together. -/
  settings : Settings.Library
  /-- Gives the summary as JSON text, or the wording of a failure. -/
  json : Report → Except Text Text
  /-- Writes the log. -/
  log : Log.Library

/-- **The surroundings** of the program besides files. -/
structure Surroundings where
  /-- The filter that is set for the log. -/
  logSetting? : Option Text := none
  /-- The time of each line of the log. -/
  clock : Nat → Text

/-- The configuration file that is used without being named. -/
def localConfig : Path := "geofix.toml".toList

/-- The layers of settings that the options describe. -/
def layers (config? scratchDir? outputDir? : Option Text) : List Layer :=
  .file localConfig false ::
    (config?.toList.map (.file · true) ++
      scratchDir?.toList.map (fun dir => .override "scratch.dir".toList (.text dir)) ++
      outputDir?.toList.map (fun dir => .override "output.dir".toList (.text dir)))

/-- Loads the settings that were asked for. -/
def loadSettings (library : Settings.Library) (files : FileSystem) (given : Given) :
    Except library.Failure Layout :=
  Settings.load library files
    (layers (given.value? .config) (given.value? .scratchDir) (given.value? .outputDir))

/-! ## The program -/

/-- A failure: one line on the error output, behind the log. -/
def failed (log prefixText message : Text) : Outcome where
  exit := 1
  stderr := log ++ prefixText ++ message ++ ['\n']

/-- What had to be given was not, although the parser accepted the arguments. -/
def aborted (expected : Text) : Outcome where
  exit := 101
  stderr := expected ++ ['\n']

section Program

variable (libraries : Libraries) (surroundings : Surroundings)

/-- What the log has about these events. -/
def logged (events : List Event) : Text :=
  libraries.log.write (libraries.log.chosen surroundings.logSetting?) surroundings.clock events

/-- Normalizes one script file in memory. -/
def runScript (base : Text) (path : Path) (files : FileSystem) : Outcome :=
  match files.readText path with
  | .error cause => failed [] ("Error reading ".toList ++ path ++ ": ".toList) cause.message
  | .ok source =>
    let done := normalizeLogged source base
    let log := logged libraries surroundings done.events
    match done.outcome with
    | .error cause => failed log "Normalization error: ".toList cause.message
    | .ok output => { exit := 0, stdout := output, stderr := log }

/-- Normalizes an export with the settings at hand. -/
def runExport (layout : Layout) (base shape : Text) (report : Bool)
    (files : FileSystem) : Outcome × FileSystem :=
  let done := (normalizeExport layout base shape).run files
  let log := logged libraries surroundings done.events
  match done.outcome with
  | .error cause => (failed log "Normalization error: ".toList cause.message, done.files)
  | .ok summary =>
    if report then
      match libraries.json summary with
      | .error cause => (failed log "Error formatting report: ".toList cause, done.files)
      | .ok text => ({ exit := 0, stdout := text ++ ['\n'], stderr := log }, done.files)
    else ({ exit := 0, stderr := log }, done.files)

/-- Carries out what was asked for. -/
def perform (given : Given) (files : FileSystem) : Outcome × FileSystem :=
  match given.value? .base, given.value? .script, given.value? .shape with
  | none, _, _ => (aborted "base is a required argument".toList, files)
  | some base, some path, _ => (runScript libraries surroundings base path files, files)
  | some _, none, none => (aborted "shape is required unless --script is given".toList, files)
  | some base, none, some shape =>
    match loadSettings libraries.settings files given with
    | .error cause =>
      (failed [] "Configuration error: ".toList (libraries.settings.message cause), files)
    | .ok layout =>
      runExport libraries surroundings layout base shape (given.has .report) files

/-- **The program**: from its arguments and the files to its outcome and the files
afterwards. -/
def run (arguments : List Text) (files : FileSystem) : Outcome × FileSystem :=
  match libraries.arguments command arguments with
  | .error outcome => (outcome, files)
  | .ok given => perform libraries surroundings given files

end Program

end MeshScript.CommandLine
