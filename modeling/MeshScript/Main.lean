import MeshScript.CommandLine.Standard
/-!
# MeshScript.Main -- the program on a real file system

The outer layer: it takes those files of the disk that a call can touch into a
`FileSystem` value, lets `CommandLine.run` work on that, and writes the differences
back. What the program does is said in `MeshScript.CommandLine`. All lines of its log have the
time at which it was started, in milliseconds of the system's own clock.
-/

namespace MeshScript.Main

/-- The name of a location for the system. -/
def systemName (location : Location) : String :=
  String.ofList ('/' :: List.intercalate ['/'] location)

/-- The directories at and below this one are filled by the system. -/
def generatedRoot : Location := ["proc".toList]

/-- What the disk has at a location, if anything. A link leads to where the system says
that it ends. -/
def nodeOnDisk? (location : Location) : IO (Option Node) := do
  let name := System.mkFilePath [systemName location]
  try
    match (← name.symlinkMetadata).type with
    | .dir => return some (if generatedRoot.isPrefixOf location then .generated else .directory)
    | .file => return some (.file (← IO.FS.readBinFile name))
    | .other => return some .device
    | .symlink => return some (.link (Path.names (← IO.FS.realPath name).toString.toList))
  catch _ => return none

/-- Takes a location of the disk into the file system, if something is there. -/
def takeIn (files : FileSystem) (location : Location) : IO FileSystem := do
  if location.isEmpty || (files.node? location).isSome then return files
  match ← nodeOnDisk? location with
  | some node => return files.put location node
  | none => return files

/-- Takes everything on the way to a location into the file system. -/
def takeInWay (files : FileSystem) (location : Location) : IO FileSystem :=
  ((List.range (location.length + 1)).map location.take).foldlM takeIn files

/-- Takes one name on the way along a path into the file system, and where it leads. -/
def takeInName (state : FileSystem × Location) (name : Text) : IO (FileSystem × Location) := do
  let (files, here) := state
  if name = ['.'] then return state
  else if name = ['.', '.'] then return (files, here.dropLast)
  else
    let files ← takeIn files (here ++ [name])
    match files.node? (here ++ [name]) with
    | some (.link goal) => return (← takeInWay files goal, goal)
    | _ => return (files, here ++ [name])

/-- Takes everything along a path into the file system. -/
def takeInPath (files : FileSystem) (path : Path) : IO FileSystem := do
  let start := if path.isAbsolute then [] else files.workingDirectory
  return (← path.names.foldlM takeInName (files, start)).1

/-- The configuration files that may be read, under all names they may have. -/
def configFiles (files : FileSystem) (given : CommandLine.Given) : List Path :=
  (CommandLine.localConfig :: (given.value? .config).toList).flatMap (Settings.searchPaths files)

/-- The files of one run. -/
def runFiles (layout : Layout) (base shape : Text) : List Path :=
  [ layout.exportedScript, layout.exportedGeometry shape, layout.finalScript base,
    layout.interimScript base, layout.finalGeometry base ]

/-- The part of the disk that the arguments can touch. -/
def gather (arguments : List Text) : IO FileSystem := do
  let here := (← IO.currentDir).toString.toList
  let start ← takeInWay (.ofList [] (Path.names here)) (Path.names here)
  match CommandLine.standard.arguments CommandLine.command arguments with
  | .error _ => return start
  | .ok given =>
    match given.value? .base, given.value? .script, given.value? .shape with
    | some _, some path, _ => takeInPath start path
    | some base, none, some shape =>
      let files ← (configFiles start given).foldlM takeInPath start
      match CommandLine.loadSettings Settings.layered files given with
      | .ok layout => (runFiles layout base shape).foldlM takeInPath files
      | .error _ => return files
    | _, _, _ => return start

/-- Makes the disk hold what the file system holds. -/
def writeBack (before after : FileSystem) : IO Unit := do
  for (location, node) in after.toList do
    if before.node? location != some node then
      if let .file bytes := node then
        IO.FS.writeBinFile (System.mkFilePath [systemName location]) bytes
  for (location, _) in before.toList do
    if (after.node? location).isNone then
      IO.FS.removeFile (System.mkFilePath [systemName location])

end MeshScript.Main

/-- Runs the program. -/
def main (arguments : List String) : IO UInt32 := do
  let arguments := arguments.map String.toList
  let time := Nat.toDigits 10 (← IO.monoMsNow)
  let surroundings : MeshScript.CommandLine.Surroundings :=
    { logSetting? := (← IO.getEnv "GEOFIX_LOG").map String.toList, clock := fun _ => time }
  let before ← MeshScript.Main.gather arguments
  let (outcome, after) :=
    MeshScript.CommandLine.run MeshScript.CommandLine.standard surroundings arguments before
  MeshScript.Main.writeBack before after
  (← IO.getStdout).putStr (String.ofList outcome.stdout)
  (← IO.getStderr).putStr (String.ofList outcome.stderr)
  return outcome.exit.toUInt32
