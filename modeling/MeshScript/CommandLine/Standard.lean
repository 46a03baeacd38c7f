import MeshScript.CommandLine
import MeshScript.CommandLine.Arguments
import MeshScript.Log.Plain
import MeshScript.Settings.Layered
/-!
# MeshScript.CommandLine.Standard -- the libraries that the program runs with
-/

namespace MeshScript.CommandLine

/-- **The libraries** that come with this one. -/
def standard : Libraries where
  arguments := parseArguments
  settings := Settings.layered
  json report := .ok report.render
  log := Log.plain

end MeshScript.CommandLine
