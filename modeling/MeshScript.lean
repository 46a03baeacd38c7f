import MeshScript.Main
import MeshScript.CommandLine
import MeshScript.Proofs.Normalize.NormalForm
import MeshScript.Proofs.Normalize.Excluded
import MeshScript.Proofs.Run.InMemory
import MeshScript.Proofs.Run.Geometry
import MeshScript.Proofs.Run.Batch
import MeshScript.Proofs.Run.Frame
import MeshScript.Proofs.Normalize.BaseName
import MeshScript.Proofs.Normalize.WallGroup
import MeshScript.Proofs.Run.Missing
import MeshScript.Proofs.Run.Report
import MeshScript.Proofs.Run.LineEnds
import MeshScript.Proofs.Run.Merged
import MeshScript.Proofs.Settings.Precedence
import MeshScript.Proofs.CommandLine.Modes
import MeshScript.Proofs.Substitution.Tokens
import MeshScript.Proofs.Substitution.Turns
import MeshScript.Proofs.Script
import MeshScript.Proofs.Substitution.Log
import MeshScript.Proofs.Substitution.Settled
import MeshScript.Proofs.Substitution.GroupOrder
import MeshScript.Proofs.Cleaning
import MeshScript.Proofs.SurfaceList.Names
