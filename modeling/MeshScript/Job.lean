import MeshScript.FileSystem.Access
import MeshScript.Stage
/-!
# MeshScript.Job -- work on a file system

A job reads and writes files, records events, and succeeds or fails. Its result holds
all three: the outcome, the file system it leaves behind, and the events. A failed job
leaves what its earlier steps wrote; nothing is rolled back.

`Job.access` and `Job.query` run one file operation and name the path that a failure is
reported with, which need not be the path that caused it.
-/

namespace MeshScript

/-! ## Failures -/

/-- The two files of a mesh export. -/
inductive Artifact
  | script
  | geometry
  deriving DecidableEq, Repr

/-- The name of the artifact. -/
def Artifact.label : Artifact → Text
  | script => "script".toList
  | geometry => "geometry".toList

/-- **Why a job fails.** -/
inductive JobError
  /-- A file that the mesh export should have left is not there. -/
  | artifactMissing (artifact : Artifact) (path : Path)
  /-- A file operation failed; the path is the one it is reported with. -/
  | fileFailed (path : Path) (cause : FileError)
  /-- The script could not be normalized. -/
  | stageFailed (cause : StageError)
  deriving DecidableEq, Repr

/-- The wording of the failure. -/
def JobError.message : JobError → Text
  | artifactMissing artifact path =>
    "missing ".toList ++ artifact.label ++ " artifact: ".toList ++ path ++
      " (did the mesh export run for this shape?)".toList
  | fileFailed path cause => "I/O error on ".toList ++ path ++ ": ".toList ++ cause.message
  | stageFailed cause => cause.message

/-! ## Jobs -/

/-- **What a job leaves behind.** -/
structure JobResult (α : Type) where
  outcome : Except JobError α
  files : FileSystem
  events : List Event

/-- **A job**: from the file system it finds to its result. -/
def Job (α : Type) : Type :=
  FileSystem → JobResult α

namespace Job

/-- Starts the job on a file system. -/
def run {α : Type} (job : Job α) (files : FileSystem) : JobResult α :=
  job files

/-- The second job goes on from the files of the first, if that succeeds. -/
protected def bind {α β : Type} (first : Job α) (next : α → Job β) : Job β := fun files =>
  let done := first files
  match done.outcome with
  | .error e => ⟨.error e, done.files, done.events⟩
  | .ok a =>
    let rest := next a done.files
    ⟨rest.outcome, rest.files, done.events ++ rest.events⟩

instance : Monad Job where
  pure a := fun files => ⟨.ok a, files, []⟩
  bind := Job.bind

/-- Fails and touches nothing. -/
def fail {α : Type} (e : JobError) : Job α := fun files => ⟨.error e, files, []⟩

/-- Records an event. -/
def note (event : Event) : Job Unit := fun files => ⟨.ok (), files, [event]⟩

/-- Looks at the file system. -/
def inspect {α : Type} (view : FileSystem → α) : Job α := fun files =>
  ⟨.ok (view files), files, []⟩

/-- An operation that reads; a failure is reported with `path`. -/
def query {α : Type} (path : Path) (operation : FileSystem → Except FileError α) : Job α :=
  fun files => ⟨(operation files).mapError (.fileFailed path), files, []⟩

/-- An operation that changes files; a failure is reported with `path`. -/
def access (path : Path) (operation : FileSystem → Except FileError FileSystem) : Job Unit :=
  fun files =>
    match operation files with
    | .ok changed => ⟨.ok (), changed, []⟩
    | .error cause => ⟨.error (.fileFailed path cause), files, []⟩

/-- A stage as a step of a job. -/
def through {α β : Type} (stage : Stage α β) (input : α) : Job β := fun files =>
  let done := stage.run input
  ⟨done.outcome.mapError .stageFailed, files, done.events⟩

@[simp] theorem run_pure {α : Type} (a : α) (files : FileSystem) :
    (pure a : Job α).run files = ⟨.ok a, files, []⟩ := rfl

theorem run_bind_of_ok {α β : Type} {first : Job α} {next : α → Job β} {files : FileSystem}
    {a : α} (h : (first.run files).outcome = .ok a) :
    (first >>= next).run files =
      let done := first.run files
      let rest := (next a).run done.files
      ⟨rest.outcome, rest.files, done.events ++ rest.events⟩ := by
  show Job.bind first next files = _
  unfold Job.bind
  simp only [run] at h
  simp only [h, run]

theorem run_bind_of_error {α β : Type} {first : Job α} {next : α → Job β}
    {files : FileSystem} {e : JobError} (h : (first.run files).outcome = .error e) :
    (first >>= next).run files =
      ⟨.error e, (first.run files).files, (first.run files).events⟩ := by
  show Job.bind first next files = _
  unfold Job.bind
  simp only [run] at h
  simp only [h, run]

end Job

end MeshScript
