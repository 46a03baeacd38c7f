import MeshScript.Proofs.Run.Steps
/-!
# MeshScript.Proofs.Run.Missing -- missing artifacts come first

Both artifacts are looked for before anything is written. So a run, and already the placing of the
artifacts, reports a missing one exactly if there is one, whatever else would have failed later:
the script before the geometry, under the path where it was looked for. The file system is then
the one that was found (`artifactMissing_iff`).

An artifact is missing if its path leads to no regular file: if nothing is there, or a directory,
or if the way to it ends early, at a name that is missing or at a file.
-/

namespace MeshScript

open Job (Ends FailsOnly)

variable {layout : Layout} {base shape : Text} {files after : FileSystem}

/-- **A regular file** is where the path leads. -/
def FileSystem.HasFile (files : FileSystem) (path : Path) : Prop :=
  ∃ place bytes, files.place? path = some place ∧ files.node? place = some (.file bytes)

theorem FileSystem.isFile_eq_false_iff {path : Path} :
    files.isFile path = false ↔ ¬ files.HasFile path := by
  rw [← Bool.not_eq_true, isFile_eq_true_iff, HasFile]

/-- Nothing, a directory, a file as a directory, a name missing on the way; and a way back. -/
example :
    let files : FileSystem :=
      .ofList [(["d".toList], .directory), (["f".toList], .file .empty)] []
    ["x".toList, "d".toList, "f/".toList, "f/x".toList, "x/../f".toList, "d/../f".toList].map
        files.isFile =
      [false, false, false, false, false, true] := by
  decide +kernel

/-- **The first missing artifact**, and the path under which it was looked for. -/
inductive Layout.FirstMissing (layout : Layout) (shape : Text) (files : FileSystem) :
    Artifact → Path → Prop
  | script (hscript : ¬ files.HasFile layout.exportedScript) :
      FirstMissing layout shape files .script layout.exportedScript
  | geometry (hscript : files.HasFile layout.exportedScript)
      (hgeometry : ¬ files.HasFile (layout.exportedGeometry shape)) :
      FirstMissing layout shape files .geometry (layout.exportedGeometry shape)

theorem Layout.exists_firstMissing_iff :
    (∃ artifact path, layout.FirstMissing shape files artifact path) ↔
      ¬ files.HasFile layout.exportedScript ∨ ¬ files.HasFile (layout.exportedGeometry shape) := by
  constructor
  · rintro ⟨artifact, path, hscript | ⟨-, hgeometry⟩⟩
    · exact Or.inl hscript
    · exact Or.inr hgeometry
  · intro h
    by_cases hscript : files.HasFile layout.exportedScript
    · exact ⟨_, _, .geometry hscript (h.resolve_left (not_not_intro hscript))⟩
    · exact ⟨_, _, .script hscript⟩

/-! ## What can fail once both artifacts are there -/

/-- The error is not that an artifact is missing. -/
def JobError.IsLate (e : JobError) : Prop :=
  ∀ artifact path, e ≠ .artifactMissing artifact path

theorem JobError.isLate_fileFailed (path : Path) (cause : FileError) :
    (JobError.fileFailed path cause).IsLate := by
  intro artifact missing heq
  cases heq

theorem JobError.isLate_stageFailed (cause : StageError) : (JobError.stageFailed cause).IsLate := by
  intro artifact missing heq
  cases heq

theorem JobError.not_isLate_artifactMissing (artifact : Artifact) (path : Path) :
    ¬ (JobError.artifactMissing artifact path).IsLate :=
  fun h => h artifact path rfl

theorem copyArtifact_failsOnly (source target : Path) :
    FailsOnly (copyArtifact source target) JobError.IsLate := by
  apply Job.failsOnly_bind
  · exact Job.failsOnly_access (JobError.isLate_fileFailed source)
  · intro _
    exact Job.failsOnly_note _

theorem moveWithoutBlanks_failsOnly (interim target : Path) :
    FailsOnly (moveWithoutBlanks interim target) JobError.IsLate := by
  refine Job.failsOnly_bind (Job.failsOnly_query (JobError.isLate_fileFailed _)) fun source => ?_
  refine Job.failsOnly_bind (Job.failsOnly_access (JobError.isLate_fileFailed _)) fun _ => ?_
  refine Job.failsOnly_bind (Job.failsOnly_access (JobError.isLate_fileFailed _)) fun _ => ?_
  exact Job.failsOnly_bind (Job.failsOnly_note _) fun _ => Job.failsOnly_pure _

theorem normalizeInPlace_failsOnly (base : Text) (script geometry : Path) (counts : Nat × Nat) :
    FailsOnly (normalizeInPlace base script geometry counts) JobError.IsLate := by
  refine Job.failsOnly_bind (Job.failsOnly_query (JobError.isLate_fileFailed _)) fun source => ?_
  refine Job.failsOnly_bind (Job.failsOnly_through JobError.isLate_stageFailed) fun kept => ?_
  refine Job.failsOnly_bind (Job.failsOnly_note _) fun _ => ?_
  refine Job.failsOnly_bind (Job.failsOnly_through JobError.isLate_stageFailed) fun finished => ?_
  refine Job.failsOnly_bind (Job.failsOnly_note _) fun _ => ?_
  refine Job.failsOnly_bind (Job.failsOnly_access (JobError.isLate_fileFailed _)) fun _ => ?_
  exact Job.failsOnly_bind (Job.failsOnly_note _) fun _ => Job.failsOnly_pure _

/-! ## Missing artifacts -/

/-- **Placing the artifacts** misses one exactly if one is missing, and then changes nothing. -/
theorem placeArtifacts_missing_iff {artifact : Artifact} {path : Path} :
    Ends (placeArtifacts layout base shape) files (.error (.artifactMissing artifact path)) after ↔
      layout.FirstMissing shape files artifact path ∧ after = files := by
  have hlate := JobError.not_isLate_artifactMissing artifact path
  unfold placeArtifacts
  rw [findArtifact_bind_ends, findArtifact_bind_ends, FileSystem.isFile_eq_false_iff,
    FileSystem.isFile_eq_false_iff, FileSystem.isFile_eq_true_iff]
  constructor
  · rintro (⟨hscript, heq, rfl⟩ | ⟨hscript, ⟨hgeometry, heq, rfl⟩ | ⟨-, hends⟩⟩)
    · cases heq
      exact ⟨.script hscript, rfl⟩
    · cases heq
      exact ⟨.geometry hscript hgeometry, rfl⟩
    · -- both artifacts were found, so what is left fails otherwise
      exfalso
      apply hlate
      refine Job.failsOnly_bind (copyArtifact_failsOnly _ _) (fun _ => ?_) files _ hends.1
      refine Job.failsOnly_bind (copyArtifact_failsOnly _ _) fun _ => ?_
      exact Job.failsOnly_bind (Job.failsOnly_note _) fun _ => Job.failsOnly_pure _
  · rintro ⟨hscript | ⟨hscript, hgeometry⟩, rfl⟩
    · exact Or.inl ⟨hscript, rfl, rfl⟩
    · exact Or.inr ⟨hscript, Or.inl ⟨hgeometry, rfl, rfl⟩⟩

/-- A run misses an artifact exactly if placing the artifacts does. -/
theorem normalizeExport_missing_iff_placeArtifacts {artifact : Artifact} {path : Path} :
    Ends (normalizeExport layout base shape) files (.error (.artifactMissing artifact path)) after ↔
      Ends (placeArtifacts layout base shape) files (.error (.artifactMissing artifact path))
        after := by
  rw [normalizeExport_eq, Job.ends_note_bind]
  apply Job.ends_bind_of_failsOnly _ (JobError.not_isLate_artifactMissing artifact path)
  intro placed
  apply Job.failsOnly_bind (moveWithoutBlanks_failsOnly _ _)
  intro counts
  exact normalizeInPlace_failsOnly _ _ _ _

/-- **Missing artifacts come first and change nothing.** On every file system, placing the
artifacts and a whole run end with a missing artifact exactly if one of the two is no regular file;
they name the first such one with its path, and leave the file system as it was. -/
theorem artifactMissing_iff (layout : Layout) (base shape : Text) (files : FileSystem) :
    (∀ artifact path after,
      Ends (placeArtifacts layout base shape) files (.error (.artifactMissing artifact path))
          after ↔
        layout.FirstMissing shape files artifact path ∧ after = files) ∧
    (∀ artifact path after,
      Ends (normalizeExport layout base shape) files (.error (.artifactMissing artifact path))
          after ↔
        layout.FirstMissing shape files artifact path ∧ after = files) ∧
    ((∃ artifact path, layout.FirstMissing shape files artifact path) ↔
      ¬ files.HasFile layout.exportedScript ∨
        ¬ files.HasFile (layout.exportedGeometry shape)) := by
  refine ⟨?_, ?_, Layout.exists_firstMissing_iff⟩
  · intro artifact path after
    exact placeArtifacts_missing_iff
  · intro artifact path after
    rw [normalizeExport_missing_iff_placeArtifacts, placeArtifacts_missing_iff]

end MeshScript
