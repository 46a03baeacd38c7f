import MeshScript.Run
import MeshScript.Proofs.Job
import MeshScript.Proofs.FileSystem.Operations
import MeshScript.Proofs.Normalize.CarriageReturn
/-!
# MeshScript.Proofs.Run.Steps -- where the parts of a run can end

One lemma for each part of a run: looking for an artifact, copying it, moving the copied
script without its blank lines, and normalizing a script in place. Each lists the ends of its
part, with the file system at that end in terms of `put` and `erase`.
-/

namespace MeshScript

open Job (Ends)

variable {files after : FileSystem}

theorem findArtifact_bind_ends {β : Type} {artifact : Artifact} {path : Path}
    {next : Path → Job β} {outcome : Except JobError β} :
    Ends (findArtifact artifact path >>= next) files outcome after ↔
      (files.isFile path = false ∧ outcome = .error (.artifactMissing artifact path) ∧
        after = files) ∨
      (files.isFile path = true ∧ Ends (next path) files outcome after) := by
  cases hfile : files.isFile path with
  | false =>
    have hfind : Ends (findArtifact artifact path) files
        (.error (.artifactMissing artifact path)) files := by
      rw [findArtifact, Job.ends_inspect_bind, hfile]
      exact Job.ends_fail.2 ⟨rfl, rfl⟩
    rw [Job.ends_bind_of_error hfind]
    simp
  | true =>
    have hfind : Ends (findArtifact artifact path) files (.ok path) files := by
      rw [findArtifact, Job.ends_inspect_bind, hfile]
      exact Job.ends_pure.2 ⟨rfl, rfl⟩
    rw [Job.ends_bind_of_ok hfind]
    simp

theorem copyArtifact_bind_ends {β : Type} {source target : Path} {next : Unit → Job β}
    {outcome : Except JobError β} :
    Ends (copyArtifact source target >>= next) files outcome after ↔
      (∃ cause, files.copy source target = .error cause ∧
        outcome = .error (.fileFailed source cause) ∧ after = files) ∨
      ∃ copied, files.copy source target = .ok copied ∧ Ends (next ()) copied outcome after := by
  cases hcopy : files.copy source target with
  | error cause =>
    have hfails : Ends (copyArtifact source target) files (.error (.fileFailed source cause))
        files :=
      Job.ends_access_bind.2 (Or.inl ⟨cause, hcopy, rfl, rfl⟩)
    rw [Job.ends_bind_of_error hfails]
    simp
  | ok copied =>
    have hcopies : Ends (copyArtifact source target) files (.ok ()) copied :=
      Job.ends_access_bind.2 (Or.inr ⟨copied, hcopy, rfl, rfl⟩)
    rw [Job.ends_bind_of_ok hcopies]
    simp

/-- **Moving without blanks** from a file: it can fail for the encoding of what it reads, or
because the target cannot be written. Once that is written nothing fails any more. -/
theorem moveWithoutBlanks_ends {interim target : Path} {place : Location} {bytes : ByteArray}
    {outcome : Except JobError (Nat × Nat)} (hinterim : files.IsPlainAt interim)
    (htarget : files.IsPlainAt target) (hapart : files.Apart interim target)
    (hplace : files.place? interim = some place) (hroot : place ≠ [])
    (hfile : files.node? place = some (.file bytes))
    (h : Ends (moveWithoutBlanks interim target) files outcome after) :
    (Text.decode? bytes = none ∧ outcome = .error (.fileFailed interim .invalidEncoding) ∧
      after = files) ∨
    ∃ source, Text.decode? bytes = some source ∧
      ((∃ cause, outcome = .error (.fileFailed target cause) ∧ after = files) ∨
        ∃ script, files.place? target = some script ∧ files.CanHoldFile script ∧
          outcome = .ok (source.lines.length, source.lines.countP (·.isBlank)) ∧
          after = (files.put script (.file source.withoutBlanks.encode)).erase place) := by
  have hread := FileSystem.readText_of_file hroot hfile hplace
  unfold moveWithoutBlanks at h
  rcases Job.ends_query_bind.1 h with ⟨cause, hcause, rfl, rfl⟩ | ⟨source, hsource, h⟩
  · rw [hread] at hcause
    split at hcause
    · cases hcause
    · rename_i hdecode
      obtain rfl := Except.error.inj hcause
      exact Or.inl ⟨hdecode, rfl, rfl⟩
  · have hdecode : Text.decode? bytes = some source := by
      rw [hread] at hsource
      split at hsource
      · rename_i hdecode
        rw [hdecode, Except.ok.inj hsource]
      · cases hsource
    refine Or.inr ⟨source, hdecode, ?_⟩
    rcases Job.ends_access_bind.1 h with ⟨cause, -, rfl, rfl⟩ | ⟨written, hwrite, h⟩
    · exact Or.inl ⟨cause, rfl, rfl⟩
    · obtain ⟨script, hscript, hcan, rfl⟩ := FileSystem.write_eq_ok htarget hwrite
      have hchange := FileSystem.OnlyFilesChanged.put hcan (Text.encode source.withoutBlanks)
      -- the copy is still there when it is removed, since the script went to another place
      have hne : place ≠ script := fun heq => hapart place hplace (heq ▸ hscript)
      have hkept : (files.put script (.file source.withoutBlanks.encode)).node? place =
          some (.file bytes) := by
        rw [FileSystem.node?_put, if_neg hne, hfile]
      have hremove := FileSystem.remove_of_file hroot hkept
        (hchange.toSameTree.resolve_eq_ok_iff.1 (hinterim.place?_eq_some_iff.1 hplace))
      rcases Job.ends_access_bind.1 h with ⟨cause, hcause, -⟩ | ⟨removed, hremoved, h⟩
      · cases hremove.symm.trans hcause
      · obtain rfl := Except.ok.inj (hremove.symm.trans hremoved)
        simp only [Job.ends_note_bind, Job.ends_pure] at h
        obtain ⟨rfl, rfl⟩ := h
        exact Or.inr ⟨script, hscript, hcan, rfl, rfl⟩

/-- The last part of a run: a script is read, normalized and written back. -/
def normalizeInPlace (base : Text) (script geometry : Path) (counts : Nat × Nat) : Job Report := do
  let source ← Job.query script (·.readText script)
  let stripped := Script.parse source
  let kept ← Job.through clean stripped
  let excluded := stripped.length - kept.length
  Job.note (.scriptCleaned excluded kept.length)
  let finished ← Job.through (retarget base) kept
  Job.note (.scriptFinished finished.edits.total finished.appended finished.surfaces.raw)
  Job.access script (·.writeText script finished.script.render)
  Job.note (.scriptWritten script)
  return {
    base
    script
    geometry
    linesRead := counts.1
    blankDropped := counts.2
    excluded
    edits := finished.edits
    appended := finished.appended
    surfaces := finished.surfaces.names }

/-- **A run in three parts.** -/
theorem normalizeExport_eq (layout : Layout) (base shape : Text) :
    normalizeExport layout base shape = (do
      Job.note (.runStarted base shape)
      let placed ← placeArtifacts layout base shape
      let counts ← moveWithoutBlanks placed.script (layout.finalScript base)
      normalizeInPlace base (layout.finalScript base) placed.geometry counts) := rfl

/-- **The report** on a finished script, with the counts of the lines that did not come so far. -/
def Finished.report (finished : Finished) (base : Text) (script geometry : Path)
    (counts : Nat × Nat) (excluded : Nat) : Report where
  base := base
  script := script
  geometry := geometry
  linesRead := counts.1
  blankDropped := counts.2
  excluded := excluded
  edits := finished.edits
  appended := finished.appended
  surfaces := finished.surfaces.names

/-- **Normalizing in place** ends with what becomes of the kept lines; nothing can go wrong
with the file, because it was just written. -/
theorem normalizeInPlace_ends {base text : Text} {script geometry : Path} {counts : Nat × Nat}
    {place : Location} {outcome : Except JobError Report}
    (hplace : files.place? script = some place) (hroot : place ≠ [])
    (hfile : files.node? place = some (.file text.encode))
    (h : Ends (normalizeInPlace base script geometry counts) files outcome after) :
    (∃ e, finish base (Script.parse text).keptLines = .error e ∧
      outcome = .error (.stageFailed e) ∧ after = files) ∨
    ∃ finished, finish base (Script.parse text).keptLines = .ok finished ∧
      outcome = .ok (finished.report base script geometry counts
        ((Script.parse text).length - (Script.parse text).keptLines.length)) ∧
      after = files.put place (.file finished.script.render.encode) := by
  have hread : files.readText script = .ok text := by
    rw [FileSystem.readText_of_file hroot hfile hplace, Text.decode?_encode]
  unfold normalizeInPlace at h
  rcases Job.ends_query_bind.1 h with ⟨cause, hcause, -⟩ | ⟨source, hsource, h⟩
  · cases hread.symm.trans hcause
  cases hread.symm.trans hsource
  -- cleaning always succeeds; what it keeps are the kept lines
  rcases Job.ends_through_bind.1 h with ⟨cause, hcause, -⟩ | ⟨kept, hkept, h⟩
  · cases (clean_outcome _).symm.trans hcause
  cases (clean_outcome _).symm.trans hkept
  rw [Job.ends_note_bind] at h
  rcases Job.ends_through_bind.1 h with ⟨e, he, rfl, rfl⟩ | ⟨finished, hfinished, h⟩
  · rw [retarget_outcome] at he
    exact Or.inl ⟨e, he, rfl, rfl⟩
  · rw [retarget_outcome] at hfinished
    have hwrite := FileSystem.write_of_file hroot hfile hplace finished.script.render.encode
    rw [Job.ends_note_bind] at h
    rcases Job.ends_access_bind.1 h with ⟨cause, hcause, -⟩ | ⟨changed, hchanged, h⟩
    · cases hwrite.symm.trans hcause
    · cases hwrite.symm.trans hchanged
      rw [Job.ends_note_bind, Job.ends_pure] at h
      exact Or.inr ⟨finished, hfinished, h.1, h.2⟩

end MeshScript
