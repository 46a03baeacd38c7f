import MeshScript.Proofs.FileSystem.Differences
import MeshScript.Proofs.Run.Exits
/-!
# MeshScript.Proofs.Run.Frame -- a run changes nothing but its outputs

Every operation of a run that writes or removes does so at an output. So whatever the run comes
to, the file system it leaves differs from the one it found in the files at the outputs at most
(`normalizeExport_differIn`): no other file is touched, and no path leads elsewhere afterwards.
-/

namespace MeshScript

open FileSystem (DifferIn)
open Job (Keeps)

variable {layout : Layout} {base shape : Text} {origin : FileSystem}

theorem findArtifact_keeps {inv : FileSystem → Prop} (artifact : Artifact) (path : Path) :
    Keeps (findArtifact artifact path) inv := by
  refine Job.keeps_bind (Job.keeps_of_files_eq fun _ => rfl) fun found => ?_
  cases found <;> exact Job.keeps_of_files_eq fun _ => rfl

section Parts

variable (hplain : layout.PlainOutputs base origin)

include hplain

theorem copyArtifact_keeps (source : Path) {target : Path} (hmem : target ∈ layout.outputs base) :
    Keeps (copyArtifact source target) (DifferIn (origin.placesOf (layout.outputs base)) origin) := by
  refine Job.keeps_bind (Job.keeps_access fun files copied h hcopy => ?_)
    fun _ => Job.keeps_of_files_eq fun _ => rfl
  exact h.copy_right hmem (hplain.isPlainAt hmem) hcopy

theorem placeArtifacts_keeps : Keeps (placeArtifacts layout base shape)
    (DifferIn (origin.placesOf (layout.outputs base)) origin) := by
  refine Job.keeps_bind (findArtifact_keeps _ _) fun script => ?_
  refine Job.keeps_bind (findArtifact_keeps _ _) fun geometry => ?_
  refine Job.keeps_bind (copyArtifact_keeps hplain _ (by simp [Layout.outputs])) fun _ => ?_
  refine Job.keeps_bind (copyArtifact_keeps hplain _ (by simp [Layout.outputs])) fun _ => ?_
  exact Job.keeps_note_bind (Job.keeps_of_files_eq fun _ => rfl)

theorem moveWithoutBlanks_keeps {interim target : Path} (hinterim : interim ∈ layout.outputs base)
    (htarget : target ∈ layout.outputs base) : Keeps (moveWithoutBlanks interim target)
      (DifferIn (origin.placesOf (layout.outputs base)) origin) := by
  refine Job.keeps_query_bind fun source => ?_
  refine Job.keeps_bind (Job.keeps_access fun files written h hwrite => ?_) fun _ => ?_
  · exact h.write_right htarget (hplain.isPlainAt htarget) hwrite
  refine Job.keeps_bind (Job.keeps_access fun files removed h hremove => ?_) fun _ => ?_
  · exact h.remove_right hinterim (hplain.isPlainAt hinterim) hremove
  exact Job.keeps_note_bind (Job.keeps_of_files_eq fun _ => rfl)

theorem normalizeInPlace_keeps {script : Path} (hscript : script ∈ layout.outputs base)
    (geometry : Path) (counts : Nat × Nat) : Keeps (normalizeInPlace base script geometry counts)
      (DifferIn (origin.placesOf (layout.outputs base)) origin) := by
  refine Job.keeps_query_bind fun source => ?_
  refine Job.keeps_through_bind fun kept => Job.keeps_note_bind ?_
  refine Job.keeps_through_bind fun finished => Job.keeps_note_bind ?_
  refine Job.keeps_bind (Job.keeps_access fun files written h hwrite => ?_) fun _ => ?_
  · exact h.write_right hscript (hplain.isPlainAt hscript) hwrite
  exact Job.keeps_note_bind (Job.keeps_of_files_eq fun _ => rfl)

/-- **A run changes nothing but its outputs**, whether it succeeds or fails, provided none of them
is a link or a device. -/
theorem normalizeExport_differIn : DifferIn (origin.placesOf (layout.outputs base)) origin
    ((normalizeExport layout base shape).run origin).files := by
  have hkeeps : Keeps (normalizeExport layout base shape)
      (DifferIn (origin.placesOf (layout.outputs base)) origin) := by
    rw [normalizeExport_eq]
    refine Job.keeps_note_bind (Job.keeps_bind_of_ok (placeArtifacts_keeps hplain) ?_)
    intro files placed h hplaced
    -- what was placed are the outputs that the next parts read and remove
    have hends := Job.ends_run (placeArtifacts layout base shape) files
    rw [hplaced] at hends
    rcases placeArtifacts_ends (hplain.of_changed h.onlyFilesChanged) hends with
      ⟨e, hno, -⟩ | ⟨_, _, -, -, houtcome, -⟩
    · cases hno
    cases houtcome
    refine Job.keeps_bind (moveWithoutBlanks_keeps hplain ?_ ?_) fun counts => ?_
    · simp [Layout.outputs]
    · simp [Layout.outputs]
    exact normalizeInPlace_keeps hplain (by simp [Layout.outputs]) _ counts
  exact hkeeps origin (.refl _ origin)

end Parts

end MeshScript
