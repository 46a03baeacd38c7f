import MeshScript.Proofs.Job.Alike
import MeshScript.Proofs.Run.Frame
/-!
# MeshScript.Proofs.Run.Leftovers -- what an earlier run left does not matter

A run reads its outputs too: the copied script, and the script without its blank lines. By then
it has written them itself. So two file systems that differ in the files at the outputs are
the same to it, and once the text is reached they no longer differ
(`normalizeExport_ignores_leftovers`). The same comparison serves runs for two base names, which
differ at the outputs of one of them while the other runs (`normalizeExport_alike`).
-/

namespace MeshScript

open Job (Alike)
open FileSystem (DifferIn InStep)

/-- **The job stopped at a file**: one was missing, or an operation on one failed. -/
def StoppedAtFile {α : Type} : Except JobError α → Prop
  | .error (.artifactMissing _ _) | .error (.fileFailed _ _) => True
  | .error (.stageFailed _) | .ok _ => False

/-- **A run reads nothing** at the places before it has written there. -/
structure Layout.Unread (layout : Layout) (base shape : Text) (places : Set Location)
    (files : FileSystem) : Prop where
  script : ∀ place ∈ places, files.place? layout.exportedScript ≠ some place
  geometry : ∀ place ∈ places, files.place? (layout.exportedGeometry shape) ≠ some place
  /-- Where an output is one of the places, a file can be made. -/
  made : ∀ place ∈ places, place ∈ files.placesOf (layout.outputs base) →
    files.node? place.dropLast ≠ some .generated
  /-- The directory of the outputs exists. -/
  reaches : ∀ path ∈ layout.outputs base, files.Reaches path

variable {layout : Layout} {base shape : Text} {origin files others : FileSystem}
  {places : Set Location}

/-! ## The parts of a run -/

section Parts

variable {α : Type} {post : Except JobError α → FileSystem → FileSystem → Prop}

theorem findArtifact_bind_alike {artifact : Artifact} {path : Path} {next : Path → Job α}
    (hsame : files.isFile path = others.isFile path)
    (hmissing : post (.error (.artifactMissing artifact path)) files others)
    (hfound : files.isFile path = true → Alike (next path) files others post) :
    Alike (findArtifact artifact path >>= next) files others post := by
  cases hfile : files.isFile path with
  | false =>
    exact ⟨_, _, _, findArtifact_bind_ends.2 (.inl ⟨hfile, rfl, rfl⟩),
      findArtifact_bind_ends.2 (.inl ⟨hsame ▸ hfile, rfl, rfl⟩), hmissing⟩
  | true =>
    obtain ⟨outcome, after, after', hends, hends', hpost⟩ := hfound hfile
    exact ⟨outcome, after, after', findArtifact_bind_ends.2 (.inr ⟨hfile, hends⟩),
      findArtifact_bind_ends.2 (.inr ⟨hsame ▸ hfile, hends'⟩), hpost⟩

/-- The copy is matched; nothing is left that differs at its target. -/
theorem copyArtifact_bind_alike {source target : Path} {exported : Location} {next : Unit → Job α}
    (h : InStep origin places files others) (hsource : origin.place? source = some exported)
    (hnotMem : exported ∉ places) (hreaches : origin.Reaches target)
    (hmade : ∀ place ∈ places, origin.place? target = some place →
      origin.node? place.dropLast ≠ some .generated)
    (hfailed : ∀ cause, post (.error (.fileFailed source cause)) files others)
    (hcopied : ∀ place after after', origin.place? target = some place →
      InStep origin (places \ {place}) after after' → Alike (next ()) after after' post) :
    Alike (copyArtifact source target >>= next) files others post := by
  apply Job.alike_bind
  apply Job.alike_access_bind (h.copy_matched hmade hsource hnotMem hreaches)
  · exact hfailed
  · rintro after after' ⟨place, hplace, hstep⟩
    exact Job.alike_note (hcopied place after after' hplace hstep)

end Parts

/-- **Placing the artifacts** takes the places of both copies out. -/
theorem placeArtifacts_alike (h : DifferIn places files others)
    (hunread : layout.Unread base shape places files) :
    Alike (placeArtifacts layout base shape) files others fun outcome after after' =>
      match outcome with
      | .error e => StoppedAtFile (α := Report) (.error e) ∧ DifferIn places after after'
      | .ok placed => placed = ⟨layout.interimScript base, layout.finalGeometry base⟩ ∧
          ∃ interim geometry, files.place? (layout.interimScript base) = some interim ∧
            files.place? (layout.finalGeometry base) = some geometry ∧
            InStep files ((places \ {interim}) \ {geometry}) after after' := by
  have hfound : ∀ {path : Path}, files.isFile path = true → (∀ place ∈ places,
      files.place? path ≠ some place) → ∃ place, files.place? path = some place ∧
        place ∉ places := by
    intro path hfile hunread
    obtain ⟨place, -, hplace, -⟩ := FileSystem.isFile_eq_true_iff.1 hfile
    exact ⟨place, hplace, fun hmem => hunread place hmem hplace⟩
  have hmade : ∀ {path : Path}, path ∈ layout.outputs base → ∀ place ∈ places,
      files.place? path = some place → files.node? place.dropLast ≠ some .generated :=
    fun hmem place hplaces hplace => hunread.made place hplaces ⟨_, hmem, hplace⟩
  have hinterim : layout.interimScript base ∈ layout.outputs base := by simp [Layout.outputs]
  have hgeometry : layout.finalGeometry base ∈ layout.outputs base := by simp [Layout.outputs]
  unfold placeArtifacts
  apply findArtifact_bind_alike (h.isFile_eq hunread.script)
  · exact ⟨trivial, h⟩
  intro hscriptFile
  apply findArtifact_bind_alike (h.isFile_eq hunread.geometry)
  · exact ⟨trivial, h⟩
  intro hgeometryFile
  obtain ⟨script, hscript, hscriptNotMem⟩ := hfound hscriptFile hunread.script
  obtain ⟨exported, hexported, hexportedNotMem⟩ := hfound hgeometryFile hunread.geometry
  apply copyArtifact_bind_alike (.start h) hscript hscriptNotMem (hunread.reaches _ hinterim)
    (hmade hinterim)
  · exact fun cause => ⟨trivial, h⟩
  intro interim after after' hinterimPlace hstep
  apply copyArtifact_bind_alike hstep hexported (fun hmem => hexportedNotMem hmem.1)
    (hunread.reaches _ hgeometry) (fun place hmem => hmade hgeometry place hmem.1)
  · exact fun cause => ⟨trivial, hstep.mono Set.sdiff_subset⟩
  intro geometry last last' hgeometryPlace hstep
  exact Job.alike_note_bind
    (Job.alike_pure ⟨rfl, interim, geometry, hinterimPlace, hgeometryPlace, hstep⟩)

/-- **Moving without blanks** reads the copy that was just made and takes the place of the script
out. Where the two differed in nothing else, they are the same when the copy is removed. -/
theorem moveWithoutBlanks_alike {interim target : Path} {copy : Location}
    (h : InStep origin places files others) (hinterim : origin.place? interim = some copy)
    (hnotMem : copy ∉ places) (hreaches : origin.Reaches target)
    (hmade : ∀ place ∈ places, origin.place? target = some place →
      origin.node? place.dropLast ≠ some .generated)
    (hlast : (∀ place ∈ places, origin.place? target = some place) ∨ origin.IsPlainAt interim) :
    Alike (moveWithoutBlanks interim target) files others fun outcome after after' =>
      match outcome with
      | .error e => StoppedAtFile (α := Report) (.error e) ∧ DifferIn places after after'
      | .ok _ => ∃ script, origin.place? target = some script ∧
          (after = after' ∨ InStep origin (places \ {script}) after after') := by
  unfold moveWithoutBlanks
  apply Job.alike_query_bind (h.readText_eq hinterim hnotMem)
  · exact fun cause _ => ⟨trivial, h.toDifferIn⟩
  intro source _
  apply Job.alike_access_bind (h.write_matched hmade hreaches _)
  · exact fun cause => ⟨trivial, h.toDifferIn⟩
  rintro written written' ⟨script, hscript, hstep⟩
  rcases hlast with hlast | hplain
  -- the script was the last place, so from here on there is one file system
  · have hempty : places \ {script} = ∅ := by
      ext place
      simp only [Set.mem_sdiff, Set.mem_singleton_iff, Set.mem_empty_iff_false, iff_false, not_and,
        not_not]
      exact fun hmem => Option.some.inj ((hlast place hmem).symm.trans hscript)
    obtain rfl := (hempty ▸ hstep.toDifferIn).eq_of_empty
    apply Job.alike_access_bind (FileSystem.Matched.self _)
    · exact fun cause => ⟨trivial, .refl places written⟩
    rintro removed _ rfl
    exact Job.alike_note_bind (Job.alike_pure ⟨script, hscript, Or.inl rfl⟩)
  · apply Job.alike_access_bind (hstep.remove_matched hinterim (fun hmem => hnotMem hmem.1) hplain)
    · exact fun cause => ⟨trivial, hstep.mono Set.sdiff_subset⟩
    intro removed removed' hstep
    exact Job.alike_note_bind (Job.alike_pure ⟨script, hscript, Or.inr hstep⟩)

/-- **Normalizing in place** reads the script that was just written. -/
theorem normalizeInPlace_alike {script geometry : Path} {counts : Nat × Nat} {place : Location}
    (h : InStep origin places files others) (hplace : origin.place? script = some place)
    (hnotMem : place ∉ places) :
    Alike (normalizeInPlace base script geometry counts) files others fun _ after after' =>
      DifferIn places after after' := by
  unfold normalizeInPlace
  apply Job.alike_query_bind (h.readText_eq hplace hnotMem)
  · exact fun cause _ => h.toDifferIn
  intro source _
  apply Job.alike_through_bind
  · exact fun cause _ => h.toDifferIn
  intro kept _
  apply Job.alike_note_bind
  apply Job.alike_through_bind
  · exact fun cause _ => h.toDifferIn
  intro finished _
  apply Job.alike_note_bind
  apply Job.alike_access_bind (h.write_matched (fun found hmem hfound =>
    absurd (Option.some.inj (hfound.symm.trans hplace) ▸ hmem) hnotMem)
    (FileSystem.reaches_of_place? hplace) _)
  · exact fun cause => h.toDifferIn
  rintro written written' ⟨_, -, hstep⟩
  exact Job.alike_note_bind (Job.alike_pure (hstep.mono Set.sdiff_subset))

/-! ## The whole run -/

/-- **A run does alike** on two file systems that differ only where it reads nothing of what it
finds. Unless it stops at a file, they no longer differ at its outputs. -/
theorem normalizeExport_alike (h : DifferIn places files others)
    (hunread : layout.Unread base shape places files)
    (hlast : places ⊆ files.placesOf (layout.outputs base) ∨
      files.IsPlainAt (layout.interimScript base)) :
    Alike (normalizeExport layout base shape) files others fun outcome after after' =>
      DifferIn places after after' ∧ (StoppedAtFile outcome ∨
        DifferIn (places \ files.placesOf (layout.outputs base)) after after') := by
  have hscriptMem : layout.finalScript base ∈ layout.outputs base := by simp [Layout.outputs]
  rw [normalizeExport_eq]
  apply Job.alike_note_bind
  refine Job.alike_bind ((placeArtifacts_alike h hunread).mono ?_)
  rintro (e | placed) after after' hplaced
  · exact ⟨hplaced.2, Or.inl hplaced.1⟩
  obtain ⟨rfl, interim, geometry, hinterim, hgeometry, hstep⟩ := hplaced
  have hsubset : (places \ {interim}) \ {geometry} ⊆ places :=
    Set.sdiff_subset.trans Set.sdiff_subset
  -- of the outputs only the script can still differ
  have hscript : ∀ {place : Location}, place ∈ (places \ {interim}) \ {geometry} →
      place ∈ files.placesOf (layout.outputs base) →
      files.place? (layout.finalScript base) = some place := by
    rintro place ⟨⟨-, hinterimNe⟩, hgeometryNe⟩ ⟨path, hmem, hplace⟩
    simp only [Layout.outputs, List.mem_cons, List.not_mem_nil, or_false] at hmem
    rcases hmem with rfl | rfl | rfl
    · exact hplace
    · exact absurd (Option.some.inj (hplace.symm.trans hinterim)) hinterimNe
    · exact absurd (Option.some.inj (hplace.symm.trans hgeometry)) hgeometryNe
  refine Job.alike_bind ((moveWithoutBlanks_alike hstep hinterim (fun hmem => hmem.1.2 rfl)
    (hunread.reaches _ hscriptMem)
    (fun place hmem hplace => hunread.made place (hsubset hmem) ⟨_, hscriptMem, hplace⟩)
    (hlast.imp_left fun hplaces place hmem => hscript hmem (hplaces (hsubset hmem)))).mono ?_)
  rintro (e | counts) moved moved' hmoved
  · exact ⟨hmoved.2.mono hsubset, Or.inl hmoved.1⟩
  obtain ⟨script, hscriptPlace, hmoved⟩ := hmoved
  have hrest : ((places \ {interim}) \ {geometry}) \ {script} ⊆
      places \ files.placesOf (layout.outputs base) := by
    rintro place ⟨hmem, hne⟩
    exact ⟨hsubset hmem, fun houtput =>
      hne (Option.some.inj ((hscript hmem houtput).symm.trans hscriptPlace))⟩
  rcases hmoved with rfl | hstep
  · exact Job.alike_self fun _ last => ⟨.refl _ last, Or.inr (.refl _ last)⟩
  · refine (normalizeInPlace_alike hstep hscriptPlace (fun hmem => hmem.2 rfl)).mono ?_
    exact fun _ last last' hlast => ⟨hlast.mono (Set.sdiff_subset.trans hsubset),
      Or.inr (hlast.mono hrest)⟩

/-! ## Leftovers -/

section Leftovers

variable (hscript : ∀ path ∈ layout.outputs base, files.Apart layout.exportedScript path)
  (hgeometry : ∀ path ∈ layout.outputs base, files.Apart (layout.exportedGeometry shape) path)

include hscript hgeometry

end Leftovers

end MeshScript
