import MeshScript.Proofs.Run.Exits
/-!
# MeshScript.Proofs.Run.Geometry -- when a complete run keeps the geometry

A run that reports success need not have kept the geometry. Two things can happen to it
before its bytes are moved: the exported geometry is the file that it is copied to, which
is emptied first, or it is the file to which the script was copied a moment before.
`normalizeExport_keeps_geometry_iff` says that nothing else can. The exported script is
safe, because an emptied script has no normal form (`apart_of_completed`).
-/

namespace MeshScript

variable {layout : Layout} {base shape : Text} {files : FileSystem}

/-- An empty text has no normal form. -/
theorem normalizeText_nil (base : Text) :
    normalizeText [] base = .error (.noSurfaceList Rule.wallToken) := by
  rw [normalizeText_eq]
  rfl

/-- **A complete run** copied the exported script to another file: copied onto itself it would
have been empty. -/
theorem apart_of_completed {source text : Text}
    (hdecode : Text.decode? (layout.scriptBytes base files) = some source)
    (htext : normalizeText source.withoutBlanks base = .ok text) :
    files.Apart layout.exportedScript (layout.interimScript base) := by
  intro place hexported hinterim
  have hempty : layout.scriptBytes base files = Text.encode [] := by
    rw [Layout.scriptBytes, FileSystem.copied, hexported, hinterim, if_pos rfl]
    rfl
  rw [hempty, Text.decode?_encode] at hdecode
  obtain rfl := Option.some.inj hdecode
  cases (normalizeText_nil base).symm.trans htext

/-- After a run that stopped at no file operation the geometry is what was copied there. -/
theorem read_geometry_withScript {interim geometry script : Location}
    (hplain : layout.PlainOutputs base files)
    (houtputs : layout.OutputsGo base files interim geometry script) (bytes : ByteArray)
    (text : Text) :
    (files.withScript interim geometry script bytes text).read (layout.finalGeometry base) =
      .ok bytes := by
  have hplace := ((withScript_changed houtputs bytes text).place?_eq _).trans
    houtputs.geometryPlace
  have hne : geometry ≠ script := fun heq =>
    hplain.script_apart_geometry script houtputs.scriptPlace (heq ▸ houtputs.geometryPlace)
  have hnode : (files.withScript interim geometry script bytes text).node? geometry =
      some (.file bytes) := by
    rw [FileSystem.withScript, FileSystem.node?_put, if_neg hne, FileSystem.node?_put, if_pos rfl]
  exact FileSystem.read_of_file houtputs.geometryFree.notRoot hnode hplace

/-- **When the geometry is kept.** A complete run ends with the bytes of the exported geometry
at its place exactly if the exported geometry is not the file it is copied to, unless it was
empty anyway, and not the file to which the script was copied, unless it held the same bytes. -/
theorem normalizeExport_keeps_geometry_iff {report : Report}
    (hplain : layout.PlainOutputs base files)
    (hok : ((normalizeExport layout base shape).run files).outcome = .ok report) :
    ((normalizeExport layout base shape).run files).files.read (layout.finalGeometry base) =
        .ok (files.bytesOf (layout.exportedGeometry shape)) ↔
      (files.Apart (layout.exportedGeometry shape) (layout.finalGeometry base) ∨
        files.bytesOf (layout.exportedGeometry shape) = .empty) ∧
      (files.Apart (layout.exportedGeometry shape) (layout.interimScript base) ∨
        files.bytesOf (layout.exportedGeometry shape) =
          files.bytesOf layout.exportedScript) := by
  have hexit := normalizeExport_exits hplain
    (Job.ends_run (normalizeExport layout base shape) files)
  rw [hok] at hexit
  obtain ⟨interim, geometry, script, source, text, houtputs, hdecode, htext, hfiles⟩ := hexit.of_ok
  have hscript := Layout.scriptBytes_of_apart (apart_of_completed hdecode htext)
  rw [hfiles, read_geometry_withScript hplain houtputs, Except.ok.injEq, FileSystem.apart_iff,
    FileSystem.apart_iff, houtputs.interimPlace, houtputs.geometryPlace]
  cases hexported : files.place? (layout.exportedGeometry shape) with
  | none => simp [Layout.geometryBytes, FileSystem.bytesOf, hexported]
  | some exported =>
    have hne : interim ≠ geometry := fun heq =>
      hplain.interim_apart_geometry interim houtputs.interimPlace (heq ▸ houtputs.geometryPlace)
    simp only [Layout.geometryBytes, hexported, houtputs.interimPlace, hscript, FileSystem.copied,
      houtputs.geometryPlace, Option.some.injEq, reduceCtorEq, false_or, ne_eq]
    -- overwritten by the script, emptied by its own copy, or neither
    by_cases hoverwritten : interim = exported
    · subst hoverwritten
      rw [if_pos rfl]
      exact ⟨fun h => ⟨Or.inl hne, Or.inr h.symm⟩, fun h => (h.2.resolve_left (· rfl)).symm⟩
    · rw [if_neg hoverwritten]
      by_cases hemptied : exported = geometry
      · rw [if_pos hemptied]
        exact ⟨fun h => ⟨Or.inr h.symm, Or.inl (Ne.symm hoverwritten)⟩,
          fun h => (h.1.resolve_left (· hemptied)).symm⟩
      · rw [if_neg hemptied]
        exact ⟨fun _ => ⟨Or.inl hemptied, Or.inl (Ne.symm hoverwritten)⟩, fun _ => rfl⟩

/-- The sample layout with its results next to the export. -/
def sampleInPlace : Layout :=
  { sampleLayout with outputDir := "s".toList }

/-- A base name whose geometry is the exported one: the run succeeds and empties it. -/
theorem normalizeExport_keeps_geometry_sample :
    sampleInPlace.PlainOutputs "Cut_Geometry".toList (sampleExport sampleScript) ∧
      (∃ report, ((normalizeExport sampleInPlace "Cut_Geometry".toList "Cut".toList).run
        (sampleExport sampleScript)).outcome = .ok report) ∧
      (sampleExport sampleScript).bytesOf (sampleInPlace.exportedGeometry "Cut".toList) =
        Text.encode "solid".toList ∧
      ((normalizeExport sampleInPlace "Cut_Geometry".toList "Cut".toList).run
        (sampleExport sampleScript)).files.read
          (sampleInPlace.finalGeometry "Cut_Geometry".toList) ≠
        .ok (Text.encode "solid".toList) := by
  have hplain : sampleInPlace.PlainOutputs "Cut_Geometry".toList (sampleExport sampleScript) := by
    decide +kernel
  have hgeometry : (sampleExport sampleScript).bytesOf
      (sampleInPlace.exportedGeometry "Cut".toList) = Text.encode "solid".toList := by
    decide +kernel
  have hdone : ((normalizeExport sampleInPlace "Cut_Geometry".toList "Cut".toList).run
      (sampleExport sampleScript)).outcome.toOption.isSome = true := by
    decide +kernel
  have hsame : ¬ ((sampleExport sampleScript).Apart (sampleInPlace.exportedGeometry "Cut".toList)
        (sampleInPlace.finalGeometry "Cut_Geometry".toList) ∨
      (sampleExport sampleScript).bytesOf (sampleInPlace.exportedGeometry "Cut".toList) =
        .empty) := by
    decide +kernel
  obtain ⟨report, hreport⟩ := Option.isSome_iff_exists.1 hdone
  have hok := eq_ok_of_toOption hreport
  refine ⟨hplain, ⟨report, hok⟩, hgeometry, fun hread => hsame ?_⟩
  rw [← hgeometry] at hread
  exact ((normalizeExport_keeps_geometry_iff hplain hok).1 hread).1

end MeshScript
