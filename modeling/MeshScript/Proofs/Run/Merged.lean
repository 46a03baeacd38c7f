import MeshScript.Proofs.FileSystem.DirectoryPart
import MeshScript.Proofs.Normalize.BaseName
import MeshScript.Proofs.Run.Geometry
/-!
# MeshScript.Proofs.Run.Merged -- the geometry that the script merges

A `Merge` statement of the normalized script names `<base>.brep`. An absolute name stands for
itself; a relative one is looked for next to the script (`Layout.mergedGeometry`). The geometry
is copied to `<base>.brep` in the output directory. These are the same path if the
base name is absolute or has no slash. With a directory part they are not: the script is in that
part of the output directory already, and the statement goes down the same way once more.
So the statement finds the geometry only if that way leads back to where it starts
(`normalizeExport_merges_geometry_iff`).
-/

namespace MeshScript

/-! ## Where a statement leads -/

namespace Layout

/-- The name of the geometry in a `Merge` statement. -/
def mergedName (base : Text) : Path :=
  base ++ ".brep".toList

/-- **The geometry that a `Merge` statement means**: next to the script, if its name is relative. -/
def mergedGeometry (layout : Layout) (base : Text) : Path :=
  (layout.finalScript base).parent.join (mergedName base)

theorem isAbsolute_mergedName (base : Text) :
    Path.isAbsolute (mergedName base) = Path.isAbsolute base :=
  Path.isAbsolute_append (by decide) base

/-- **The statement means the path of the geometry** for an absolute base name and for one without
slashes. -/
theorem mergedGeometry_eq {base : Text} (h : Path.isAbsolute base = true ∨ '/' ∉ base)
    (layout : Layout) : layout.mergedGeometry base = layout.finalGeometry base := by
  cases habsolute : Path.isAbsolute base with
  | true =>
    have hname : Path.isAbsolute (mergedName base) = true := by
      rw [isAbsolute_mergedName, habsolute]
    rw [mergedGeometry, Path.join_of_absolute hname]
    exact (Path.join_of_absolute hname _).symm
  | false =>
    have hslash : '/' ∉ base := h.resolve_left (by rw [habsolute]; exact Bool.false_ne_true)
    have hname : Path.isAbsolute (mergedName base) = false := by
      rw [isAbsolute_mergedName, habsolute]
    have hscript : Path.isAbsolute (base ++ ".geo".toList) = false := by
      rw [Path.isAbsolute_append (by decide), habsolute]
    have hplain : '/' ∉ base ++ ".geo".toList := by simp [hslash]
    rw [mergedGeometry, finalScript, Path.join_of_relative hscript,
      Path.parent_append (Path.join_nil_cases _) hplain,
      Path.join_of_hasTrailingSlash (Path.join_nil_cases _) hname, ← Path.join_of_relative hname]
    rfl

/-- With a directory part the outputs are in that part of the output directory. -/
theorem outputDir_join_of_slash {front last : Text}
    (hrelative : Path.isAbsolute (front ++ '/' :: last) = false) {extension : Text}
    (hextension : '/' ∉ extension) (layout : Layout) :
    layout.outputDir.join (front ++ '/' :: last ++ extension) =
      (layout.outputDir.join [] ++ front) ++ '/' :: (last ++ extension) := by
  rw [Path.join_of_relative (by rw [Path.isAbsolute_append hextension, hrelative])]
  simp

/-- All outputs start alike: with the directory that they are in. -/
theorem start_outputDir_join {front last : Text} (layout : Layout) (files : FileSystem)
    (hrelative : Path.isAbsolute (front ++ '/' :: last) = false) (rest : Path) :
    files.start (layout.outputDir.join [] ++ front ++ rest) =
      files.start (layout.outputDir.join [] ++ front) := by
  apply FileSystem.start_append_of_ne_nil
  rintro hnil
  rw [(List.append_eq_nil_iff.1 hnil).2] at hrelative
  cases hrelative

/-- **The way to the directory of the script**, with that part of it that is in the base name. -/
theorem way_finalScript {front last : Text} (layout : Layout) (files : FileSystem)
    (hrelative : Path.isAbsolute (front ++ '/' :: last) = false) (hlast : '/' ∉ last) :
    (Path.names (layout.finalScript (front ++ '/' :: last)).parent).foldlM files.enter
        (files.start (layout.finalScript (front ++ '/' :: last))) =
      (Path.names (layout.outputDir.join [] ++ front)).foldlM files.enter
        (files.start (layout.outputDir.join [] ++ front)) := by
  have hplain : '/' ∉ last ++ ".geo".toList := by simp [hlast]
  rw [finalScript, outputDir_join_of_slash hrelative (by decide), Path.names_parent hplain,
    start_outputDir_join layout files hrelative]

/-- There the statement goes down that part once more. -/
theorem mergedGeometry_of_slash {front last : Text}
    (hrelative : Path.isAbsolute (front ++ '/' :: last) = false) (hlast : '/' ∉ last)
    (layout : Layout) :
    layout.mergedGeometry (front ++ '/' :: last) =
      (layout.outputDir.join [] ++ front ++ '/' :: front) ++ '/' :: (last ++ ".brep".toList) := by
  have hname : Path.isAbsolute (mergedName (front ++ '/' :: last)) = false := by
    rw [isAbsolute_mergedName, hrelative]
  have hplain : '/' ∉ last ++ ".geo".toList := by simp [hlast]
  rw [mergedGeometry, finalScript, outputDir_join_of_slash hrelative (by decide),
    Path.parent_append_slash hplain,
    Path.join_of_hasTrailingSlash (.inr (by simp [Path.hasTrailingSlash])) hname, mergedName]
  simp

/-! ## The way back -/

variable {layout : Layout} {base : Text} {files : FileSystem}

/-- **The directory part of the base name leads back**: the way that it goes down from the directory
of the script ends there. -/
structure LeadsBack (layout : Layout) (base : Text) (files : FileSystem) : Prop where
  back : ∃ here, (Path.names (layout.finalScript base).parent).foldlM files.enter
      (files.start (layout.finalScript base)) = .ok here ∧
    (Path.names (Path.parent base)).foldlM files.enter here = .ok here
  /-- The path that the statement means, with the way in it once more, is not too long. -/
  short : Text.byteLength (layout.mergedGeometry base) < FileSystem.pathLimit

theorem leadsBack_iff {here : Location}
    (hhere : (Path.names (layout.finalScript base).parent).foldlM files.enter
      (files.start (layout.finalScript base)) = .ok here) :
    layout.LeadsBack base files ↔
      (Path.names (Path.parent base)).foldlM files.enter here = .ok here ∧
        Text.byteLength (layout.mergedGeometry base) < FileSystem.pathLimit := by
  constructor
  · rintro ⟨⟨here', hhere', hback⟩, hshort⟩
    cases hhere.symm.trans hhere'
    exact ⟨hback, hshort⟩
  · rintro ⟨hback, hshort⟩
    exact ⟨⟨here, hhere, hback⟩, hshort⟩

/-- **What the statement means is the geometry** if both are one path, or the way leads back. -/
theorem place?_mergedGeometry_iff {geometry : Location}
    (hplain : files.IsPlainAt (layout.finalGeometry base))
    (hmerged : files.IsPlainAt (layout.mergedGeometry base))
    (hgeometry : files.place? (layout.finalGeometry base) = some geometry) :
    files.place? (layout.mergedGeometry base) = some geometry ↔
      Path.isAbsolute base = true ∨ '/' ∉ base ∨ layout.LeadsBack base files := by
  by_cases hsame : Path.isAbsolute base = true ∨ '/' ∉ base
  · rw [mergedGeometry_eq hsame]
    exact iff_of_true hgeometry (by tauto)
  obtain ⟨hrelative, hslash⟩ := not_or.1 hsame
  rw [or_iff_right hrelative, or_iff_right hslash, hmerged.place?_eq_some_iff]
  rw [Bool.not_eq_true] at hrelative
  obtain ⟨front, last, rfl, hlast⟩ := Path.exists_eq_append_slash (not_not.1 hslash)
  have hgeometrySlash : '/' ∉ last ++ ".brep".toList := by simp [hlast]
  have hlong : 2 < (last ++ ".brep".toList).length := by simp
  have hfinal : layout.finalGeometry (front ++ '/' :: last) =
      (layout.outputDir.join [] ++ front) ++ '/' :: (last ++ ".brep".toList) :=
    outputDir_join_of_slash hrelative (by decide) layout
  rw [hplain.place?_eq_some_iff, hfinal,
    FileSystem.resolve_append_slash_iff hgeometrySlash hlong] at hgeometry
  obtain ⟨⟨hnul, -⟩, here, hhere, hlimit, hentry⟩ := hgeometry
  -- all paths go the same way down to the directory of the script
  have hstart := layout.start_outputDir_join files hrelative
  rw [hstart] at hhere
  have hscript := (layout.way_finalScript files hrelative hlast).trans hhere
  rw [leadsBack_iff hscript, Path.names_parent hlast, mergedGeometry_of_slash hrelative hlast,
    FileSystem.resolve_append_slash_iff hgeometrySlash hlong, List.append_assoc _ _ (_ :: _),
    hstart, Path.names_append_slash, List.foldlM_append, hhere, List.cons_append, hentry]
  constructor
  · rintro ⟨⟨-, hshort⟩, there, hthere, -, hspot⟩
    have hsameDirectory : here = there := by simpa using hspot
    exact ⟨hsameDirectory ▸ hthere, hshort⟩
  · rintro ⟨hback, hshort⟩
    refine ⟨⟨?_, hshort⟩, here, hback, hlimit, rfl⟩
    simp only [List.mem_append, List.mem_cons, not_or] at hnul ⊢
    tauto

end Layout

/-! ## The statements of a run -/

/-- **The name in a statement**: what is between its first two quotes. -/
def Text.quoted? (statement : Text) : Option Text :=
  match statement.dropWhile (· != '"') with
  | [] => none
  | _ :: rest => some (rest.takeWhile (· != '"'))

variable {layout : Layout} {base shape : Text} {files : FileSystem}

/-- A `Merge` statement as a run writes it names the geometry, whatever space is behind it. -/
theorem quoted?_merge (hquote : '"' ∉ base) (space : Text) :
    Text.quoted? ("Merge \"".toList ++ base ++ ".brep\";\n".toList ++ space) =
      some (Layout.mergedName base) := by
  have hname : ∀ c ∈ Layout.mergedName base, (c != '"') = true := by
    intro c hc
    rw [bne_iff_ne]
    rintro rfl
    rcases List.mem_append.1 hc with hc | hc
    · exact hquote hc
    · revert hc
      decide
  have hstatement : "Merge \"".toList ++ base ++ ".brep\";\n".toList ++ space =
      "Merge ".toList ++ '"' :: (Layout.mergedName base ++ '"' :: (";\n".toList ++ space)) := by
    simp [Layout.mergedName]
  have hopening : ("Merge ".toList ++ '"' :: (Layout.mergedName base ++
      '"' :: (";\n".toList ++ space))).dropWhile (· != '"') =
      '"' :: (Layout.mergedName base ++ '"' :: (";\n".toList ++ space)) := by
    simp
  rw [Text.quoted?, hstatement, hopening]
  simp only [List.takeWhile_append_of_pos hname]
  simp

/-- **When the script merges the geometry.** In the script of a complete run every `Merge`
statement names `<base>.brep`. Looked for next to the script, that is the geometry
which the run wrote exactly if the base name is absolute, or has no slash, or has a directory part
that leads from the directory of the script back to it. -/
theorem normalizeExport_merges_geometry_iff {report : Report} (hquote : '"' ∉ base)
    (hplain : layout.PlainOutputs base files)
    (hmerged : files.IsPlainAt (layout.mergedGeometry base))
    (hok : ((normalizeExport layout base shape).run files).outcome = .ok report) :
    let after := ((normalizeExport layout base shape).run files).files
    ∃ source finished script geometry,
      Text.decode? (files.bytesOf layout.exportedScript) = some source ∧
      finish base (Script.parse source.withoutBlanks).keptLines = .ok finished ∧
      after.place? (layout.finalScript base) = some script ∧
      after.node? script = some (.file finished.script.render.encode) ∧
      after.place? (layout.finalGeometry base) = some geometry ∧
      after.read (layout.finalGeometry base) = .ok (layout.geometryBytes base shape files) ∧
      (∀ (i : Nat) (line : Text), (Script.parse source.withoutBlanks).keptLines[i]? = some line →
        "Merge".toList <:+: line → ∃ statement, finished.script.lines[i]? = some statement ∧
          statement.quoted? = some (Layout.mergedName base)) ∧
      (after.place? (layout.mergedGeometry base) = some geometry ↔
        Path.isAbsolute base = true ∨ '/' ∉ base ∨ layout.LeadsBack base files) := by
  intro after
  have hexit := normalizeExport_exits hplain
    (Job.ends_run (normalizeExport layout base shape) files)
  rw [hok] at hexit
  obtain ⟨interim, geometry, script, source, text, houtputs, hdecode, htext, hfiles⟩ := hexit.of_ok
  have hafter : after = files.withScript interim geometry script
      (layout.geometryBytes base shape files) text := hfiles
  have hchange := withScript_changed houtputs (layout.geometryBytes base shape files) text
  rw [Layout.scriptBytes_of_apart (apart_of_completed hdecode htext)] at hdecode
  rw [normalizeText_eq] at htext
  obtain ⟨finished, hfinished, hrender⟩ := map_eq_ok_iff.1 htext
  obtain ⟨surfaces, -, hlines⟩ := finish_eq_ok_iff.1 hfinished
  rw [hafter]
  refine ⟨source, finished, script, geometry, hdecode, hfinished, ?_, ?_, ?_, ?_, ?_, ?_⟩
  · rw [hchange.place?_eq, houtputs.scriptPlace]
  · rw [FileSystem.withScript, FileSystem.node?_put, if_pos rfl, hrender]
  · rw [hchange.place?_eq, houtputs.geometryPlace]
  · exact read_geometry_withScript hplain houtputs _ text
  · intro i line hline hmerge
    rw [hlines, getElem?_lines_ofLines_of_kept hquote hline, normalLine_of_merge hmerge]
    exact ⟨_, rfl, quoted?_merge hquote _⟩
  · rw [hchange.place?_eq]
    exact Layout.place?_mergedGeometry_iff hplain.geometry hmerged houtputs.geometryPlace

/-- A script that merges the exported geometry, next to a wall group. -/
def sampleMerging : Text :=
  "Merge \"/tmp/Cut_Geometry.brep\";\nPhysical Surface(\"mg_wall\") = \x7b7\x7d;\n".toList

/-- The export of that script, with a directory in the output directory. -/
def sampleNested : FileSystem :=
  (sampleExport sampleMerging).put ["o".toList, "sub".toList] .directory

/-- With the directory in the base name the run succeeds, and the statement means no file. -/
theorem normalizeExport_merges_geometry_sample :
    let run := (normalizeExport sampleLayout "sub/wing".toList "Cut".toList).run sampleNested
    sampleLayout.PlainOutputs "sub/wing".toList sampleNested ∧
      (∃ report, run.outcome = .ok report) ∧
      (∃ finished statement,
        finish "sub/wing".toList (Script.parse sampleMerging.withoutBlanks).keptLines =
          .ok finished ∧
        finished.script.lines[0]? = some statement ∧
        statement.quoted? = some "sub/wing.brep".toList) ∧
      ∃ geometry, run.files.place? (sampleLayout.finalGeometry "sub/wing".toList) =
          some geometry ∧
        run.files.place? (sampleLayout.mergedGeometry "sub/wing".toList) ≠ some geometry := by
  have hplain : sampleLayout.PlainOutputs "sub/wing".toList sampleNested := by decide +kernel
  have hdone : ((normalizeExport sampleLayout "sub/wing".toList "Cut".toList).run
      sampleNested).outcome.toOption.isSome = true := by
    decide +kernel
  obtain ⟨report, hreport⟩ := Option.isSome_iff_exists.1 hdone
  have hok := eq_ok_of_toOption hreport
  have hsource : Text.decode? (sampleNested.bytesOf sampleLayout.exportedScript) =
      some sampleMerging := by
    decide +kernel
  have hkept : (Script.parse sampleMerging.withoutBlanks).keptLines[0]? =
      some "Merge \"/tmp/Cut_Geometry.brep\";".toList := by
    decide +kernel
  obtain ⟨source, finished, -, geometry, hdecode, hfinished, -, -, hgeometry, -, hmerge, hiff⟩ :=
    normalizeExport_merges_geometry_iff (by decide) hplain (by decide +kernel) hok
  cases hsource.symm.trans hdecode
  obtain ⟨statement, hstatement, hname⟩ := hmerge 0 _ hkept
    (Text.includes_iff.1 (by decide +kernel))
  refine ⟨hplain, ⟨report, hok⟩, ⟨finished, statement, hfinished, hstatement, hname⟩, geometry,
    hgeometry, fun hsame => ?_⟩
  -- from `o/sub` there is no way down to another `sub`
  have hhere : (Path.names (sampleLayout.finalScript "sub/wing".toList).parent).foldlM
      sampleNested.enter (sampleNested.start (sampleLayout.finalScript "sub/wing".toList)) =
      .ok ["o".toList, "sub".toList] :=
    eq_ok_of_toOption (by decide +kernel)
  have hlost : ((Path.names (Path.parent "sub/wing".toList)).foldlM sampleNested.enter
      ["o".toList, "sub".toList]).toOption = none := by
    decide +kernel
  rcases hiff.1 hsame with habsolute | hslash | hleads
  · revert habsolute
    decide
  · revert hslash
    decide
  · rw [((Layout.leadsBack_iff hhere).1 hleads).1] at hlost
    cases hlost

end MeshScript
