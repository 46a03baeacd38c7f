import MeshScript.Proofs.Run.Geometry
import MeshScript.Proofs.Run.InMemory
import MeshScript.Proofs.Normalize.Written
/-!
# MeshScript.Proofs.Run.Report -- the report accounts for the written script

A run counts in three places: the lines of the copy when it drops the blank ones, the lines of
what it wrote then when it drops the excluded ones, and the edits in between. The second reading
takes a carriage return off a line, so these are not counts of one and the same text.
`normalizeExport_accounts` says that they are all the same counts of the exported script, and
that the written script bears them out, down to its last line feed.
-/

namespace MeshScript

/-- **The report accounts for the written text**; `source` is that of the exported script. -/
structure Report.Accounts (report : Report) (base source written : Text) : Prop where
  linesRead : report.linesRead = (Script.parse source).length
  blankDropped : report.blankDropped = (Script.parse source).lines.countP (·.isBlank)
  excluded : report.excluded =
    (Script.parse source).lines.countP fun line => !line.isBlank && line.isExcluded
  /-- What is subtracted to count the excluded lines is not more than what it is subtracted from. -/
  cleaned : ∃ kept, (clean.run (Script.parse source.withoutBlanks)).outcome = .ok kept ∧
    report.excluded + kept.length = (Script.parse source.withoutBlanks).length
  /-- The edits are those of the substitution on the lines of the exported script. -/
  edits : ∃ edited,
    ((substitute base).run ⟨(Script.parse source).keptLines⟩).outcome = .ok edited ∧
    report.edits = edited.edits
  /-- The surfaces are those of the refinement field, which is five lines from the end. -/
  surfaces : ∃ line surfaces, (Script.parse written).lines.reverse[4]? = some line ∧
    "Field[1].SurfacesList = ".toList <+: line ∧ SurfaceList.ofLine? line = some surfaces ∧
    report.surfaces = surfaces.names
  /-- The counts add up to the line feeds of the written text. -/
  lineFeeds : '\n' ∉ base → (written.count '\n' : Int) =
    report.linesRead - report.blankDropped - report.excluded + report.appended + 1 +
      report.edits.count "merge".toList + report.edits.count "element-order".toList -
      if (Script.parse source).keptLines.head?.any (·.includes "ElementOrder".toList) then 1 else 0

/-! ## Counting lines -/

/-- **Every line is counted once**: as blank, as excluded or as kept. -/
theorem length_lines_eq_add (source : Text) :
    source.lines.length = source.lines.countP (·.isBlank) +
      source.lines.countP (fun line => !line.isBlank && line.isExcluded) +
        (Script.parse source).keptLines.length := by
  unfold Script.keptLines Script.parse
  induction source.lines with
  | nil => rfl
  | cons line rest ih =>
    cases hblank : line.isBlank <;> cases hexcluded : line.isExcluded <;>
      simp [hblank, hexcluded, ih] <;> omega

/-- **The second reading counts the excluded lines of the first**: these and what it keeps are all
lines that are not blank. -/
theorem length_lines_withoutBlanks (source : Text) :
    source.withoutBlanks.lines.length =
      source.lines.countP (fun line => !line.isBlank && line.isExcluded) +
        (Script.parse source.withoutBlanks).keptLines.length := by
  have hlines := length_lines_eq_add source
  have hsplit := List.length_eq_length_filter_add (l := source.lines) (·.isBlank)
  rw [← List.countP_eq_length_filter] at hsplit
  rw [Text.lines_withoutBlanks, List.length_map, keptLines_withoutBlanks, List.length_map]
  omega

/-- An element-order line is one with or without a carriage return. -/
theorem head?_keptLines_withoutBlanks (source : Text) :
    (Script.parse source.withoutBlanks).keptLines.head?.any
        (·.includes "ElementOrder".toList) =
      (Script.parse source).keptLines.head?.any (·.includes "ElementOrder".toList) := by
  have horder : '\r' ∉ "ElementOrder".toList := by decide
  rw [keptLines_withoutBlanks, List.head?_map, Option.any_map]
  simp only [Text.includes_dropReturn horder]

/-! ## The report -/

/-- **The report of the last part of a run** accounts for what that writes. -/
theorem accounts_of_finish {base source : Text} {script geometry : Path} {finished : Finished}
    (h : finish base (Script.parse source.withoutBlanks).keptLines = .ok finished) :
    (finished.report base script geometry (source.lines.length, source.lines.countP (·.isBlank))
      (source.withoutBlanks.lines.length -
        (Script.parse source.withoutBlanks).keptLines.length)).Accounts base source
      finished.script.render := by
  obtain ⟨surfaces, hsurfaces, rfl⟩ := finish_eq_ok_iff.1 h
  have hfeed : ∀ line ∈ (Script.parse source.withoutBlanks).keptLines, '\n' ∉ line :=
    fun _ => newline_notMem_of_mem_keptLines
  have hkept := keptLines_withoutBlanks source
  have hstripped := length_lines_withoutBlanks source
  have hexcluded : source.withoutBlanks.lines.length -
      (Script.parse source.withoutBlanks).keptLines.length =
      source.lines.countP fun line => !line.isBlank && line.isExcluded := by
    omega
  constructor
  case linesRead => rfl
  case blankDropped => rfl
  case excluded => exact hexcluded
  case cleaned =>
    refine ⟨⟨(Script.parse source.withoutBlanks).keptLines⟩, clean_outcome _, ?_⟩
    show source.withoutBlanks.lines.length - _ +
      (Script.parse source.withoutBlanks).keptLines.length = source.withoutBlanks.lines.length
    omega
  case edits =>
    refine ⟨_, substitute_outcome base _, ?_⟩
    show (Draft.ofScript base ⟨(Script.parse source.withoutBlanks).keptLines⟩).edits = _
    rw [hkept, Rule.edits_map_dropReturn]
  case surfaces =>
    exact ⟨surfacesLine surfaces, surfaces, surfacesLine_of_render base hfeed hsurfaces,
      start_prefix_surfacesLine surfaces, SurfaceList.ofLine?_surfacesLine surfaces, rfl⟩
  case lineFeeds =>
    intro hbase
    have hlines := length_lines_eq_add source
    have hlength : (Script.parse source.withoutBlanks).keptLines.length =
        (Script.parse source).keptLines.length := by
      rw [hkept, List.length_map]
    have hcount := count_newline_render_ofLines hbase hfeed hsurfaces
    rw [head?_keptLines_withoutBlanks, hlength] at hcount
    simp only [Finished.report, hexcluded]
    split at hcount
    · rename_i hfirst
      rw [if_pos hfirst]
      omega
    · rename_i hfirst
      rw [if_neg hfirst]
      omega

variable {layout : Layout} {base shape : Text} {files : FileSystem}

/-- **The report accounts for the written script.** The counts of a complete run are those of the
exported script, and the written script has the surfaces and the line feeds that they tell. -/
theorem normalizeExport_accounts {report : Report} (hplain : layout.PlainOutputs base files)
    (hok : ((normalizeExport layout base shape).run files).outcome = .ok report) :
    ∃ source written, files.readText layout.exportedScript = .ok source ∧
      ((normalizeExport layout base shape).run files).files.readText (layout.finalScript base) =
        .ok written ∧
      report.Accounts base source written := by
  have hends := Job.ends_run (normalizeExport layout base shape) files
  rcases normalizeExport_ends hplain hends with
    ⟨e, herror, -⟩ | ⟨interim, geometry, script, source, houtputs, hread, hdecode, hrest⟩
  · cases hok.symm.trans herror
  rcases normalizeInPlace_withScript_ends houtputs hrest with
    ⟨e, -, herror, -⟩ | ⟨finished, hfinish, houtcome, hfiles⟩
  · cases hok.symm.trans herror
  cases hok.symm.trans houtcome
  have htext := (normalizeText_eq source.withoutBlanks base).trans (congrArg (Except.map _) hfinish)
  rw [Layout.scriptBytes_of_apart (apart_of_completed hdecode htext)] at hdecode
  refine ⟨source, finished.script.render, ?_, ?_, accounts_of_finish hfinish⟩
  · exact FileSystem.readText_of_read hread hdecode
  · rw [hfiles]
    exact readText_withScript houtputs _ _

/-- Both statements that leave a line feed, a blank and an excluded line, and carriage returns. -/
def sampleCounts : Text :=
  "Merge \"a.brep\";\r\r\n\n// x\nMesh.ElementOrder = 2;\nS(\"mg_wall\") = \x7b7\x7d;\r\r".toList

/-- Three of five lines are kept; with ten more, the two statements and the block they have sixteen
line feeds. The reported surface is the one in the refinement field. -/
theorem normalizeExport_accounts_sample :
    sampleLayout.PlainOutputs "wing".toList (sampleExport sampleCounts) ∧
      ∃ report written, ((normalizeExport sampleLayout "wing".toList "Cut".toList).run
          (sampleExport sampleCounts)).outcome = .ok report ∧
        ((normalizeExport sampleLayout "wing".toList "Cut".toList).run
          (sampleExport sampleCounts)).files.readText (sampleLayout.finalScript "wing".toList) =
            .ok written ∧
        report.linesRead = 5 ∧ report.blankDropped = 1 ∧ report.excluded = 1 ∧
        report.surfaces = ["7".toList] ∧ written.count '\n' = 16 := by
  have hplain : sampleLayout.PlainOutputs "wing".toList (sampleExport sampleCounts) := by
    decide +kernel
  have hsource : (sampleExport sampleCounts).readText sampleLayout.exportedScript =
      .ok sampleCounts :=
    eq_ok_of_toOption (by decide +kernel)
  have hdone : ((normalizeExport sampleLayout "wing".toList "Cut".toList).run
      (sampleExport sampleCounts)).outcome.toOption.map (fun report =>
        (report.appended, report.surfaces)) = some (10, ["7".toList]) := by
    decide +kernel
  have hedits : ((substitute "wing".toList).run
      ⟨(Script.parse sampleCounts).keptLines⟩).outcome.toOption.map (fun edited =>
        (edited.edits.count "merge".toList, edited.edits.count "element-order".toList)) =
      some (1, 1) := by
    decide +kernel
  have hlines : (Script.parse sampleCounts).length = 5 := by decide +kernel
  have hblank : (Script.parse sampleCounts).lines.countP (·.isBlank) = 1 := by decide +kernel
  have hexcluded : (Script.parse sampleCounts).lines.countP
      (fun line => !line.isBlank && line.isExcluded) = 1 := by
    decide +kernel
  have hfirst : (Script.parse sampleCounts).keptLines.head?.any
      (·.includes "ElementOrder".toList) = false := by
    decide +kernel
  obtain ⟨report, hreport, hdone⟩ := Option.map_eq_some_iff.1 hdone
  obtain ⟨happended, hsurfaces⟩ := Prod.mk.inj hdone
  have hok := eq_ok_of_toOption hreport
  obtain ⟨source, written, hread, hwritten, haccounts⟩ := normalizeExport_accounts hplain hok
  cases hsource.symm.trans hread
  obtain ⟨edited, hedited, hsame⟩ := haccounts.edits
  rw [hedited, Except.toOption, Option.map_some, Option.some_inj, ← hsame, Prod.mk.injEq] at hedits
  obtain ⟨hmerge, horder⟩ := hedits
  have hlinesRead := haccounts.linesRead.trans hlines
  have hblankDropped := haccounts.blankDropped.trans hblank
  have hcleaned := haccounts.excluded.trans hexcluded
  have hfeeds := haccounts.lineFeeds (by decide)
  rw [hlinesRead, hblankDropped, hcleaned, happended, hmerge, horder, hfirst] at hfeeds
  refine ⟨hplain, report, written, hok, hwritten, hlinesRead, hblankDropped, hcleaned,
    hsurfaces, ?_⟩
  simp only [Bool.false_eq_true, if_false] at hfeeds
  omega

/-- **With a link among the outputs** the report can account for another text: the geometry is read
in place of the script, with three lines instead of two and another surface. -/
theorem normalizeExport_accounts_linked :
    let files := sampleLinked "a\n\nS(\"mg_wall\") = \x7b9\x7d;\n".toList
    (∀ path ∈ sampleLayout.outputs "wing".toList, files.Apart sampleLayout.exportedScript path ∧
      files.Apart (sampleLayout.exportedGeometry "Cut".toList) path) ∧
    files.readText sampleLayout.exportedScript = .ok sampleScript ∧
    (Script.parse sampleScript).length = 2 ∧
    ∃ report, ((normalizeExport sampleLayout "wing".toList "Cut".toList).run files).outcome =
        .ok report ∧
      report.linesRead = 3 ∧ report.surfaces = ["9".toList] := by
  intro files
  have hreport : ((normalizeExport sampleLayout "wing".toList "Cut".toList).run
      files).outcome.toOption.map (fun report => (report.linesRead, report.surfaces)) =
      some (3, ["9".toList]) := by
    decide +kernel
  obtain ⟨report, hdone, hcounts⟩ := Option.map_eq_some_iff.1 hreport
  rw [Prod.mk.injEq] at hcounts
  exact ⟨by decide +kernel, eq_ok_of_toOption (by decide +kernel), by decide +kernel, report,
    eq_ok_of_toOption hdone, hcounts⟩

end MeshScript
