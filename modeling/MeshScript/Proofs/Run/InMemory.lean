import MeshScript.Proofs.Run.Exits
/-!
# MeshScript.Proofs.Run.InMemory -- a run compared with normalization in memory

A run writes the exported text out without its blank lines and reads it again before it
normalizes it. `normalizeExport_vs_normalizeText` says what that costs: it fails on the
same texts with the same error, and it writes the same text exactly when no line with a
carriage return at its end is kept as it is.
-/

namespace MeshScript

variable {layout : Layout} {base shape : Text} {files : FileSystem}

theorem readText_withScript {interim geometry script : Location}
    (houtputs : layout.OutputsGo base files interim geometry script) (bytes : ByteArray)
    (text : Text) :
    (files.withScript interim geometry script bytes text).readText (layout.finalScript base) =
      .ok text := by
  have hplace := ((withScript_changed houtputs bytes text).place?_eq _).trans houtputs.scriptPlace
  have hnode : (files.withScript interim geometry script bytes text).node? script =
      some (.file text.encode) := by
    rw [FileSystem.withScript, FileSystem.node?_put, if_pos rfl]
  rw [FileSystem.readText_of_file houtputs.scriptFree.notRoot hnode hplace, Text.decode?_encode]

/-- **On disk and in memory.** A run that ends normally or in a stage has the error of
normalization in memory, if that has one. If not, it writes the same text exactly when every
line with a carriage return at its end that is neither blank nor excluded meets a rule that
replaces it as a whole. -/
theorem normalizeExport_vs_normalizeText {source : Text}
    (hplain : layout.PlainOutputs base files)
    (hapart : files.Apart layout.exportedScript (layout.interimScript base))
    (hsource : files.readText layout.exportedScript = .ok source)
    (hends : (∃ report, ((normalizeExport layout base shape).run files).outcome = .ok report) ∨
      ∃ e, ((normalizeExport layout base shape).run files).outcome = .error (.stageFailed e)) :
    (∀ e, ((normalizeExport layout base shape).run files).outcome = .error (.stageFailed e) ↔
      normalizeText source base = .error e) ∧
    ∀ report text, ((normalizeExport layout base shape).run files).outcome = .ok report →
      normalizeText source base = .ok text →
      (((normalizeExport layout base shape).run files).files.readText (layout.finalScript base) =
          .ok text ↔
        ∀ line ∈ (Script.parse source).lines, line.isBlank = false → line.isExcluded = false →
          line.EndsInReturn → ∃ rule ∈ Rule.wholeLineRules, rule.firesOn line = true) := by
  have hexit := normalizeExport_exits hplain
    (Job.ends_run (normalizeExport layout base shape) files)
  rw [Layout.scriptBytes_of_apart hapart] at hexit
  have hdecode := FileSystem.readText_eq_ok hsource
  -- the exit says what the text without blank lines gives; the second reading does the rest
  rcases hends with ⟨report, hok⟩ | ⟨e, hfailed⟩
  · rw [hok] at hexit ⊢
    obtain ⟨interim, geometry, script, source', text', houtputs, hdecode', htext', hfiles⟩ :=
      hexit.of_ok
    cases hdecode.symm.trans hdecode'
    refine ⟨fun e => ⟨?_, ?_⟩, ?_⟩
    · intro hno
      cases hno
    · intro herror
      rw [← normalizeText_withoutBlanks_eq_error_iff, htext'] at herror
      cases herror
    · intro _ text _ htext
      have hsame := normalizeText_withoutBlanks_eq_ok_iff htext
      rw [htext', Except.ok.injEq] at hsame
      rw [hfiles, readText_withScript houtputs, Except.ok.injEq, hsame]
      simp only [Script.mem_keptLines, and_imp, Rule.isReplaced, List.any_eq_true]
  · rw [hfailed] at hexit ⊢
    obtain ⟨interim, geometry, script, source', houtputs, hdecode', hfails, hfiles⟩ :=
      hexit.of_stageFailed
    cases hdecode.symm.trans hdecode'
    refine ⟨?_, ?_⟩
    · intro e'
      rw [← normalizeText_withoutBlanks_eq_error_iff, hfails]
      simp
    · intro _ _ hno
      cases hno

/-- A wall-group line with two carriage returns at its end: one more on disk than is read. -/
def sampleReturns : Text :=
  "Physical Surface(\"mg_wall\") = \x7b7\x7d;\r\r\n".toList

/-- The line is not replaced, so the run writes another text than there is in memory. -/
theorem normalizeExport_vs_normalizeText_sample :
    sampleLayout.PlainOutputs "wing".toList (sampleExport sampleReturns) ∧
      (sampleExport sampleReturns).readText sampleLayout.exportedScript = .ok sampleReturns ∧
      ∃ report, ((normalizeExport sampleLayout "wing".toList "Cut".toList).run
          (sampleExport sampleReturns)).outcome = .ok report ∧
        ∀ text, normalizeText sampleReturns "wing".toList = .ok text →
          ((normalizeExport sampleLayout "wing".toList "Cut".toList).run
            (sampleExport sampleReturns)).files.readText
              (sampleLayout.finalScript "wing".toList) ≠ .ok text := by
  have hplain : sampleLayout.PlainOutputs "wing".toList (sampleExport sampleReturns) := by
    decide +kernel
  have hapart : (sampleExport sampleReturns).Apart sampleLayout.exportedScript
      (sampleLayout.interimScript "wing".toList) := by
    decide +kernel
  have hsource : (sampleExport sampleReturns).readText sampleLayout.exportedScript =
      .ok sampleReturns :=
    eq_ok_of_toOption (by decide +kernel)
  have hdone : ((normalizeExport sampleLayout "wing".toList "Cut".toList).run
      (sampleExport sampleReturns)).outcome.toOption.isSome = true := by
    decide +kernel
  obtain ⟨report, hreport⟩ := Option.isSome_iff_exists.1 hdone
  have hok := eq_ok_of_toOption hreport
  refine ⟨hplain, hsource, report, hok, ?_⟩
  intro text htext hread
  have hlines := ((normalizeExport_vs_normalizeText hplain hapart hsource
    (Or.inl ⟨report, hok⟩)).2 report text hok htext).1 hread
  revert hlines
  decide +kernel

/-- **With a link among the outputs** a run can end in a stage on a script that can be normalized:
the geometry is read in its place. -/
theorem normalizeExport_vs_normalizeText_linked :
    let files := sampleLinked "solid".toList
    (∀ path ∈ sampleLayout.outputs "wing".toList, files.Apart sampleLayout.exportedScript path ∧
      files.Apart (sampleLayout.exportedGeometry "Cut".toList) path) ∧
    files.readText sampleLayout.exportedScript = .ok sampleScript ∧
    ((normalizeExport sampleLayout "wing".toList "Cut".toList).run files).outcome =
      .error (.stageFailed (.noSurfaceList Rule.wallToken)) ∧
    ∃ text, normalizeText sampleScript "wing".toList = .ok text := by
  have hdone : (normalizeText sampleScript "wing".toList).toOption.isSome = true := by
    decide +kernel
  obtain ⟨text, htext⟩ := Option.isSome_iff_exists.1 hdone
  refine ⟨by decide +kernel, eq_ok_of_toOption (by decide +kernel), by decide +kernel, text, ?_⟩
  exact eq_ok_of_toOption htext

end MeshScript
