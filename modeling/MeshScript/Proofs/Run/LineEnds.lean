import MeshScript.Proofs.FileSystem.SameLines
import MeshScript.Proofs.Normalize.LineEnds
import MeshScript.Proofs.Run.Leftovers
/-!
# MeshScript.Proofs.Run.LineEnds -- line ends and dropped lines do not matter

A run looks at the lines of what it reads and at nothing else: so on two file systems with the
same lines in their files it has the same outcome, and leaves the same lines again
(`normalizeExport_sameLines`). The script is then even the same byte for byte, because a
run ends the lines that it writes all in one way.

`normalize_ignores_lineEnds` puts this next to what holds of a text in memory: no kind of line end
and no line that cleaning drops can be told from the result.
-/

namespace MeshScript

open Job (Alike)
open FileSystem (SameLines OnlyFilesChanged)

variable {layout : Layout} {base shape : Text} {files others : FileSystem}

/-! ## The parts of a run -/

/-- A text is read of which nothing but the lines matters. -/
theorem readText_bind_sameLines {α : Type} {path : Path} {next : Text → Job α}
    {post : Except JobError α → FileSystem → FileSystem → Prop} (h : SameLines files others)
    (hnext : ∀ source source', source.lines = source'.lines → next source = next source')
    (hfailed : ∀ cause, post (.error (.fileFailed path cause)) files others)
    (hread : ∀ source, Alike (next source) files others post) :
    Alike (Job.query path (·.readText path) >>= next) files others post := by
  rcases h.readText_cases path with ⟨cause, hfiles, hothers⟩ |
    ⟨source, source', hfiles, hothers, hlines⟩
  · exact ⟨_, _, _, Job.ends_query_bind.2 (.inl ⟨cause, hfiles, rfl, rfl⟩),
      Job.ends_query_bind.2 (.inl ⟨cause, hothers, rfl, rfl⟩), hfailed cause⟩
  · obtain ⟨outcome, after, after', hends, hends', hpost⟩ := hread source
    rw [hnext source source' hlines] at hends'
    exact ⟨outcome, after, after', Job.ends_query_bind.2 (.inr ⟨source, hfiles, hends⟩),
      Job.ends_query_bind.2 (.inr ⟨source', hothers, hends'⟩), hpost⟩

theorem copyArtifact_bind_sameLines {α : Type} {source target : Path} {next : Unit → Job α}
    {post : Except JobError α → FileSystem → FileSystem → Prop} (h : SameLines files others)
    (hfailed : ∀ cause, post (.error (.fileFailed source cause)) files others)
    (hcopied : ∀ after after', SameLines after after' → OnlyFilesChanged files after →
      Alike (next ()) after after' post) :
    Alike (copyArtifact source target >>= next) files others post := by
  apply Job.alike_bind
  apply Job.alike_access_bind (h.copy_matched source target)
  · exact hfailed
  · rintro after after' ⟨hafter, hchanged⟩
    exact Job.alike_note (hcopied after after' hafter hchanged)

/-- **Placing the artifacts** copies lines with lines. -/
theorem placeArtifacts_sameLines (h : SameLines files others) :
    Alike (placeArtifacts layout base shape) files others fun outcome after after' =>
      SameLines after after' ∧ match outcome with
        | .error e => StoppedAtFile (α := Report) (.error e)
        | .ok _ => OnlyFilesChanged files after := by
  unfold placeArtifacts
  apply findArtifact_bind_alike (h.isFile_eq _) ⟨h, trivial⟩
  intro _
  apply findArtifact_bind_alike (h.isFile_eq _) ⟨h, trivial⟩
  intro _
  apply copyArtifact_bind_sameLines h fun _ => ⟨h, trivial⟩
  intro copied copied' hcopied hchanged
  apply copyArtifact_bind_sameLines hcopied fun _ => ⟨hcopied, trivial⟩
  intro placed placed' hplaced hchanged'
  exact Job.alike_note_bind (Job.alike_pure ⟨hplaced, hchanged.trans hchanged'⟩)

/-- **Moving without blanks** writes the same script in both. -/
theorem moveWithoutBlanks_sameLines {interim target : Path} (h : SameLines files others) :
    Alike (moveWithoutBlanks interim target) files others fun outcome after after' =>
      SameLines after after' ∧ match outcome with
        | .error e => StoppedAtFile (α := Report) (.error e)
        | .ok _ => ∀ place, files.place? target = some place →
            after.node? place = after'.node? place := by
  unfold moveWithoutBlanks
  apply readText_bind_sameLines h
  · intro source source' hlines
    simp only [hlines]
  · exact fun _ => ⟨h, trivial⟩
  intro source
  apply Job.alike_access_bind (h.write_matched target _) fun _ => ⟨h, trivial⟩
  rintro written written' ⟨hwritten, hscript⟩
  apply Job.alike_access_bind (hwritten.remove_matched interim) fun _ => ⟨hwritten, trivial⟩
  rintro removed removed' ⟨hremoved, hkept⟩
  exact Job.alike_note_bind (Job.alike_pure
    ⟨hremoved, fun place hplace => hkept place (hscript place (.inl hplace))⟩)

/-- **Normalizing in place** leaves nothing different that was the same. -/
theorem normalizeInPlace_sameLines {script geometry : Path} {counts : Nat × Nat}
    (h : SameLines files others) :
    Alike (normalizeInPlace base script geometry counts) files others fun _ after after' =>
      SameLines after after' ∧ ∀ place, files.node? place = others.node? place →
        after.node? place = after'.node? place := by
  unfold normalizeInPlace
  apply readText_bind_sameLines h
  · intro source source' hlines
    simp only [Script.parse, hlines]
  · exact fun _ => ⟨h, fun _ hsame => hsame⟩
  intro source
  apply Job.alike_through_bind
  · exact fun _ _ => ⟨h, fun _ hsame => hsame⟩
  intro kept _
  apply Job.alike_note_bind
  apply Job.alike_through_bind
  · exact fun _ _ => ⟨h, fun _ hsame => hsame⟩
  intro finished _
  apply Job.alike_note_bind
  apply Job.alike_access_bind (h.write_matched script _) fun _ => ⟨h, fun _ hsame => hsame⟩
  rintro written written' ⟨hwritten, hkept⟩
  exact Job.alike_note_bind (Job.alike_pure
    ⟨hwritten, fun place hsame => hkept place (.inr hsame)⟩)

/-! ## The whole run -/

/-- **A run does alike** on two file systems with the same lines in their files. Unless it stops at
a file, the scripts that it leaves are the same. -/
theorem normalizeExport_sameLines (h : SameLines files others) :
    Alike (normalizeExport layout base shape) files others fun outcome after after' =>
      SameLines after after' ∧ (¬ StoppedAtFile outcome → ∀ place,
        files.place? (layout.finalScript base) = some place →
          after.node? place = after'.node? place) := by
  rw [normalizeExport_eq]
  apply Job.alike_note_bind
  refine Job.alike_bind ((placeArtifacts_sameLines h).mono ?_)
  rintro (e | placed) copied copied' ⟨hcopied, hplaced⟩
  · exact ⟨hcopied, fun hstopped => absurd hplaced hstopped⟩
  refine Job.alike_bind ((moveWithoutBlanks_sameLines hcopied).mono ?_)
  rintro (e | counts) moved moved' ⟨hmoved, hscript⟩
  · exact ⟨hmoved, fun hstopped => absurd hscript hstopped⟩
  refine (normalizeInPlace_sameLines hmoved).mono ?_
  rintro outcome after after' ⟨hafter, hkept⟩
  -- copying did not move the place of the script
  refine ⟨hafter, fun _ place hplace => hkept place (hscript place ?_)⟩
  rw [hplaced.place?_eq, hplace]

/-- **Line ends and dropped lines do not matter.** With a carriage return before any of its bare
line feeds a text has the same script, so it is normalized to the same text; and as
the exported script it gives the same outcome of a run, the report included, and the same
script in the files left. A line that cleaning drops can be put in behind any line of a text. -/
theorem normalize_ignores_lineEnds :
    (∀ (source : Text) (chosen : Finset Nat),
      (∀ position ∈ chosen, source.IsBareFeed position) →
      Script.parse (source.withReturns chosen) = Script.parse source ∧
      (∀ base, normalizeText (source.withReturns chosen) base = normalizeText source base) ∧
      ∀ layout base shape files place,
        files.place? layout.exportedScript = some place →
        files.node? place = some (.file source.encode) →
        let first := (normalizeExport layout base shape).run files
        let second := (normalizeExport layout base shape).run
          (files.put place (.file (source.withReturns chosen).encode))
        first.outcome = second.outcome ∧ SameLines first.files second.files ∧
          (¬ StoppedAtFile first.outcome → ∀ script,
            files.place? (layout.finalScript base) = some script →
              first.files.node? script = second.files.node? script)) ∧
    ∀ front line back base : Text, front.IsTerminated → '\n' ∉ line →
      (line.isBlank = true ∨ line.isExcluded = true) →
      normalizeText (front ++ line ++ '\n' :: back) base = normalizeText (front ++ back) base := by
  refine ⟨fun source chosen hbare => ?_, fun front line back base hfront hline hdropped => ?_⟩
  · have hlines := Text.lines_withReturns hbare
    have hparse : Script.parse (source.withReturns chosen) = Script.parse source :=
      congrArg Script.mk hlines
    refine ⟨hparse, fun base => ?_, fun layout base shape files place _ hfile => ?_⟩
    · rw [normalizeText_eq, normalizeText_eq, hparse]
    · have hsame : SameLines files
          (files.put place (.file (source.withReturns chosen).encode)) := by
        apply SameLines.put_right hfile
        rw [FileSystem.linesOf?, FileSystem.linesOf?, Text.decode?_encode, Text.decode?_encode,
          Option.map_some, Option.map_some, hlines]
      have halike : Alike (normalizeExport layout base shape) _ _ _ :=
        normalizeExport_sameLines hsame
      exact ⟨halike.outcome_eq, halike.left⟩
  · rw [normalizeText_eq, normalizeText_eq, keptLines_insert hfront hline hdropped]

/-- The sample script with the other kind of line end. -/
def sampleReturned : Text :=
  "\r\nPhysical Surface(\"mg_wall\") = \x7b7\x7d;\r\n".toList

/-- On the sample export neither the line ends nor a comment in front of the wall group show. -/
theorem normalize_ignores_lineEnds_sample :
    let run := (normalizeExport sampleLayout "wing".toList "Cut".toList).run
    let first := run (sampleExport sampleScript)
    let second := run ((sampleExport sampleScript).put ["s".toList, "shape2mesh.geo".toList]
      (.file sampleReturned.encode))
    (∀ position ∈ ({0, 35} : Finset Nat), sampleScript.IsBareFeed position) ∧
      sampleReturned ≠ sampleScript ∧
      normalizeText sampleReturned "wing".toList = normalizeText sampleScript "wing".toList ∧
      first.outcome = second.outcome ∧
      first.files.node? ["o".toList, "wing.geo".toList] =
        second.files.node? ["o".toList, "wing.geo".toList] ∧
      normalizeText ("lc = 1;\n".toList ++ "// wall".toList ++ '\n' :: sampleScript)
          "wing".toList =
        normalizeText ("lc = 1;\n".toList ++ sampleScript) "wing".toList := by
  have hbare : ∀ position ∈ ({0, 35} : Finset Nat), sampleScript.IsBareFeed position := by
    decide +kernel
  have hreturned : sampleScript.withReturns {0, 35} = sampleReturned := by decide +kernel
  have hdone : ((normalizeExport sampleLayout "wing".toList "Cut".toList).run
      (sampleExport sampleScript)).outcome.toOption.isSome = true := by
    decide +kernel
  obtain ⟨report, hreport⟩ := Option.isSome_iff_exists.1 hdone
  have hok := eq_ok_of_toOption hreport
  obtain ⟨-, htext, hrun⟩ := normalize_ignores_lineEnds.1 sampleScript {0, 35} hbare
  obtain ⟨houtcome, -, hscript⟩ := hrun sampleLayout "wing".toList "Cut".toList
    (sampleExport sampleScript) ["s".toList, "shape2mesh.geo".toList] (by decide +kernel)
    (by decide +kernel)
  rw [hok, hreturned] at hscript
  rw [hreturned] at htext houtcome
  exact ⟨hbare, by decide +kernel, htext _, houtcome, hscript id _ (by decide +kernel),
    normalize_ignores_lineEnds.2 _ _ _ _ (by decide +kernel) (by decide +kernel)
      (by decide +kernel)⟩

end MeshScript
