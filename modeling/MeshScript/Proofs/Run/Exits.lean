import MeshScript.Proofs.Run.Steps
import MeshScript.Proofs.Layout
/-!
# MeshScript.Proofs.Run.Exits -- what a run leaves behind, at every exit

`RunExit` lists the exits of a run, each with the file system it leaves. The bytes that
the copies hold are its parameters: `Layout.scriptBytes` and `Layout.geometryBytes` say what
they are, also where an output is the artifact that is copied (`normalizeExport_exits`). Where
all five files are different they are the bytes of the artifacts, and the outcome
decides what is left (`normalizeExport_exit_iff`).
-/

namespace MeshScript

open Job (Ends)

/-! ## What can be left -/

namespace FileSystem

/-- **Both copies stand**, next to everything that was there. -/
def withCopies (files : FileSystem) (interim geometry : Location)
    (scriptBytes geometryBytes : ByteArray) : FileSystem :=
  (files.put interim (.file scriptBytes)).put geometry (.file geometryBytes)

/-- **The interim copy is gone**, the geometry stands, and the script holds the text. -/
def withScript (files : FileSystem) (interim geometry script : Location)
    (geometryBytes : ByteArray) (text : Text) : FileSystem :=
  ((files.erase interim).put geometry (.file geometryBytes)).put script (.file text.encode)

end FileSystem

namespace Layout

/-- The bytes of the copied script. -/
def scriptBytes (layout : Layout) (base : Text) (files : FileSystem) : ByteArray :=
  files.copied layout.exportedScript (layout.interimScript base)

/-- The bytes of the copied geometry: those of the copied script, if that was written over the
exported geometry. -/
def geometryBytes (layout : Layout) (base shape : Text) (files : FileSystem) : ByteArray :=
  match files.place? (layout.exportedGeometry shape) with
  | none => .empty
  | some exported =>
    if files.place? (layout.interimScript base) = some exported then layout.scriptBytes base files
    else files.copied (layout.exportedGeometry shape) (layout.finalGeometry base)

theorem scriptBytes_of_apart {layout : Layout} {base : Text} {files : FileSystem}
    (h : files.Apart layout.exportedScript (layout.interimScript base)) :
    layout.scriptBytes base files = files.bytesOf layout.exportedScript :=
  FileSystem.copied_of_apart h

theorem geometryBytes_of_apart {layout : Layout} {base shape : Text} {files : FileSystem}
    (hinterim : files.Apart (layout.exportedGeometry shape) (layout.interimScript base))
    (hgeometry : files.Apart (layout.exportedGeometry shape) (layout.finalGeometry base)) :
    layout.geometryBytes base shape files = files.bytesOf (layout.exportedGeometry shape) := by
  unfold geometryBytes
  cases hplace : files.place? (layout.exportedGeometry shape) with
  | none => rw [FileSystem.bytesOf, hplace]
  | some exported =>
    simp only [if_neg (hinterim exported hplace), FileSystem.copied_of_apart hgeometry]

/-- **Where the copies go**: two places that can hold a file. -/
structure CopiesGo (layout : Layout) (base : Text) (files : FileSystem)
    (interim geometry : Location) : Prop where
  interimPlace : files.place? (layout.interimScript base) = some interim
  interimFree : files.CanHoldFile interim
  geometryPlace : files.place? (layout.finalGeometry base) = some geometry
  geometryFree : files.CanHoldFile geometry

/-- **Where the outputs go**: the copies, and the script at a third place. -/
structure OutputsGo (layout : Layout) (base : Text) (files : FileSystem)
    (interim geometry script : Location) : Prop
    extends CopiesGo layout base files interim geometry where
  scriptPlace : files.place? (layout.finalScript base) = some script
  scriptFree : files.CanHoldFile script

end Layout

section Exits

variable (layout : Layout) (base shape : Text) (files : FileSystem)
  (scriptBytes geometryBytes : ByteArray)

/-- **The exits of a run**: its outcome, and the file system that it leaves. -/
inductive RunExit : Except JobError Report → FileSystem → Prop
  /-- The exported script is no file. -/
  | scriptMissing (hscript : files.isFile layout.exportedScript = false) :
      RunExit (.error (.artifactMissing .script layout.exportedScript)) files
  /-- The exported geometry is no file. -/
  | geometryMissing (hscript : files.isFile layout.exportedScript = true)
      (hgeometry : files.isFile (layout.exportedGeometry shape) = false) :
      RunExit (.error (.artifactMissing .geometry (layout.exportedGeometry shape))) files
  /-- The exported script cannot be copied. -/
  | scriptNotCopied (hscript : files.isFile layout.exportedScript = true) (cause : FileError) :
      RunExit (.error (.fileFailed layout.exportedScript cause)) files
  /-- The exported geometry cannot be copied. -/
  | geometryNotCopied (hgeometry : files.isFile (layout.exportedGeometry shape) = true)
      {interim : Location} (hinterim : files.place? (layout.interimScript base) = some interim)
      (cause : FileError) :
      RunExit (.error (.fileFailed (layout.exportedGeometry shape) cause))
        (files.put interim (.file scriptBytes))
  /-- The copied script is not valid UTF-8. -/
  | copyNotText {interim geometry : Location}
      (hcopies : layout.CopiesGo base files interim geometry)
      (hdecode : Text.decode? scriptBytes = none) :
      RunExit (.error (.fileFailed (layout.interimScript base) .invalidEncoding))
        (files.withCopies interim geometry scriptBytes geometryBytes)
  /-- The script without its blank lines cannot be written. -/
  | scriptNotWritten {interim geometry : Location}
      (hcopies : layout.CopiesGo base files interim geometry) {source : Text}
      (hdecode : Text.decode? scriptBytes = some source) (cause : FileError) :
      RunExit (.error (.fileFailed (layout.finalScript base) cause))
        (files.withCopies interim geometry scriptBytes geometryBytes)
  /-- The script has no normal form. -/
  | stageFailed {interim geometry script : Location}
      (houtputs : layout.OutputsGo base files interim geometry script) {source : Text}
      (hdecode : Text.decode? scriptBytes = some source) {e : StageError}
      (hfails : normalizeText source.withoutBlanks base = .error e) :
      RunExit (.error (.stageFailed e))
        (files.withScript interim geometry script geometryBytes source.withoutBlanks)
  /-- The script is normalized. -/
  | completed {interim geometry script : Location}
      (houtputs : layout.OutputsGo base files interim geometry script) {source text : Text}
      (hdecode : Text.decode? scriptBytes = some source)
      (htext : normalizeText source.withoutBlanks base = .ok text) (report : Report) :
      RunExit (.ok report) (files.withScript interim geometry script geometryBytes text)

end Exits

/-! ## The copies -/

section Run

variable {layout : Layout} {base shape : Text} {files after : FileSystem}

/-- The second copy is made after the first, and finds what that has left. -/
theorem copied_geometry {interim : Location}
    (hplain : layout.PlainOutputs base files)
    (hinterim : files.place? (layout.interimScript base) = some interim)
    (hfree : files.CanHoldFile interim)
    (hgeometry : files.isFile (layout.exportedGeometry shape) = true) :
    (files.put interim (.file (layout.scriptBytes base files))).copied
        (layout.exportedGeometry shape) (layout.finalGeometry base) =
      layout.geometryBytes base shape files := by
  obtain ⟨origin, bytes, horigin, -⟩ := FileSystem.isFile_eq_true_iff.1 hgeometry
  have hchange := FileSystem.OnlyFilesChanged.put hfree (layout.scriptBytes base files)
  rw [FileSystem.copied, FileSystem.bytesOf, hchange.place?_eq, hchange.place?_eq,
    Layout.geometryBytes, FileSystem.copied, FileSystem.bytesOf_eq horigin, horigin, hinterim]
  simp only [Option.some.injEq, FileSystem.bytesAt_put]
  by_cases hoverwritten : interim = origin
  -- an artifact that the first copy overwrote is not the target of the second
  · have hne : some origin ≠ files.place? (layout.finalGeometry base) :=
      fun heq => hplain.interim_apart_geometry interim hinterim (hoverwritten ▸ heq.symm)
    rw [if_neg hne, if_pos hoverwritten.symm, if_pos hoverwritten]
  · simp only [if_neg hoverwritten, if_neg (Ne.symm hoverwritten)]

theorem placeArtifacts_ends {outcome : Except JobError Placed}
    (hplain : layout.PlainOutputs base files)
    (h : Ends (placeArtifacts layout base shape) files outcome after) :
    (∃ e, outcome = .error e ∧ RunExit layout base shape files (layout.scriptBytes base files)
      (layout.geometryBytes base shape files) (.error e) after) ∨
    ∃ interim geometry, layout.CopiesGo base files interim geometry ∧
      files.read layout.exportedScript = .ok (files.bytesOf layout.exportedScript) ∧
      outcome = .ok ⟨layout.interimScript base, layout.finalGeometry base⟩ ∧
      after = files.withCopies interim geometry (layout.scriptBytes base files)
        (layout.geometryBytes base shape files) := by
  unfold placeArtifacts at h
  -- the failures are taken off one by one, in the order of the operations
  rcases findArtifact_bind_ends.1 h with ⟨hmissing, rfl, rfl⟩ | ⟨hscript, h⟩
  · exact Or.inl ⟨_, rfl, .scriptMissing hmissing⟩
  rcases findArtifact_bind_ends.1 h with ⟨hmissing, rfl, rfl⟩ | ⟨hgeometry, h⟩
  · exact Or.inl ⟨_, rfl, .geometryMissing hscript hmissing⟩
  rcases copyArtifact_bind_ends.1 h with ⟨cause, -, rfl, rfl⟩ | ⟨first, hfirst, h⟩
  · exact Or.inl ⟨_, rfl, .scriptNotCopied hscript cause⟩
  obtain ⟨interim, hinterim, hinterimFree, rfl⟩ := FileSystem.copy_eq_ok hplain.interim hfirst
  have hchange := FileSystem.OnlyFilesChanged.put hinterimFree (layout.scriptBytes base files)
  rcases copyArtifact_bind_ends.1 h with ⟨cause, -, rfl, rfl⟩ | ⟨second, hsecond, h⟩
  · exact Or.inl ⟨_, rfl, .geometryNotCopied hgeometry hinterim cause⟩
  obtain ⟨geometry, hplace, hfree, rfl⟩ :=
    FileSystem.copy_eq_ok (hchange.isPlainAt hplain.geometry) hsecond
  rw [hchange.place?_eq] at hplace
  have hcopies : layout.CopiesGo base files interim geometry :=
    ⟨hinterim, hinterimFree, hplace, hchange.canHoldFile_before hplain.geometry hplace hfree⟩
  simp only [Job.ends_note_bind, Job.ends_pure] at h
  obtain ⟨rfl, rfl⟩ := h
  refine Or.inr ⟨interim, geometry, hcopies, FileSystem.read_of_copy hfirst, rfl, ?_⟩
  exact congrArg (fun bytes => (files.put interim (.file _)).put geometry (.file bytes))
    (copied_geometry hplain hinterim hinterimFree hgeometry)

/-! ## The whole run -/

theorem withCopies_changed {interim geometry : Location}
    (hcopies : layout.CopiesGo base files interim geometry)
    (scriptBytes geometryBytes : ByteArray) :
    FileSystem.OnlyFilesChanged files
      (files.withCopies interim geometry scriptBytes geometryBytes) := by
  have hfirst := FileSystem.OnlyFilesChanged.put hcopies.interimFree scriptBytes
  exact hfirst.trans (.put (hfirst.canHoldFile hcopies.geometryFree) geometryBytes)

theorem withScript_changed {interim geometry script : Location}
    (houtputs : layout.OutputsGo base files interim geometry script) (geometryBytes : ByteArray)
    (text : Text) :
    FileSystem.OnlyFilesChanged files
      (files.withScript interim geometry script geometryBytes text) := by
  have hfirst := FileSystem.OnlyFilesChanged.erase houtputs.interimFree
  have hsecond := hfirst.trans (.put (hfirst.canHoldFile houtputs.geometryFree) geometryBytes)
  exact hsecond.trans (.put (hsecond.canHoldFile houtputs.scriptFree) text.encode)

/-- The files that a run has touched when it has written the script, in any case. -/
theorem put_withCopies {interim geometry script : Location} {scriptBytes geometryBytes : ByteArray}
    (hgeometry : interim ≠ geometry) (hscript : interim ≠ script) (text : Text) :
    ((files.withCopies interim geometry scriptBytes geometryBytes).put script
        (.file text.encode)).erase interim =
      files.withScript interim geometry script geometryBytes text := by
  apply FileSystem.ext_node?
  · rfl
  · intro location
    simp only [FileSystem.withCopies, FileSystem.withScript, FileSystem.node?_put,
      FileSystem.node?_erase]
    by_cases h : location = interim
    · simp [h, hgeometry, hscript]
    · simp [h]

/-- **A run up to its last part** ends in one of the exits, or the script without blank lines stands
where the outputs go, the copy is gone, and what is left to be done is to normalize it in place. -/
theorem normalizeExport_ends {outcome : Except JobError Report}
    (hplain : layout.PlainOutputs base files)
    (h : Ends (normalizeExport layout base shape) files outcome after) :
    (∃ e, outcome = .error e ∧ RunExit layout base shape files (layout.scriptBytes base files)
      (layout.geometryBytes base shape files) (.error e) after) ∨
    ∃ interim geometry script source, layout.OutputsGo base files interim geometry script ∧
      files.read layout.exportedScript = .ok (files.bytesOf layout.exportedScript) ∧
      Text.decode? (layout.scriptBytes base files) = some source ∧
      Ends (normalizeInPlace base (layout.finalScript base) (layout.finalGeometry base)
          (source.lines.length, source.lines.countP (·.isBlank)))
        (files.withScript interim geometry script (layout.geometryBytes base shape files)
          source.withoutBlanks) outcome after := by
  rw [normalizeExport_eq, Job.ends_note_bind] at h
  rcases Job.ends_bind.1 h with ⟨e, hplaced, rfl⟩ | ⟨placed, mid, hplaced, h⟩
  · rcases placeArtifacts_ends hplain hplaced with ⟨e', he, hexit⟩ | ⟨_, _, -, -, hno, -⟩
    · cases he
      exact Or.inl ⟨e, rfl, hexit⟩
    · cases hno
  rcases placeArtifacts_ends hplain hplaced with
    ⟨e, hno, -⟩ | ⟨interim, geometry, hcopies, hread, hpaths, rfl⟩
  · cases hno
  cases hpaths
  -- both copies stand; the copied script was not overwritten by the geometry
  have hchange := withCopies_changed hcopies (layout.scriptBytes base files)
    (layout.geometryBytes base shape files)
  have hgeometry : interim ≠ geometry := fun heq =>
    hplain.interim_apart_geometry interim hcopies.interimPlace (heq ▸ hcopies.geometryPlace)
  have hcopy : (files.withCopies interim geometry (layout.scriptBytes base files)
      (layout.geometryBytes base shape files)).node? interim =
      some (.file (layout.scriptBytes base files)) := by
    rw [FileSystem.withCopies, FileSystem.node?_put, if_neg hgeometry, FileSystem.node?_put,
      if_pos rfl]
  have hmove {outcome : Except JobError (Nat × Nat)} {after : FileSystem}
      (h : Ends (moveWithoutBlanks (layout.interimScript base) (layout.finalScript base))
        (files.withCopies interim geometry (layout.scriptBytes base files)
          (layout.geometryBytes base shape files)) outcome after) :=
    moveWithoutBlanks_ends (hchange.isPlainAt hplain.interim) (hchange.isPlainAt hplain.script)
      (hchange.apart hplain.script_apart_interim).symm
      ((hchange.place?_eq _).trans hcopies.interimPlace) hcopies.interimFree.notRoot hcopy h
  rcases Job.ends_bind.1 h with ⟨e, hmoved, rfl⟩ | ⟨counts, mid, hmoved, h⟩
  · rcases hmove hmoved with
      ⟨hdecode, he, rfl⟩ | ⟨source, hdecode, ⟨cause, he, rfl⟩ | ⟨_, -, -, hno, -⟩⟩
    · cases he
      exact Or.inl ⟨_, rfl, .copyNotText hcopies hdecode⟩
    · cases he
      exact Or.inl ⟨_, rfl, .scriptNotWritten hcopies hdecode cause⟩
    · cases hno
  rcases hmove hmoved with
    ⟨-, hno, -⟩ | ⟨source, hdecode, ⟨_, hno, -⟩ | ⟨script, hplace, hfree, hcounts, rfl⟩⟩
  · cases hno
  · cases hno
  cases hcounts
  -- the script without blank lines stands, and the copy is gone
  have hscript : interim ≠ script := fun heq =>
    (hchange.apart hplain.script_apart_interim) script hplace
      ((hchange.place?_eq _).trans (heq ▸ hcopies.interimPlace))
  rw [put_withCopies hgeometry hscript] at h
  rw [hchange.place?_eq] at hplace
  have houtputs : layout.OutputsGo base files interim geometry script :=
    ⟨hcopies, hplace, hchange.canHoldFile_before hplain.script hplace hfree⟩
  exact Or.inr ⟨interim, geometry, script, source, houtputs, hread, hdecode, h⟩

/-- **The last part of a run** has no normal form for the text, or writes it over the text. -/
theorem normalizeInPlace_withScript_ends {interim geometry script : Location}
    {geometryBytes : ByteArray} {text : Text} {counts : Nat × Nat}
    {outcome : Except JobError Report}
    (houtputs : layout.OutputsGo base files interim geometry script)
    (h : Ends (normalizeInPlace base (layout.finalScript base) (layout.finalGeometry base) counts)
      (files.withScript interim geometry script geometryBytes text) outcome after) :
    (∃ e, finish base (Script.parse text).keptLines = .error e ∧
      outcome = .error (.stageFailed e) ∧
      after = files.withScript interim geometry script geometryBytes text) ∨
    ∃ finished, finish base (Script.parse text).keptLines = .ok finished ∧
      outcome = .ok (finished.report base (layout.finalScript base) (layout.finalGeometry base)
        counts ((Script.parse text).length - (Script.parse text).keptLines.length)) ∧
      after = files.withScript interim geometry script geometryBytes finished.script.render := by
  have hwritten := withScript_changed houtputs geometryBytes text
  have hnode : (files.withScript interim geometry script geometryBytes text).node? script =
      some (.file text.encode) := by
    rw [FileSystem.withScript, FileSystem.node?_put, if_pos rfl]
  rcases normalizeInPlace_ends ((hwritten.place?_eq _).trans houtputs.scriptPlace)
      houtputs.scriptFree.notRoot hnode h with hfails | ⟨finished, hfinish, houtcome, rfl⟩
  · exact Or.inl hfails
  · refine Or.inr ⟨finished, hfinish, houtcome, ?_⟩
    rw [FileSystem.withScript, FileSystem.put_put, FileSystem.withScript]

/-- **Every run ends in one of the exits**, provided no output is a link or a device. -/
theorem normalizeExport_exits {outcome : Except JobError Report}
    (hplain : layout.PlainOutputs base files)
    (h : Ends (normalizeExport layout base shape) files outcome after) :
    RunExit layout base shape files (layout.scriptBytes base files)
      (layout.geometryBytes base shape files) outcome after := by
  rcases normalizeExport_ends hplain h with
    ⟨e, rfl, hexit⟩ | ⟨interim, geometry, script, source, houtputs, -, hdecode, h⟩
  · exact hexit
  have hnormal := normalizeText_eq source.withoutBlanks base
  rcases normalizeInPlace_withScript_ends houtputs h with
    ⟨e, hfails, rfl, rfl⟩ | ⟨finished, hfinish, rfl, rfl⟩
  · exact .stageFailed houtputs hdecode (hnormal.trans (congrArg (Except.map _) hfails))
  · exact .completed houtputs hdecode (hnormal.trans (congrArg (Except.map _) hfinish)) _

/-! ## The outcome decides what is left -/

section Decided

variable {scriptBytes geometryBytes : ByteArray} {after' : FileSystem}

theorem RunExit.of_artifactMissing {artifact : Artifact} {path : Path}
    (h : RunExit layout base shape files scriptBytes geometryBytes
      (.error (.artifactMissing artifact path)) after) : after = files := by
  cases h <;> rfl

theorem RunExit.of_fileFailed {path : Path} {cause : FileError}
    (h : RunExit layout base shape files scriptBytes geometryBytes
      (.error (.fileFailed path cause)) after) :
    (path = layout.exportedScript ∧ files.isFile layout.exportedScript = true ∧ after = files) ∨
    (path = layout.exportedGeometry shape ∧
      files.isFile (layout.exportedGeometry shape) = true ∧
      ∃ interim, files.place? (layout.interimScript base) = some interim ∧
        after = files.put interim (.file scriptBytes)) ∨
    (path ∈ layout.outputs base ∧ ∃ interim geometry, layout.CopiesGo base files interim geometry ∧
      after = files.withCopies interim geometry scriptBytes geometryBytes) := by
  cases h with
  | scriptNotCopied hscript => exact Or.inl ⟨rfl, hscript, rfl⟩
  | geometryNotCopied hgeometry hinterim =>
    exact Or.inr (Or.inl ⟨rfl, hgeometry, _, hinterim, rfl⟩)
  | copyNotText hcopies => exact Or.inr (Or.inr ⟨by simp [Layout.outputs], _, _, hcopies, rfl⟩)
  | scriptNotWritten hcopies => exact Or.inr (Or.inr ⟨by simp [Layout.outputs], _, _, hcopies, rfl⟩)

theorem RunExit.of_stageFailed {e : StageError}
    (h : RunExit layout base shape files scriptBytes geometryBytes (.error (.stageFailed e))
      after) :
    ∃ interim geometry script source, layout.OutputsGo base files interim geometry script ∧
      Text.decode? scriptBytes = some source ∧ normalizeText source.withoutBlanks base = .error e ∧
      after = files.withScript interim geometry script geometryBytes source.withoutBlanks := by
  cases h with
  | stageFailed houtputs hdecode hfails =>
    exact ⟨_, _, _, _, houtputs, hdecode, hfails, rfl⟩

theorem RunExit.of_ok {report : Report}
    (h : RunExit layout base shape files scriptBytes geometryBytes (.ok report) after) :
    ∃ interim geometry script source text, layout.OutputsGo base files interim geometry script ∧
      Text.decode? scriptBytes = some source ∧ normalizeText source.withoutBlanks base = .ok text ∧
      after = files.withScript interim geometry script geometryBytes text := by
  cases h with
  | completed houtputs hdecode htext =>
    exact ⟨_, _, _, _, _, houtputs, hdecode, htext, rfl⟩

theorem Layout.CopiesGo.unique {interim geometry interim' geometry' : Location}
    (h : layout.CopiesGo base files interim geometry)
    (h' : layout.CopiesGo base files interim' geometry') :
    interim = interim' ∧ geometry = geometry' :=
  ⟨Option.some.inj (h.interimPlace.symm.trans h'.interimPlace),
    Option.some.inj (h.geometryPlace.symm.trans h'.geometryPlace)⟩

/-- An exported file and a path that is apart from it are not written the same. -/
theorem ne_of_apart {path other : Path} (hfile : files.isFile path = true)
    (hapart : files.Apart path other) : path ≠ other := by
  rintro rfl
  obtain ⟨place, bytes, hplace, -⟩ := FileSystem.isFile_eq_true_iff.1 hfile
  exact hapart place hplace hplace

/-- **An outcome leaves one file system**, if all five files are different. -/
theorem RunExit.files_unique {outcome : Except JobError Report}
    (hapart : layout.AllApart base shape files)
    (h : RunExit layout base shape files scriptBytes geometryBytes outcome after)
    (h' : RunExit layout base shape files scriptBytes geometryBytes outcome after') :
    after = after' := by
  have hscript : ∀ {path : Path}, path = layout.exportedScript →
      files.isFile layout.exportedScript = true → path ∉ layout.outputs base := by
    rintro _ rfl hfile hmem
    exact ne_of_apart hfile (hapart.script hmem) rfl
  have hgeometry : ∀ {path : Path}, path = layout.exportedGeometry shape →
      files.isFile (layout.exportedGeometry shape) = true → path ∉ layout.outputs base := by
    rintro _ rfl hfile hmem
    exact ne_of_apart hfile (hapart.geometry hmem) rfl
  -- a failed file operation is told by its path: an artifact is never named like an output
  match outcome, h, h' with
  | .error (.artifactMissing _ _), h, h' => rw [h.of_artifactMissing, h'.of_artifactMissing]
  | .error (.fileFailed _ _), h, h' =>
    rcases h.of_fileFailed with ⟨hpath, hfile, rfl⟩ | ⟨hpath, hfile, interim, hplace, rfl⟩ |
        ⟨hpath, interim, geometry, hcopies, rfl⟩ <;>
      rcases h'.of_fileFailed with ⟨hpath', hfile', rfl⟩ |
        ⟨hpath', hfile', interim', hplace', rfl⟩ |
        ⟨hpath', interim', geometry', hcopies', rfl⟩
    · rfl
    · exact absurd (hpath.symm.trans hpath') (ne_of_apart hfile hapart.artifacts)
    · exact absurd hpath' (hscript hpath hfile)
    · exact absurd (hpath'.symm.trans hpath) (ne_of_apart hfile' hapart.artifacts)
    · cases hplace.symm.trans hplace'
      rfl
    · exact absurd hpath' (hgeometry hpath hfile)
    · exact absurd hpath (hscript hpath' hfile')
    · exact absurd hpath (hgeometry hpath' hfile')
    · obtain ⟨rfl, rfl⟩ := hcopies.unique hcopies'
      rfl
  | .error (.stageFailed _), h, h' =>
    obtain ⟨interim, geometry, script, source, houtputs, hdecode, -, rfl⟩ := h.of_stageFailed
    obtain ⟨interim', geometry', script', source', houtputs', hdecode', -, rfl⟩ :=
      h'.of_stageFailed
    obtain ⟨rfl, rfl⟩ := houtputs.toCopiesGo.unique houtputs'.toCopiesGo
    cases houtputs.scriptPlace.symm.trans houtputs'.scriptPlace
    cases hdecode.symm.trans hdecode'
    rfl
  | .ok _, h, h' =>
    obtain ⟨interim, geometry, script, source, text, houtputs, hdecode, htext, rfl⟩ := h.of_ok
    obtain ⟨interim', geometry', script', source', text', houtputs', hdecode', htext', rfl⟩ :=
      h'.of_ok
    obtain ⟨rfl, rfl⟩ := houtputs.toCopiesGo.unique houtputs'.toCopiesGo
    cases houtputs.scriptPlace.symm.trans houtputs'.scriptPlace
    cases hdecode.symm.trans hdecode'
    cases htext.symm.trans htext'
    rfl

/-- **What a run leaves is decided by its outcome**: one of the exits, with the bytes that
the two artifacts held before. -/
theorem normalizeExport_exit_iff (hplain : layout.PlainOutputs base files)
    (hapart : layout.AllApart base shape files) (after : FileSystem) :
    RunExit layout base shape files (files.bytesOf layout.exportedScript)
        (files.bytesOf (layout.exportedGeometry shape))
        ((normalizeExport layout base shape).run files).outcome after ↔
      after = ((normalizeExport layout base shape).run files).files := by
  have hexit := normalizeExport_exits hplain
    (Job.ends_run (normalizeExport layout base shape) files)
  rw [Layout.scriptBytes_of_apart (hapart.script (by simp [Layout.outputs])),
    Layout.geometryBytes_of_apart (hapart.geometry (by simp [Layout.outputs]))
      (hapart.geometry (by simp [Layout.outputs]))] at hexit
  constructor
  · intro h
    exact h.files_unique hapart hexit
  · rintro rfl
    exact hexit

/-- A layout with one directory for an export and one for the results. -/
def sampleLayout : Layout where
  scratchDir := "s".toList
  outputDir := "o".toList

/-- A file system with these two directories and the export of one shape. -/
def sampleExport (script : Text) : FileSystem :=
  .ofList
    [ (["s".toList], .directory),
      (["o".toList], .directory),
      (["s".toList, "shape2mesh.geo".toList], .file script.encode),
      (["s".toList, "Cut_Geometry.brep".toList], .file (Text.encode "solid".toList)) ] []

/-- A script with a wall group, and a blank line before it. -/
def sampleScript : Text :=
  "\nPhysical Surface(\"mg_wall\") = \x7b7\x7d;\n".toList

/-- The sample export ends in one of the exits, with the bytes that it held. -/
theorem normalizeExport_exit_sample :
    sampleLayout.PlainOutputs "wing".toList (sampleExport sampleScript) ∧
      sampleLayout.AllApart "wing".toList "Cut".toList (sampleExport sampleScript) ∧
      RunExit sampleLayout "wing".toList "Cut".toList (sampleExport sampleScript)
        sampleScript.encode (Text.encode "solid".toList)
        ((normalizeExport sampleLayout "wing".toList "Cut".toList).run
          (sampleExport sampleScript)).outcome
        ((normalizeExport sampleLayout "wing".toList "Cut".toList).run
          (sampleExport sampleScript)).files := by
  have hplain : sampleLayout.PlainOutputs "wing".toList (sampleExport sampleScript) := by
    decide +kernel
  have hapart : sampleLayout.AllApart "wing".toList "Cut".toList (sampleExport sampleScript) := by
    decide +kernel
  have hscript : (sampleExport sampleScript).bytesOf sampleLayout.exportedScript =
      sampleScript.encode := by
    decide +kernel
  have hgeometry : (sampleExport sampleScript).bytesOf
      (sampleLayout.exportedGeometry "Cut".toList) = Text.encode "solid".toList := by
    decide +kernel
  have hexit := (normalizeExport_exit_iff hplain hapart _).2 rfl
  rw [hscript, hgeometry] at hexit
  exact ⟨hplain, hapart, hexit⟩

/-- The sample export with another geometry, and with a link where the script is copied to, which
leads to where the geometry is copied to. -/
def sampleLinked (geometry : Text) : FileSystem :=
  ((sampleExport sampleScript).put ["s".toList, "Cut_Geometry.brep".toList]
    (.file geometry.encode)).put ["o".toList, "wing.geo.copy".toList]
    (.link ["o".toList, "wing.brep".toList])

end Decided

end Run

end MeshScript
