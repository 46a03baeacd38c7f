import MeshScript.CommandLine.Standard
import MeshScript.Proofs.CommandLine.Arguments
import MeshScript.Proofs.Run.Exits
/-!
# MeshScript.Proofs.CommandLine.Modes -- what the program does in its two modes

Arguments that are accepted ask for one of two things. With a script file the program is a
function of the base name, of the name of that file and of what is read from it: it changes nothing,
and no setting and no other file has a say, not even in what the log says. Without one it loads the
settings and, if that succeeds, does what a run of the export does to the files, and nothing before
or after that. `run_modes` says both, for all arguments and all files, in all surroundings.

The libraries are arbitrary as far as they keep `Libraries.Documented`. Nothing at all is assumed
about settings and log: what the program does with them is the same whatever they answer.
-/

namespace MeshScript.CommandLine

/-! ## What the program relies on -/

/-- **What the program relies on** in its libraries. -/
structure Libraries.Documented (libraries : Libraries) : Prop where
  /-- What is required of the arguments has been given if they are accepted. -/
  arguments : libraries.arguments.Documented
  /-- A summary, which holds nothing but numbers and texts, can be printed. -/
  json (summary : Report) : ∃ text, libraries.json summary = .ok text

theorem standard_documented : standard.Documented where
  arguments := parseArguments_documented
  json summary := ⟨summary.render, rfl⟩

variable {libraries : Libraries} {surroundings : Surroundings} {arguments : List Text}
  {given : Given} {files : FileSystem}

/-- Nothing stands against giving a base name. -/
theorem leavesRoom_base : given.LeavesRoom command .base := by
  have hfree : ∀ other ∈ command.arguments, ¬Argument.base.Excludes other := by decide
  exact fun other hmem _ => hfree other hmem

/-- Nothing but a script file stands against giving a shape. -/
theorem leavesRoom_shape (hscript : given.value? .script = none) :
    given.LeavesRoom command .shape := by
  have honly : ∀ other ∈ command.arguments, Argument.shape.Excludes other → other = .script := by
    decide
  intro other hmem hhas hexcludes
  rw [honly other hmem hexcludes, Given.has, hscript] at hhas
  cases hhas

/-- A base name is given in both modes. -/
theorem Libraries.Documented.exists_base (h : libraries.Documented)
    (haccepted : libraries.arguments command arguments = .ok given) :
    ∃ base, given.value? .base = some base :=
  Option.isSome_iff_exists.1
    (h.arguments.required haccepted (by decide) leavesRoom_base rfl)

/-- A shape is given if no script file is. -/
theorem Libraries.Documented.exists_shape (h : libraries.Documented)
    (haccepted : libraries.arguments command arguments = .ok given)
    (hscript : given.value? .script = none) : ∃ shape, given.value? .shape = some shape :=
  Option.isSome_iff_exists.1
    (h.arguments.requiredUnless haccepted (by decide) (leavesRoom_shape hscript) rfl hscript)

/-! ## Which of the two -/

/-- **With a script file** the program does nothing but to print what becomes of it. -/
theorem run_script (haccepted : libraries.arguments command arguments = .ok given)
    {base : Text} {path : Path} (hbase : given.value? .base = some base)
    (hscript : given.value? .script = some path) (files : FileSystem) :
    run libraries surroundings arguments files =
      (runScript libraries surroundings base path files, files) := by
  simp only [run, haccepted, perform, hbase, hscript]

section Export

variable {base shape : Text}

/-- Without a script file nothing happens if the settings do not load. -/
theorem run_export_of_error (haccepted : libraries.arguments command arguments = .ok given)
    (hbase : given.value? .base = some base) (hscript : given.value? .script = none)
    (hshape : given.value? .shape = some shape) {cause : libraries.settings.Failure}
    (hloaded : loadSettings libraries.settings files given = .error cause) :
    run libraries surroundings arguments files =
      (failed [] "Configuration error: ".toList (libraries.settings.message cause), files) := by
  simp only [run, haccepted, perform, hbase, hscript, hshape, hloaded]

/-- **Without a script file** the program runs the export with the settings that it loads. -/
theorem run_export_of_ok (haccepted : libraries.arguments command arguments = .ok given)
    (hbase : given.value? .base = some base) (hscript : given.value? .script = none)
    (hshape : given.value? .shape = some shape) {layout : Layout}
    (hloaded : loadSettings libraries.settings files given = .ok layout) :
    run libraries surroundings arguments files =
      runExport libraries surroundings layout base shape (given.has .report) files := by
  simp only [run, haccepted, perform, hbase, hscript, hshape, hloaded]

end Export

/-! ## Printing a script -/

section Script

variable {base : Text} {path : Path}

theorem runScript_of_ok {source output : Text} (hread : files.readText path = .ok source)
    (houtput : normalizeText source base = .ok output) :
    runScript libraries surroundings base path files =
      { exit := 0
        stdout := output
        stderr := logged libraries surroundings (normalizeLogged source base).events } := by
  have houtcome : (normalizeLogged source base).outcome = .ok output := houtput
  simp only [runScript, hread, houtcome]

/-- What cannot be read or normalized is an error on the error output. -/
theorem runScript_of_not (h : ¬ ∃ source output, files.readText path = .ok source ∧
      normalizeText source base = .ok output) :
    (runScript libraries surroundings base path files).exit = 1 ∧
      (runScript libraries surroundings base path files).stdout = [] := by
  unfold runScript
  split
  · exact ⟨rfl, rfl⟩
  · rename_i source hread
    dsimp only
    split
    · exact ⟨rfl, rfl⟩
    · rename_i output houtput
      exact absurd ⟨source, output, hread, houtput⟩ h

/-- **A script is printed from what is read**, and from nothing else; so is the log. -/
theorem runScript_congr {others : FileSystem}
    (h : others.readText path = files.readText path) :
    runScript libraries surroundings base path others =
      runScript libraries surroundings base path files := by
  rw [runScript, runScript, h]

end Script

/-! ## Running an export -/

section Export

variable {layout : Layout} {base shape : Text} {report : Bool}

theorem runExport_of_error {cause : JobError}
    (h : ((normalizeExport layout base shape).run files).outcome = .error cause) :
    runExport libraries surroundings layout base shape report files =
      (failed (logged libraries surroundings
          ((normalizeExport layout base shape).run files).events)
          "Normalization error: ".toList cause.message,
        ((normalizeExport layout base shape).run files).files) := by
  simp only [runExport, h]

/-- A run that succeeds is told as a success, with a report if it is asked for. -/
theorem runExport_of_ok (hlibraries : libraries.Documented) {summary : Report}
    (h : ((normalizeExport layout base shape).run files).outcome = .ok summary) :
    ∃ stdout, (report = false → stdout = []) ∧
      runExport libraries surroundings layout base shape report files =
        ({ exit := 0
           stdout := stdout
           stderr := logged libraries surroundings
             ((normalizeExport layout base shape).run files).events },
          ((normalizeExport layout base shape).run files).files) := by
  obtain ⟨text, htext⟩ := hlibraries.json summary
  cases report with
  | true =>
    refine ⟨text ++ ['\n'], by rintro ⟨⟩, ?_⟩
    simp only [runExport, h, htext, if_true]
  | false =>
    refine ⟨[], fun _ => rfl, ?_⟩
    simp only [runExport, h, Bool.false_eq_true, if_false]

/-- The files are left as the run of the export leaves them. -/
theorem runExport_files (hlibraries : libraries.Documented) :
    (runExport libraries surroundings layout base shape report files).2 =
      ((normalizeExport layout base shape).run files).files := by
  cases h : ((normalizeExport layout base shape).run files).outcome with
  | error cause => rw [runExport_of_error h]
  | ok summary =>
    obtain ⟨stdout, -, hrun⟩ := runExport_of_ok hlibraries h
    rw [hrun]

theorem runExport_exit_eq_zero_iff (hlibraries : libraries.Documented) :
    (runExport libraries surroundings layout base shape report files).1.exit = 0 ↔
      ∃ summary, ((normalizeExport layout base shape).run files).outcome = .ok summary := by
  cases h : ((normalizeExport layout base shape).run files).outcome with
  | error cause => simp [runExport_of_error h, failed]
  | ok summary =>
    obtain ⟨stdout, -, hrun⟩ := runExport_of_ok hlibraries h
    rw [hrun]
    simp

/-- Something is printed if the run succeeds and a report is asked for. -/
theorem runExport_stdout (hlibraries : libraries.Documented)
    (hprinted : (runExport libraries surroundings layout base shape report files).1.stdout ≠ []) :
    (runExport libraries surroundings layout base shape report files).1.exit = 0 ∧
      report = true := by
  cases h : ((normalizeExport layout base shape).run files).outcome with
  | error cause =>
    rw [runExport_of_error h] at hprinted
    exact absurd rfl hprinted
  | ok summary =>
    obtain ⟨stdout, hempty, hrun⟩ := runExport_of_ok hlibraries h
    rw [hrun] at hprinted ⊢
    refine ⟨rfl, ?_⟩
    cases report with
    | true => rfl
    | false => exact absurd (hempty rfl) hprinted

end Export

/-! ## Both modes -/

/-- **The two modes of the program.** With a script file no file changes, what is printed is the
normalized text of that file, and nothing but the base name and what is read from the
file has a say in what is printed, written to the log, or left as the exit status. Without one the
program succeeds exactly if the settings load and the run of the export succeeds; it leaves the
files of that run, or all files as they were if the settings do not load; and it prints nothing
unless it succeeds and a report is asked for. -/
theorem run_modes (h : libraries.Documented) (surroundings : Surroundings)
    (haccepted : libraries.arguments command arguments = .ok given) :
    (∀ path, given.value? .script = some path → ∃ base, given.value? .base = some base ∧
      ∀ files,
        let done := run libraries surroundings arguments files
        done.2 = files ∧
        (∀ source output, files.readText path = .ok source →
          normalizeText source base = .ok output →
          done.1.exit = 0 ∧ done.1.stdout = output) ∧
        ((¬ ∃ source output, files.readText path = .ok source ∧
            normalizeText source base = .ok output) →
          done.1.exit = 1 ∧ done.1.stdout = []) ∧
        ∀ (arguments' : List Text) (given' : Given) (others : FileSystem),
          libraries.arguments command arguments' = .ok given' →
          given'.value? .script = some path → given'.value? .base = some base →
          others.readText path = files.readText path →
          (run libraries surroundings arguments' others).1 = done.1) ∧
    (given.value? .script = none → ∃ base shape, given.value? .base = some base ∧
      given.value? .shape = some shape ∧ ∀ files,
        let loaded := loadSettings libraries.settings files given
        let done := run libraries surroundings arguments files
        (done.1.exit = 0 ↔ ∃ layout summary, loaded = .ok layout ∧
          ((normalizeExport layout base shape).run files).outcome = .ok summary) ∧
        (∀ cause, loaded = .error cause → done.2 = files) ∧
        (∀ layout, loaded = .ok layout →
          done.2 = ((normalizeExport layout base shape).run files).files) ∧
        (done.1.stdout ≠ [] → done.1.exit = 0 ∧ given.has .report = true)) := by
  obtain ⟨base, hbase⟩ := h.exists_base haccepted
  constructor
  · intro path hscript
    refine ⟨base, hbase, fun files => ?_⟩
    dsimp only
    rw [run_script haccepted hbase hscript]
    refine ⟨rfl, fun source output hread houtput => ?_, runScript_of_not, ?_⟩
    · rw [runScript_of_ok hread houtput]
      exact ⟨rfl, rfl⟩
    · intro arguments' given' others haccepted' hscript' hbase' hsame
      rw [run_script haccepted' hbase' hscript', runScript_congr hsame]
  · intro hscript
    obtain ⟨shape, hshape⟩ := h.exists_shape haccepted hscript
    refine ⟨base, shape, hbase, hshape, fun files => ?_⟩
    dsimp only
    cases hloaded : loadSettings libraries.settings files given with
    | error cause =>
      rw [run_export_of_error haccepted hbase hscript hshape hloaded]
      simp [failed]
    | ok layout =>
      rw [run_export_of_ok haccepted hbase hscript hshape hloaded]
      refine ⟨?_, ?_, ?_, runExport_stdout h⟩
      · simp [runExport_exit_eq_zero_iff h]
      · rintro cause ⟨⟩
      · rintro _ ⟨⟩
        exact runExport_files h

/-- A script of which one line matches two rules, so that the log warns of it. -/
def sampleOverlap : Text :=
  "Mesh.Algorithm = 6; Mesh.Format = 4;\nPhysical Surface(\"mg_wall\") = {7};\n".toList

/-- The sample export next to a local configuration file that is not well formed. -/
def sampleMisconfigured : FileSystem :=
  (sampleExport sampleOverlap).put [localConfig] (.file (Text.encode "[".toList))

/-- Surroundings without a filter for the log, in which time stands still. -/
def sampleSurroundings : Surroundings where
  clock _ := "00:00".toList

/-- On the sample the script is printed alike with more options and a broken configuration file,
and with the same warning in the log; the export is run with the directories of the options, unless
that file is there. -/
theorem run_modes_sample :
    let scriptArguments := ["-s".toList, "s/shape2mesh.geo".toList, "wing".toList]
    let moreArguments := ["wing".toList, "--script=s/shape2mesh.geo".toList, "-cx".toList,
      "--output-dir".toList, "o".toList]
    let exportArguments := ["wing".toList, "Cut".toList, "--scratch-dir".toList, "s".toList,
      "-oo".toList]
    let files := sampleExport sampleOverlap
    (run standard sampleSurroundings scriptArguments files).2 = files ∧
      (run standard sampleSurroundings scriptArguments files).1.exit = 0 ∧
      (run standard sampleSurroundings scriptArguments files).1.stderr ≠ [] ∧
      (run standard sampleSurroundings moreArguments sampleMisconfigured).1 =
        (run standard sampleSurroundings scriptArguments files).1 ∧
      (run standard sampleSurroundings exportArguments files).1.exit = 0 ∧
      (run standard sampleSurroundings exportArguments files).1.stdout = [] ∧
      (run standard sampleSurroundings exportArguments files).2 =
        ((normalizeExport sampleLayout "wing".toList "Cut".toList).run files).files ∧
      (run standard sampleSurroundings exportArguments sampleMisconfigured).2 =
        sampleMisconfigured := by
  intro scriptArguments moreArguments exportArguments files
  let path : Path := "s/shape2mesh.geo".toList
  let exportGiven : Given :=
    ⟨[("base".toList, "wing".toList), ("shape".toList, "Cut".toList),
      ("scratch-dir".toList, "s".toList), ("output-dir".toList, "o".toList)]⟩
  have hscript : standard.arguments command scriptArguments =
      .ok ⟨[("script".toList, path), ("base".toList, "wing".toList)]⟩ := by
    decide +kernel
  have hmore : standard.arguments command moreArguments =
      .ok ⟨[("base".toList, "wing".toList), ("script".toList, path),
        ("config".toList, "x".toList), ("output-dir".toList, "o".toList)]⟩ := by
    decide +kernel
  have hexport : standard.arguments command exportArguments = .ok exportGiven := by
    decide +kernel
  have hread : files.readText path = .ok sampleOverlap := by decide +kernel
  have hread' : sampleMisconfigured.readText path = .ok sampleOverlap := by decide +kernel
  have hdone : (normalizeText sampleOverlap "wing".toList).toOption.isSome = true := by
    decide +kernel
  obtain ⟨output, houtput⟩ := Option.isSome_iff_exists.1 hdone
  have hwarned : (run standard sampleSurroundings scriptArguments files).1.stderr ≠ [] := by
    decide +kernel
  have hload : loadSettings standard.settings files exportGiven = .ok sampleLayout :=
    eq_ok_of_toOption (by decide +kernel)
  have hbroken : (loadSettings standard.settings sampleMisconfigured exportGiven).toOption =
      none := by
    decide +kernel
  have hrun : ((normalizeExport sampleLayout "wing".toList "Cut".toList).run
      files).outcome.toOption.isSome = true := by
    decide +kernel
  obtain ⟨summary, hsummary⟩ := Option.isSome_iff_exists.1 hrun
  obtain ⟨base, hbase, hscriptMode⟩ :=
    (run_modes standard_documented sampleSurroundings hscript).1 path (by decide)
  obtain rfl : "wing".toList = base := Option.some.inj hbase
  obtain ⟨hfiles, hok, -, hsame⟩ := hscriptMode files
  obtain ⟨base, shape, hbase, hshape, hexportMode⟩ :=
    (run_modes standard_documented sampleSurroundings hexport).2 (by decide)
  obtain rfl : "wing".toList = base := Option.some.inj hbase
  obtain rfl : "Cut".toList = shape := Option.some.inj hshape
  obtain ⟨hexit, -, hleft, hprinted⟩ := hexportMode files
  obtain ⟨-, hkept, -⟩ := hexportMode sampleMisconfigured
  have hnone : exportGiven.has .report = false := by decide
  have hquiet : (run standard sampleSurroundings exportArguments files).1.stdout = [] := by
    by_contra hprints
    have hreport := (hprinted hprints).2
    rw [hnone] at hreport
    cases hreport
  have hunchanged : (run standard sampleSurroundings exportArguments sampleMisconfigured).2 =
      sampleMisconfigured := by
    cases hcause : loadSettings standard.settings sampleMisconfigured exportGiven with
    | error cause => exact hkept cause hcause
    | ok layout =>
      rw [hcause] at hbroken
      cases hbroken
  exact ⟨hfiles, (hok _ _ hread (eq_ok_of_toOption houtput)).1, hwarned,
    hsame _ _ _ hmore (by decide) (by decide) (hread'.trans hread.symm),
    hexit.2 ⟨_, _, hload, eq_ok_of_toOption hsummary⟩, hquiet, hleft _ hload, hunchanged⟩

end MeshScript.CommandLine
