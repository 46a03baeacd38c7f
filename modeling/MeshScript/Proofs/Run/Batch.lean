import MeshScript.Proofs.Run.Leftovers
/-!
# MeshScript.Proofs.Run.Batch -- the order of several runs does not matter

A batch runs for one target after another, and goes on whatever the earlier runs came to. Two
targets whose base names are different, and hold no slash, have their outputs at different places
of one directory, also `x` and `x.geo`. So what one run leaves, finished or not, is nothing
that the other one reads: two runs commute (`Separate.run_comm`), and by induction over the
permutation every order of a batch gives the same (`normalizeBatch_perm`).
-/

namespace MeshScript

open FileSystem (DifferIn OnlyFilesChanged)

/-- **A target**: the base name of the results and the shape that was exported. -/
structure Target where
  base : Text
  shape : Text
  deriving DecidableEq

/-- The run for a target. -/
def Target.normalize (target : Target) (layout : Layout) : Job Report :=
  normalizeExport layout target.base target.shape

/-- **What a batch leaves behind**: the outcome for each target, and the file system. -/
structure BatchResult where
  outcomes : List (Target × Except JobError Report)
  files : FileSystem

/-- **A batch**: a run for each target in turn, after failed runs too. -/
def normalizeBatch (layout : Layout) : List Target → FileSystem → BatchResult
  | [], files => ⟨[], files⟩
  | target :: rest, files =>
    let done := (target.normalize layout).run files
    let others := normalizeBatch layout rest done.files
    ⟨(target, done.outcome) :: others.outcomes, others.files⟩

/-- **Separate targets**: their base names are different names of plain files, none of
which is an artifact of the batch. -/
structure Layout.Separate (layout : Layout) (targets : List Target) (files : FileSystem) :
    Prop where
  distinct : (targets.map Target.base).Nodup
  slash : ∀ target ∈ targets, '/' ∉ target.base
  plain : ∀ target ∈ targets, layout.PlainOutputs target.base files
  script : ∀ target ∈ targets, ∀ path ∈ layout.outputs target.base,
    files.Apart layout.exportedScript path
  geometry : ∀ target ∈ targets, ∀ other ∈ targets, ∀ path ∈ layout.outputs target.base,
    files.Apart (layout.exportedGeometry other.shape) path

variable {layout : Layout} {targets : List Target} {files after : FileSystem}

namespace Layout.Separate

theorem iff : layout.Separate targets files ↔
    (targets.map Target.base).Nodup ∧ ∀ target ∈ targets, '/' ∉ target.base ∧
      layout.PlainOutputs target.base files ∧ ∀ path ∈ layout.outputs target.base,
        files.Apart layout.exportedScript path ∧ ∀ other ∈ targets,
          files.Apart (layout.exportedGeometry other.shape) path := by
  constructor
  · intro h
    exact ⟨h.distinct, fun target hmem => ⟨h.slash target hmem, h.plain target hmem,
      fun path hpath => ⟨h.script target hmem path hpath,
        fun other hother => h.geometry target hmem other hother path hpath⟩⟩⟩
  · rintro ⟨hdistinct, h⟩
    exact ⟨hdistinct, fun target hmem => (h target hmem).1, fun target hmem => (h target hmem).2.1,
      fun target hmem path hpath => ((h target hmem).2.2 path hpath).1,
      fun target hmem other hother path hpath => ((h target hmem).2.2 path hpath).2 other hother⟩

instance (layout : Layout) (targets : List Target) (files : FileSystem) :
    Decidable (layout.Separate targets files) :=
  decidable_of_iff _ iff.symm

theorem perm {order : List Target} (h : layout.Separate targets files)
    (hperm : order.Perm targets) : layout.Separate order files where
  distinct := (hperm.map Target.base).nodup_iff.2 h.distinct
  slash target hmem := h.slash target (hperm.subset hmem)
  plain target hmem := h.plain target (hperm.subset hmem)
  script target hmem := h.script target (hperm.subset hmem)
  geometry target hmem other hother := h.geometry target (hperm.subset hmem) other
    (hperm.subset hother)

theorem tail {target : Target} (h : layout.Separate (target :: targets) files) :
    layout.Separate targets files where
  distinct := (List.nodup_cons.1 h.distinct).2
  slash other hmem := h.slash other (List.mem_cons_of_mem _ hmem)
  plain other hmem := h.plain other (List.mem_cons_of_mem _ hmem)
  script other hmem := h.script other (List.mem_cons_of_mem _ hmem)
  geometry target hmem other hother := h.geometry target (List.mem_cons_of_mem _ hmem) other
    (List.mem_cons_of_mem _ hother)

theorem base_ne {target other : Target} (h : layout.Separate (target :: targets) files)
    (hmem : other ∈ targets) : target.base ≠ other.base := fun heq =>
  (List.nodup_cons.1 h.distinct).1 (heq ▸ List.mem_map_of_mem hmem)

/-- Separate targets stay separate as long as only files change. -/
theorem of_changed (h : layout.Separate targets files) (hchange : OnlyFilesChanged files after) :
    layout.Separate targets after where
  distinct := h.distinct
  slash := h.slash
  plain target hmem := (h.plain target hmem).of_changed hchange
  script target hmem path hpath := hchange.apart (h.script target hmem path hpath)
  geometry target hmem other hother path hpath :=
    hchange.apart (h.geometry target hmem other hother path hpath)

/-! ## Two runs -/

section Two

variable {target other : Target} (h : layout.Separate targets files) (hmem : target ∈ targets)
  (hother : other ∈ targets)

include h hmem

/-- A run of the batch changes its own outputs only. -/
theorem differIn : DifferIn (files.placesOf (layout.outputs target.base)) files
    ((target.normalize layout).run files).files :=
  normalizeExport_differIn (h.plain target hmem)

theorem run_changed : layout.Separate targets ((target.normalize layout).run files).files :=
  h.of_changed (h.differIn hmem).onlyFilesChanged

variable (hne : target.base ≠ other.base)

include hother hne

/-- The outputs of two targets are nowhere the same. -/
theorem notMem_placesOf {place : Location}
    (hplace : place ∈ files.placesOf (layout.outputs target.base)) :
    place ∉ files.placesOf (layout.outputs other.base) := by
  obtain ⟨path, hpath, hplace⟩ := hplace
  refine FileSystem.notMem_placesOf (fun output houtput => ?_) hplace
  exact (h.plain target hmem).apart_of_base_ne (h.plain other hother) (h.slash target hmem)
    (h.slash other hother) hne hpath houtput

/-- **A run for another target beforehand** does not change how a run ends; what is left differs
at the outputs of that other target only. -/
theorem run_after : Job.Alike (other.normalize layout) files
    ((target.normalize layout).run files).files fun _ =>
      DifferIn (files.placesOf (layout.outputs target.base)) := by
  have hdiffer := h.differIn hmem
  rcases (files.placesOf (layout.outputs target.base)).eq_empty_or_nonempty with
    hempty | ⟨place, path, hpath, hplace⟩
  · rw [hempty] at hdiffer
    rw [← hdiffer.eq_of_empty]
    exact Job.alike_self fun _ _ => .refl _ _
  · have hunread : layout.Unread other.base other.shape
        (files.placesOf (layout.outputs target.base)) files :=
      { script := fun place hplace hread => FileSystem.notMem_placesOf
          (h.script target hmem) hread hplace
        geometry := fun place hplace hread => FileSystem.notMem_placesOf
          (h.geometry target hmem other hother) hread hplace
        made := fun place hplace hown =>
          absurd hown (h.notMem_placesOf hmem hother hne hplace)
        reaches := fun output houtput => Layout.outputs_reach_of_slash_notMem
          (h.slash target hmem) (h.slash other hother) hpath houtput
          (FileSystem.reaches_of_place? hplace) }
    exact (normalizeExport_alike hdiffer hunread (Or.inr (h.plain other hother).interim)).mono
      fun _ _ _ hleft => hleft.1

/-- **Two runs commute**: they leave the same file system in either order. -/
theorem run_comm :
    ((other.normalize layout).run ((target.normalize layout).run files).files).files =
      ((target.normalize layout).run ((other.normalize layout).run files).files).files := by
  have hfirst := h.run_changed hmem
  have hsecond := h.run_changed hother
  -- what the second run writes after the first, and the first after the second
  have hlast := hfirst.differIn hother
  have hlast' := hsecond.differIn hmem
  rw [(h.differIn hmem).onlyFilesChanged.placesOf_eq] at hlast
  rw [(h.differIn hother).onlyFilesChanged.placesOf_eq] at hlast'
  have hafter := (h.run_after hmem hother hne).left
  have hafter' := (h.run_after hother hmem hne.symm).left
  apply FileSystem.ext_node?
  · exact hafter.workingDirectory.symm.trans hlast'.workingDirectory
  · intro location
    by_cases hplace : location ∈ files.placesOf (layout.outputs target.base)
    · have hnot := h.notMem_placesOf hmem hother hne hplace
      exact (hlast.node?_eq hnot).symm.trans (hafter'.node?_eq hnot)
    · exact (hafter.node?_eq hplace).symm.trans (hlast'.node?_eq hplace)

end Two

end Layout.Separate

/-! ## The whole batch -/

/-- **Each run comes to what it comes to alone.** -/
theorem normalizeBatch_outcomes (h : layout.Separate targets files) :
    (normalizeBatch layout targets files).outcomes =
      targets.map fun target => (target, ((target.normalize layout).run files).outcome) := by
  induction targets generalizing files with
  | nil => rfl
  | cons target rest ih =>
    have hrest := (h.run_changed List.mem_cons_self).tail
    rw [normalizeBatch, List.map_cons, ih hrest]
    -- the later runs start on what the first one left, which they do not notice
    refine congrArg _ (List.map_congr_left fun other hmem => ?_)
    rw [(h.run_after List.mem_cons_self (List.mem_cons_of_mem _ hmem)
      (h.base_ne hmem)).outcome_eq]

/-- **The order of a batch** decides nothing about the file system that is left. -/
theorem normalizeBatch_files {order : List Target} (hperm : order.Perm targets)
    (h : layout.Separate targets files) :
    (normalizeBatch layout order files).files = (normalizeBatch layout targets files).files := by
  induction hperm generalizing files with
  | nil => rfl
  | cons target _ ih => exact ih (h.run_changed List.mem_cons_self).tail
  | swap first second rest =>
    have hcomm := h.run_comm List.mem_cons_self (List.mem_cons_of_mem _ List.mem_cons_self)
      (h.base_ne List.mem_cons_self)
    exact congrArg (fun left => (normalizeBatch layout rest left).files) hcomm.symm
  | trans _ hperm ih ih' => exact (ih (h.perm hperm)).trans (ih' h)

/-- **Order independence.** Separate targets may be worked through in any order: each has the
outcome of a run for it alone, and the file system left is the same. -/
theorem normalizeBatch_perm (h : layout.Separate targets files) {order : List Target}
    (hperm : order.Perm targets) :
    (normalizeBatch layout order files).outcomes =
        order.map (fun target => (target, ((target.normalize layout).run files).outcome)) ∧
      (normalizeBatch layout order files).outcomes.Perm
        (normalizeBatch layout targets files).outcomes ∧
      (normalizeBatch layout order files).files =
        (normalizeBatch layout targets files).files := by
  have houtcomes := normalizeBatch_outcomes (h.perm hperm)
  refine ⟨houtcomes, ?_, normalizeBatch_files hperm h⟩
  rw [houtcomes, normalizeBatch_outcomes h]
  exact hperm.map _

/-- Three targets, two of which have base names that extend each other. -/
def sampleTargets : List Target :=
  [⟨"x".toList, "Cut".toList⟩, ⟨"x.geo".toList, "Cut".toList⟩, ⟨"y".toList, "Hole".toList⟩]

/-- The three sample runs, one of which fails, come to the same in reverse order. -/
theorem normalizeBatch_perm_sample :
    sampleLayout.Separate sampleTargets (sampleExport sampleScript) ∧
      (normalizeBatch sampleLayout sampleTargets.reverse (sampleExport sampleScript)).outcomes =
        sampleTargets.reverse.map (fun target =>
          (target, ((target.normalize sampleLayout).run (sampleExport sampleScript)).outcome)) ∧
      (normalizeBatch sampleLayout sampleTargets.reverse (sampleExport sampleScript)).files =
        (normalizeBatch sampleLayout sampleTargets (sampleExport sampleScript)).files := by
  have h : sampleLayout.Separate sampleTargets (sampleExport sampleScript) := by
    decide +kernel
  obtain ⟨houtcomes, -, hfiles⟩ := normalizeBatch_perm h sampleTargets.reverse_perm
  exact ⟨h, houtcomes, hfiles⟩

/-- The sample export, and a link where the script of one base name is copied to, which leads to
where that of another one goes. -/
def sampleLinkedOutputs : FileSystem :=
  (sampleExport sampleScript).put ["o".toList, "x.geo.copy".toList]
    (.link ["o".toList, "y.geo".toList])

/-- **With a link among the outputs** the order of two runs can matter: the run that comes to the
link later decides what is at its end. -/
theorem normalizeBatch_perm_linked :
    let targets : List Target := [⟨"x".toList, "Cut".toList⟩, ⟨"y".toList, "Cut".toList⟩]
    let files := sampleLinkedOutputs
    (targets.map Target.base).Nodup ∧
    (∀ target ∈ targets, '/' ∉ target.base ∧ ∀ path ∈ sampleLayout.outputs target.base,
      files.Apart sampleLayout.exportedScript path ∧ ∀ other ∈ targets,
        files.Apart (sampleLayout.exportedGeometry other.shape) path) ∧
    (normalizeBatch sampleLayout targets.reverse files).files ≠
      (normalizeBatch sampleLayout targets files).files := by
  intro targets files
  refine ⟨by decide, by decide +kernel, fun heq => ?_⟩
  have hnode := congrArg (·.node? ["o".toList, "y.geo".toList]) heq
  revert hnode
  decide +kernel

end MeshScript
