import MeshScript.Layout
import MeshScript.Proofs.FileSystem.Places
/-!
# MeshScript.Proofs.Layout -- the outputs are different files

The three outputs are one path with three extensions. Whatever the base name is (absolute,
with slashes, empty, a way up), the extension lands in the last name of the path, and the
rest of the way is shared: three entries of one directory (`resolve_append`). So as long as
none of them is a link they are different files (`Layout.PlainOutputs`).

A base name without slashes is a part of that last name. So two such base names have all their
outputs in one directory, and under different names, because the extension can be told
from the last character (`PlainOutputs.apart_of_base_ne`).
-/

namespace MeshScript

namespace Path

/-! ## Paths with an extension -/

theorem isAbsolute_append {suffix : Text} (h : '/' ∉ suffix) (stem : Path) :
    isAbsolute (stem ++ suffix) = isAbsolute stem := by
  cases stem with
  | nil =>
    cases suffix with
    | nil => rfl
    | cons c rest =>
      have hc : c ≠ '/' := fun heq => h (heq ▸ List.mem_cons_self)
      simp [isAbsolute, hc]
  | cons c rest => rfl

theorem hasTrailingSlash_append {suffix : Text} (h : '/' ∉ suffix) (hne : suffix ≠ [])
    (stem : Path) : hasTrailingSlash (stem ++ suffix) = false := by
  have hlast : suffix.getLast hne ≠ '/' := fun heq => h (heq ▸ List.getLast_mem hne)
  rw [hasTrailingSlash, List.getLast?_append, List.getLast?_eq_some_getLast hne]
  simpa using hlast

theorem join_append {suffix : Text} (h : '/' ∉ suffix) (directory name : Path) :
    join directory (name ++ suffix) = join directory name ++ suffix := by
  unfold join
  rw [isAbsolute_append h]
  split
  · rfl
  · split
    · rw [List.append_assoc]
    · rw [List.append_assoc, List.cons_append]

/-- A path with a slash is cut at the last one. -/
theorem exists_eq_append_slash {path : Path} (h : '/' ∈ path) :
    ∃ front last, path = front ++ '/' :: last ∧ '/' ∉ last := by
  obtain ⟨back, front, hsplit, hback⟩ := List.eq_append_cons_of_mem (List.mem_reverse.2 h)
  refine ⟨front.reverse, back.reverse, ?_, by simpa using hback⟩
  rw [← List.reverse_reverse path, hsplit]
  simp

theorem names_append_slash (front back : Path) :
    names (front ++ '/' :: back) = names front ++ names back := by
  rw [names, List.splitOn_append_cons_self, List.filter_append, names, names]

theorem names_of_slash_notMem {name : Text} (hne : name ≠ []) (h : '/' ∉ name) :
    names name = [name] := by
  rw [names, List.splitOn_eq_singleton h]
  simp [hne]

/-- **The extension goes to the last name**, and the names before it do not depend on it. -/
theorem exists_names_append (stem : Path) :
    ∃ front last, ∀ suffix : Text, '/' ∉ suffix → suffix ≠ [] →
      names (stem ++ suffix) = front ++ [last ++ suffix] := by
  have hname : ∀ {last suffix : Text}, '/' ∉ last → '/' ∉ suffix → suffix ≠ [] →
      names (last ++ suffix) = [last ++ suffix] := by
    intro last suffix hlast hext hne
    have hwhole : last ++ suffix ≠ [] := List.append_ne_nil_of_right_ne_nil last hne
    exact names_of_slash_notMem hwhole (by simp [hlast, hext])
  by_cases hslash : '/' ∈ stem
  · obtain ⟨front, last, rfl, hlast⟩ := exists_eq_append_slash hslash
    refine ⟨names front, last, ?_⟩
    intro suffix hext hne
    rw [List.append_assoc, List.cons_append, names_append_slash, hname hlast hext hne]
  · refine ⟨[], stem, ?_⟩
    intro suffix hext hne
    rw [hname hslash hext hne, List.nil_append]

end Path

namespace FileSystem

theorem start_append {files : FileSystem} {suffix : Text} (h : '/' ∉ suffix) (stem : Path) :
    files.start (stem ++ suffix) = files.start stem := by
  rw [start, start, Path.isAbsolute_append h]

/-- **A path with an extension** that resolves names an entry of the directory to which the
names before the last lead. -/
theorem resolve_append {files : FileSystem} {stem : Path} {front : List Text} {last suffix : Text}
    {spot : Spot} (hslash : '/' ∉ suffix) (hlong : 2 < suffix.length)
    (hnames : Path.names (stem ++ suffix) = front ++ [last ++ suffix])
    (h : files.resolve (stem ++ suffix) = .ok spot) :
    ∃ here, front.foldlM files.enter (files.start stem) = .ok here ∧
      spot = .entry (here ++ [last ++ suffix]) false := by
  have hne : suffix ≠ [] := by rintro rfl; simp at hlong
  have hname : ∀ here slash, files.lastName here (last ++ suffix) slash = .ok spot →
      spot = .entry (here ++ [last ++ suffix]) slash := by
    intro here slash hlast
    -- `.` and `..` are too short to be the last name with its extension
    have hdots : ∀ dots : Text, dots.length ≤ 2 → last ++ suffix ≠ dots := by
      intro dots hdots heq
      have hlength := congrArg List.length heq
      rw [List.length_append] at hlength
      omega
    unfold lastName at hlast
    rw [if_neg (hdots _ (by simp)), if_neg (hdots _ (by simp))] at hlast
    split at hlast
    · cases hlast
    · exact (Except.ok.inj hlast).symm
  rw [resolve_ok_iff, hnames, start_append hslash, Path.hasTrailingSlash_append hslash hne,
    List.getLast?_concat, List.dropLast_concat] at h
  rcases h.2 with ⟨hno, -⟩ | ⟨_, here, hsome, hhere, hlast⟩
  · cases hno
  · obtain rfl := Option.some.inj hsome
    exact ⟨here, hhere, hname here false hlast⟩

/-- Two extensions of one path are different entries, so they lead to different places. -/
theorem apart_append {files : FileSystem} {stem : Path} {suffix other : Text}
    (hslash : '/' ∉ suffix) (hlong : 2 < suffix.length) (hslash' : '/' ∉ other)
    (hlong' : 2 < other.length) (hplain : files.IsPlainAt (stem ++ suffix))
    (hplain' : files.IsPlainAt (stem ++ other)) (hne : suffix ≠ other) :
    files.Apart (stem ++ suffix) (stem ++ other) := by
  intro place hplace hplace'
  obtain ⟨front, last, hnames⟩ := Path.exists_names_append stem
  have hnonempty : ∀ {suffix : Text}, 2 < suffix.length → suffix ≠ [] := by
    rintro _ hlong rfl
    simp at hlong
  obtain ⟨here, hhere, hspot⟩ := resolve_append hslash hlong
    (hnames suffix hslash (hnonempty hlong)) (hplain.place?_eq_some_iff.1 hplace)
  obtain ⟨here', hhere', hspot'⟩ := resolve_append hslash' hlong'
    (hnames other hslash' (hnonempty hlong')) (hplain'.place?_eq_some_iff.1 hplace')
  -- both paths go the same way to the last name, so only that could tell them apart
  obtain rfl : here = here' := Except.ok.inj (hhere.symm.trans hhere')
  injection hspot with hspot
  injection hspot' with hspot'
  rw [hspot] at hspot'
  have hlast := (List.append_inj' hspot' rfl).2
  exact hne (List.append_cancel_left (List.singleton_inj.1 hlast))

/-- Paths with different extensions end in one directory, which is reached or not. -/
theorem Reaches.append {files : FileSystem} {stem : Path} {suffix other : Text}
    (h : files.Reaches (stem ++ suffix)) (hslash : '/' ∉ suffix) (hne : suffix ≠ [])
    (hslash' : '/' ∉ other) (hne' : other ≠ []) : files.Reaches (stem ++ other) := by
  obtain ⟨front, last, hnames⟩ := Path.exists_names_append stem
  obtain ⟨here, hhere⟩ := h
  refine ⟨here, ?_⟩
  rw [hnames suffix hslash hne, List.dropLast_concat, start_append hslash] at hhere
  rwa [hnames other hslash' hne', List.dropLast_concat, start_append hslash']

end FileSystem

/-! ## The outputs -/

namespace Layout

/-- **The outputs** for a base name: what a run may write. -/
def outputs (layout : Layout) (base : Text) : List Path :=
  [layout.finalScript base, layout.interimScript base, layout.finalGeometry base]

/-- What the outputs add to the base name. -/
def extensions : List Text :=
  [".geo".toList, ".geo.copy".toList, ".brep".toList]

theorem outputs_eq (layout : Layout) (base : Text) :
    layout.outputs base = extensions.map fun extension =>
      layout.outputDir.join (base ++ extension) := rfl

theorem slash_notMem_extension {extension : Text} (hmem : extension ∈ extensions) :
    '/' ∉ extension := by
  revert extension
  decide

theorem two_lt_length_extension {extension : Text} (hmem : extension ∈ extensions) :
    2 < extension.length := by
  revert extension
  decide

theorem extension_ne_nil {extension : Text} (hmem : extension ∈ extensions) : extension ≠ [] :=
  List.ne_nil_of_length_pos (by have := two_lt_length_extension hmem; omega)

/-- An extension is told by its last character, so it can be taken off again. -/
theorem base_inj {base other extension extension' : Text} (hmem : extension ∈ extensions)
    (hmem' : extension' ∈ extensions) (heq : base ++ extension = other ++ extension') :
    base = other := by
  have htold : ∀ e ∈ extensions, ∀ e' ∈ extensions, e.getLast? = e'.getLast? → e = e' := by
    decide
  have hlast : ∀ {name e : Text}, e ∈ extensions → (name ++ e).getLast? = e.getLast? := by
    intro name e he
    rw [List.getLast?_append, List.getLast?_eq_some_getLast (extension_ne_nil he), Option.some_or]
  obtain rfl := htold _ hmem _ hmem' (by rw [← hlast hmem, heq, hlast hmem'])
  exact List.append_cancel_right heq

/-- A base name without slashes goes to the last name, together with the extension. -/
theorem mem_outputs_iff {layout : Layout} {base : Text} (hslash : '/' ∉ base) {path : Path} :
    path ∈ layout.outputs base ↔
      ∃ extension ∈ extensions, path = layout.outputDir.join [] ++ (base ++ extension) := by
  rw [outputs_eq, List.mem_map]
  refine exists_congr fun extension => and_congr_right fun hmem => ?_
  have hname : '/' ∉ base ++ extension := by simp [hslash, slash_notMem_extension hmem]
  rw [← Path.join_append hname, List.nil_append, eq_comm]

/-- So the outputs of two such base names end in one directory as well. -/
theorem outputs_reach_of_slash_notMem {layout : Layout} {base base' : Text} {files : FileSystem}
    {path other : Path} (hslash : '/' ∉ base) (hslash' : '/' ∉ base')
    (hmem : path ∈ layout.outputs base) (hmem' : other ∈ layout.outputs base')
    (h : files.Reaches path) : files.Reaches other := by
  obtain ⟨extension, hext, rfl⟩ := (mem_outputs_iff hslash).1 hmem
  obtain ⟨extension', hext', rfl⟩ := (mem_outputs_iff hslash').1 hmem'
  apply h.append
  · simp [hslash, slash_notMem_extension hext]
  · simp [extension_ne_nil hext]
  · simp [hslash', slash_notMem_extension hext']
  · simp [extension_ne_nil hext']

/-- **Plain outputs**: none of them is a link or a device. -/
structure PlainOutputs (layout : Layout) (base : Text) (files : FileSystem) : Prop where
  script : files.IsPlainAt (layout.finalScript base)
  interim : files.IsPlainAt (layout.interimScript base)
  geometry : files.IsPlainAt (layout.finalGeometry base)

/-- **Different files**: the two artifacts and the three outputs. -/
def AllApart (layout : Layout) (base shape : Text) (files : FileSystem) : Prop :=
  (layout.exportedScript :: layout.exportedGeometry shape :: layout.outputs base).Pairwise
    files.Apart

/-- Where there are no links and no devices at all, every output is plain. -/
theorem PlainOutputs.of_all_plain {files : FileSystem}
    (hplain : ∀ location node, files.node? location = some node → node.isPlain = true)
    (layout : Layout) (base : Text) : layout.PlainOutputs base files := by
  have hat : ∀ path, files.IsPlainAt path := fun path location slash _ => by
    rw [Option.all_eq_true]
    exact fun node hnode => hplain location node hnode
  exact ⟨hat _, hat _, hat _⟩

instance (layout : Layout) (base : Text) (files : FileSystem) :
    Decidable (layout.PlainOutputs base files) :=
  decidable_of_iff (∀ path ∈ layout.outputs base, files.IsPlainAt path)
    ⟨fun h => ⟨h _ (by simp [outputs]), h _ (by simp [outputs]), h _ (by simp [outputs])⟩,
      fun h => by simp [outputs, h.script, h.interim, h.geometry]⟩

instance (layout : Layout) (base shape : Text) (files : FileSystem) :
    Decidable (layout.AllApart base shape files) :=
  inferInstanceAs (Decidable (List.Pairwise _ _))

namespace PlainOutputs

variable {layout : Layout} {base : Text} {files : FileSystem}

theorem apart_of_ne {suffix other : Text} (hslash : '/' ∉ suffix) (hlong : 2 < suffix.length)
    (hslash' : '/' ∉ other) (hlong' : 2 < other.length)
    (hplain : files.IsPlainAt (layout.outputDir.join (base ++ suffix)))
    (hplain' : files.IsPlainAt (layout.outputDir.join (base ++ other))) (hne : suffix ≠ other) :
    files.Apart (layout.outputDir.join (base ++ suffix))
      (layout.outputDir.join (base ++ other)) := by
  rw [Path.join_append hslash] at hplain ⊢
  rw [Path.join_append hslash'] at hplain' ⊢
  exact FileSystem.apart_append hslash hlong hslash' hlong' hplain hplain' hne

theorem isPlainAt (h : layout.PlainOutputs base files) {path : Path}
    (hmem : path ∈ layout.outputs base) : files.IsPlainAt path := by
  simp only [outputs, List.mem_cons, List.not_mem_nil, or_false] at hmem
  rcases hmem with rfl | rfl | rfl
  · exact h.script
  · exact h.interim
  · exact h.geometry

theorem of_changed {after : FileSystem} (h : layout.PlainOutputs base files)
    (hchange : FileSystem.OnlyFilesChanged files after) : layout.PlainOutputs base after :=
  ⟨hchange.isPlainAt h.script, hchange.isPlainAt h.interim, hchange.isPlainAt h.geometry⟩

/-- **Different base names have different outputs**, also `x` and `x.geo`. -/
theorem apart_of_base_ne {other : Text} (h : layout.PlainOutputs base files)
    (h' : layout.PlainOutputs other files) (hslash : '/' ∉ base) (hslash' : '/' ∉ other)
    (hne : base ≠ other) {path path' : Path} (hmem : path ∈ layout.outputs base)
    (hmem' : path' ∈ layout.outputs other) : files.Apart path path' := by
  have hplain := h.isPlainAt hmem
  have hplain' := h'.isPlainAt hmem'
  obtain ⟨extension, hext, rfl⟩ := (mem_outputs_iff hslash).1 hmem
  obtain ⟨extension', hext', rfl⟩ := (mem_outputs_iff hslash').1 hmem'
  have hlong := two_lt_length_extension hext
  have hlong' := two_lt_length_extension hext'
  apply FileSystem.apart_append _ _ _ _ hplain hplain'
  · exact fun heq => hne (base_inj hext hext' heq)
  · simp [hslash, slash_notMem_extension hext]
  · rw [List.length_append]
    omega
  · simp [hslash', slash_notMem_extension hext']
  · rw [List.length_append]
    omega

/-- **Plain outputs are different files**, for every base name. -/
theorem script_apart_interim (h : layout.PlainOutputs base files) :
    files.Apart (layout.finalScript base) (layout.interimScript base) :=
  apart_of_ne (by decide) (by decide) (by decide) (by decide) h.script h.interim (by decide)

theorem script_apart_geometry (h : layout.PlainOutputs base files) :
    files.Apart (layout.finalScript base) (layout.finalGeometry base) :=
  apart_of_ne (by decide) (by decide) (by decide) (by decide) h.script h.geometry (by decide)

theorem interim_apart_geometry (h : layout.PlainOutputs base files) :
    files.Apart (layout.interimScript base) (layout.finalGeometry base) :=
  apart_of_ne (by decide) (by decide) (by decide) (by decide) h.interim h.geometry (by decide)

end PlainOutputs

namespace AllApart

variable {layout : Layout} {base shape : Text} {files : FileSystem}

theorem artifacts (h : layout.AllApart base shape files) :
    files.Apart layout.exportedScript (layout.exportedGeometry shape) :=
  (List.pairwise_cons.1 h).1 _ List.mem_cons_self

theorem script (h : layout.AllApart base shape files) {path : Path}
    (hmem : path ∈ layout.outputs base) : files.Apart layout.exportedScript path :=
  (List.pairwise_cons.1 h).1 path (List.mem_cons_of_mem _ hmem)

theorem geometry (h : layout.AllApart base shape files) {path : Path}
    (hmem : path ∈ layout.outputs base) : files.Apart (layout.exportedGeometry shape) path :=
  (List.pairwise_cons.1 (List.pairwise_cons.1 h).2).1 path hmem

end AllApart

end Layout

end MeshScript
