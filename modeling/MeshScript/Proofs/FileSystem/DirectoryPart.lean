import MeshScript.Proofs.Layout
import Mathlib.Data.List.Basic
import Mathlib.Data.List.TakeWhile
/-!
# MeshScript.Proofs.FileSystem.DirectoryPart -- the directory part of a path

A path with a slash is a directory part and a name behind the last slash. A relative name is put
behind a directory, so the directory part of what comes out is that directory if the name has no
slash (`Path.join_of_relative`, `Path.parent_append`). Such a path resolves to the
entry with that name in the directory that its directory part leads to
(`FileSystem.resolve_append_slash_iff`).
-/

namespace MeshScript

namespace Path

/-- **The directory part** of a path: all of it up to its last slash. -/
def parent (path : Path) : Path :=
  (path.reverse.dropWhile (· != '/')).reverse

theorem parent_append_slash {last : Text} (h : '/' ∉ last) (front : Path) :
    parent (front ++ '/' :: last) = front ++ ['/'] := by
  have hlast : ∀ c ∈ last.reverse, (c != '/') = true := by
    intro c hc
    rw [bne_iff_ne]
    rintro rfl
    exact h (List.mem_reverse.1 hc)
  rw [parent, List.reverse_append, List.reverse_cons, List.append_assoc,
    List.dropWhile_append_of_pos hlast]
  simp

theorem parent_of_slash_notMem {path : Path} (h : '/' ∉ path) : parent path = [] := by
  rw [parent, List.dropWhile_eq_nil_iff.2, List.reverse_nil]
  intro c hc
  rw [bne_iff_ne]
  rintro rfl
  exact h (List.mem_reverse.1 hc)

/-- The way in the directory part is that in front of the last slash. -/
theorem names_parent {last : Text} (h : '/' ∉ last) (front : Path) :
    names (parent (front ++ '/' :: last)) = names front := by
  rw [parent_append_slash h, names_append_slash]
  exact List.append_nil _

theorem join_of_absolute {name : Path} (h : isAbsolute name = true) (directory : Path) :
    join directory name = name :=
  if_pos h

/-- **A relative name is put behind the directory**, with a slash between the two. -/
theorem join_of_relative {name : Path} (h : isAbsolute name = false) (directory : Path) :
    join directory name = join directory [] ++ name := by
  unfold join
  rw [h, if_neg Bool.false_ne_true, if_neg (show ¬ isAbsolute [] = true by decide)]
  split
  · rw [List.append_nil]
  · rw [List.append_assoc]
    rfl

/-- What is joined to a directory with a slash at its end, or to none, is put behind it. -/
theorem join_of_hasTrailingSlash {directory name : Path}
    (hdirectory : directory = [] ∨ hasTrailingSlash directory = true)
    (h : isAbsolute name = false) : join directory name = directory ++ name := by
  unfold join
  rw [h, if_neg Bool.false_ne_true, if_pos]
  rcases hdirectory with rfl | hslash
  · rfl
  · rw [hslash, Bool.or_true]

theorem join_nil_cases (directory : Path) :
    join directory [] = [] ∨ hasTrailingSlash (join directory []) = true := by
  unfold join
  rw [if_neg (show ¬ isAbsolute [] = true by decide)]
  split
  · rename_i h
    rcases Bool.or_eq_true_iff.1 h with hempty | hslash
    · exact .inl (by simpa using hempty)
    · exact .inr (by simpa using hslash)
  · exact .inr (by simp [hasTrailingSlash])

/-- A name without slashes is put behind its directory part. -/
theorem parent_append {directory name : Path}
    (hdirectory : directory = [] ∨ hasTrailingSlash directory = true) (h : '/' ∉ name) :
    parent (directory ++ name) = directory := by
  rcases hdirectory with rfl | hslash
  · exact parent_of_slash_notMem h
  · have hlast : directory.getLast? = some '/' := by simpa [hasTrailingSlash] using hslash
    rw [← List.dropLast_append_getLast? _ hlast, List.append_assoc]
    exact parent_append_slash h _

theorem isAbsolute_append_of_ne_nil {path : Path} (h : path ≠ []) (rest : Path) :
    isAbsolute (path ++ rest) = isAbsolute path := by
  cases path with
  | nil => exact absurd rfl h
  | cons c path => rfl

end Path

namespace FileSystem

theorem start_append_of_ne_nil (files : FileSystem) {path : Path} (h : path ≠ []) (rest : Path) :
    files.start (path ++ rest) = files.start path := by
  rw [start, start, Path.isAbsolute_append_of_ne_nil h]

/-- **A path to a name in a directory** resolves to the entry with that name. -/
theorem resolve_append_slash_iff {files : FileSystem} {front : Path} {name : Text} {spot : Spot}
    (hslash : '/' ∉ name) (hlong : 2 < name.length) :
    files.resolve (front ++ '/' :: name) = .ok spot ↔
      ('\x00' ∉ front ++ '/' :: name ∧ Text.byteLength (front ++ '/' :: name) < pathLimit) ∧
        ∃ here, (Path.names front).foldlM files.enter (files.start (front ++ '/' :: name)) =
            .ok here ∧
          files.exceedsLimit here name = false ∧ spot = .entry (here ++ [name]) false := by
  have hne : name ≠ [] := by rintro rfl; simp at hlong
  have hnames : Path.names (front ++ '/' :: name) = Path.names front ++ [name] := by
    rw [Path.names_append_slash, Path.names_of_slash_notMem hne hslash]
  have htrailing : Path.hasTrailingSlash (front ++ '/' :: name) = false := by
    rw [← List.singleton_append, ← List.append_assoc]
    exact Path.hasTrailingSlash_append hslash hne _
  have hlast : ∀ here, files.lastName here name false = .ok spot ↔
      files.exceedsLimit here name = false ∧ spot = .entry (here ++ [name]) false := by
    intro here
    -- `.` and `..` are shorter
    have hdot : name ≠ ['.'] := by rintro rfl; simp at hlong
    have hup : name ≠ ['.', '.'] := by rintro rfl; simp at hlong
    rw [lastName, if_neg hdot, if_neg hup]
    cases files.exceedsLimit here name <;> simp [eq_comm]
  rw [resolve_ok_iff, hnames, htrailing, List.getLast?_concat, List.dropLast_concat]
  constructor
  · rintro ⟨⟨hnul, -, hshort⟩, ⟨hno, -⟩ | ⟨_, here, hsome, hhere, hspot⟩⟩
    · cases hno
    · cases hsome
      exact ⟨⟨hnul, hshort⟩, here, hhere, (hlast here).1 hspot⟩
  · rintro ⟨⟨hnul, hshort⟩, here, hhere, hspot⟩
    exact ⟨⟨hnul, by simp, hshort⟩, .inr ⟨name, here, rfl, hhere, (hlast here).2 hspot⟩⟩

end FileSystem

end MeshScript
