import MeshScript.Text.Lines
import MeshScript.Proofs.FileSystem.Differences
/-!
# MeshScript.Proofs.FileSystem.SameLines -- two file systems with the same lines in their files

`FileSystem.SameLines files others` says that the two hold the same at every location, except
that a file in one may differ from the file in the other in how its lines end. Whatever looks
at names and kinds of nodes does not see that: a path leads to the same spot in both or
fails for the same cause (`SameLines.resolve_eq`), and so an artifact is found in both or
in neither, and a location can be read or written in both or in neither. What is read as text has
the same lines (`SameLines.readLines_eq`), and copying, writing and removing keep the relation
(`SameLines.copy_matched`, `SameLines.write_matched`, `SameLines.remove_matched`).
-/

namespace MeshScript.FileSystem

/-- The lines of the text with these bytes, if they are valid UTF-8. -/
def linesOf? (bytes : ByteArray) : Option (List Text) :=
  (Text.decode? bytes).map Text.lines

/-- **What two locations hold is the same**, or files that have the same lines. -/
inductive HoldSameLines : Option Node → Option Node → Prop
  | same (held : Option Node) : HoldSameLines held held
  | files {bytes bytes' : ByteArray} (h : linesOf? bytes = linesOf? bytes') :
      HoldSameLines (some (.file bytes)) (some (.file bytes'))

/-- **The same lines**: the two differ in how the lines of their files end at most. -/
structure SameLines (files others : FileSystem) : Prop where
  workingDirectory : files.workingDirectory = others.workingDirectory
  node? : ∀ location, HoldSameLines (files.node? location) (others.node? location)

/-- The lines that are read by a path are those of the bytes at its place. -/
theorem map_lines_readText (files : FileSystem) (path : Path) :
    (files.readText path).map Text.lines = (do
      let place ← files.locateSource path
      (linesOf? (files.bytesAt place)).elim (.error .invalidEncoding) .ok) := by
  cases hsource : files.locateSource path with
  | error cause =>
    have hread : files.read path = .error cause := by
      rw [read, hsource]
      rfl
    rw [readText, hread]
    rfl
  | ok place =>
    have hread : files.read path = .ok (files.bytesAt place) := by
      rw [read, hsource]
      rfl
    rw [readText, hread]
    dsimp only [bind, Except.bind, linesOf?]
    cases Text.decode? (files.bytesAt place) <;> rfl

namespace HoldSameLines

variable {held held' : Option Node}

theorem isNone_eq (h : HoldSameLines held held') : held.isNone = held'.isNone := by
  cases h <;> rfl

/-- Only files can differ, and a file is nothing that leads on. -/
theorem filter_leadsOn_eq (h : HoldSameLines held held') :
    held.filter Node.leadsOn = held'.filter Node.leadsOn := by
  cases h <;> rfl

theorem eq_device_iff (h : HoldSameLines held held') :
    held = some .device ↔ held' = some .device := by
  cases h <;> simp

end HoldSameLines

namespace SameLines

variable {files others : FileSystem}

/-- A file put there with the same lines is no difference. -/
theorem put_right {place : Location} {bytes bytes' : ByteArray}
    (hfile : files.node? place = some (.file bytes)) (hlines : linesOf? bytes = linesOf? bytes') :
    SameLines files (files.put place (.file bytes')) := by
  refine ⟨rfl, fun location => ?_⟩
  rw [node?_put]
  split
  · rename_i heq
    rw [heq, hfile]
    exact .files hlines
  · exact .same _

/-! ## Following paths -/

section Paths

variable (h : SameLines files others)

include h

theorem toSameTree : SameTree files others :=
  ⟨h.workingDirectory, fun location => (h.node? location).filter_leadsOn_eq⟩

theorem isNone_eq (location : Location) :
    (files.node? location).isNone = (others.node? location).isNone :=
  (h.node? location).isNone_eq

/-- A name is entered in both, or is not for the same cause. -/
theorem enter_eq : files.enter = others.enter := by
  funext here name
  rw [enter, enter, h.toSameTree.exceedsLimit_eq, h.toSameTree.follow_eq]
  simp only [h.toSameTree.isDirectory_eq, h.isNone_eq]

/-- **A path resolves alike**, errors included. -/
theorem resolve_eq (path : Path) : files.resolve path = others.resolve path := by
  unfold resolve
  simp only [h.workingDirectory, h.enter_eq, h.toSameTree.lastName_eq]

theorem holdsFile_eq (location : Location) :
    files.holdsFile location = others.holdsFile location := by
  have hheld := h.node? location
  unfold holdsFile
  revert hheld
  generalize files.node? location = held
  generalize others.node? location = held'
  rintro (_ | _) <;> rfl

theorem isFile_eq (path : Path) : files.isFile path = others.isFile path := by
  unfold isFile
  simp only [h.resolve_eq, h.toSameTree.follow_eq, h.holdsFile_eq]

theorem expectEntry_eq (location : Location) (slash : Bool) :
    files.expectEntry location slash = others.expectEntry location slash := by
  rw [expectEntry, expectEntry, h.toSameTree.isDirectory_eq, h.isNone_eq]

theorem locateSource_eq (path : Path) : files.locateSource path = others.locateSource path := by
  unfold locateSource
  simp only [h.resolve_eq, h.toSameTree.follow_eq, h.expectEntry_eq]

theorem expectTarget_eq (location : Location) :
    files.expectTarget location = others.expectTarget location := by
  have hgenerated : files.node? location.dropLast = some .generated ↔
      others.node? location.dropLast = some .generated :=
    h.toSameTree.node?_eq_some_iff _ rfl
  simp only [expectTarget, h.toSameTree.isDirectory_eq, h.isNone_eq, hgenerated]

theorem locateTarget_eq (path : Path) : files.locateTarget path = others.locateTarget path := by
  unfold locateTarget
  simp only [h.resolve_eq, h.toSameTree.follow_eq, h.expectTarget_eq]

/-! ## Reading -/

theorem linesOf?_bytesAt (location : Location) :
    linesOf? (files.bytesAt location) = linesOf? (others.bytesAt location) := by
  have hheld := h.node? location
  unfold bytesAt
  revert hheld
  generalize files.node? location = held
  generalize others.node? location = held'
  rintro (_ | hlines)
  · rfl
  · exact hlines

/-- **What is read as text has the same lines**, or cannot be read for the same cause. -/
theorem readLines_eq (path : Path) :
    (files.readText path).map Text.lines = (others.readText path).map Text.lines := by
  rw [map_lines_readText, map_lines_readText, h.locateSource_eq]
  simp only [h.linesOf?_bytesAt]

/-- A text is read in both, or in neither for one cause. -/
theorem readText_cases (path : Path) :
    (∃ cause, files.readText path = .error cause ∧ others.readText path = .error cause) ∨
      ∃ source source', files.readText path = .ok source ∧
        others.readText path = .ok source' ∧ source.lines = source'.lines := by
  have hlines := h.readLines_eq path
  cases hfiles : files.readText path <;> cases hothers : others.readText path <;>
    rw [hfiles, hothers] at hlines
  case error.error cause cause' =>
    cases hlines
    exact .inl ⟨cause, rfl, rfl⟩
  case ok.ok source source' => exact .inr ⟨source, source', rfl, rfl, Except.ok.inj hlines⟩
  case error.ok => cases hlines
  case ok.error => cases hlines

/-! ## Writing -/

/-- Storing what has the same lines keeps the lines the same. -/
theorem store (place : Location) {bytes bytes' : ByteArray}
    (hlines : linesOf? bytes = linesOf? bytes') :
    SameLines (files.store place bytes) (others.store place bytes') := by
  refine ⟨?_, fun location => ?_⟩
  · rw [workingDirectory_store, workingDirectory_store, h.workingDirectory]
  · -- a device is there in both or in neither
    rw [node?_store, node?_store]
    simp only [ne_eq, (h.node? place).eq_device_iff]
    split
    · exact .files hlines
    · exact h.node? location

/-- Storing the same bytes leaves the two the same there. -/
theorem node?_store_eq (place : Location) (bytes : ByteArray) :
    (files.store place bytes).node? place = (others.store place bytes).node? place := by
  rw [node?_store, node?_store]
  simp only [ne_eq, (h.node? place).eq_device_iff, true_and]
  split
  · rfl
  · rename_i hdevice
    have hothers := not_not.1 hdevice
    rw [(h.node? place).eq_device_iff.2 hothers, hothers]

theorem erase (place : Location) : SameLines (files.erase place) (others.erase place) := by
  refine ⟨h.workingDirectory, fun location => ?_⟩
  rw [node?_erase, node?_erase]
  split
  · exact .same _
  · exact h.node? location

/-- **Copying** succeeds in both or in neither, and changes files only. -/
theorem copy_matched (source target : Path) :
    Matched (fun files' others' => SameLines files' others' ∧ OnlyFilesChanged files files')
      (files.copy source target) (others.copy source target) := by
  rw [copy, copy, ← h.locateSource_eq, ← h.locateTarget_eq]
  apply Matched.bind
  intro origin _
  apply Matched.bind
  intro destination hdestination
  have hopened : SameLines (files.store destination .empty) (others.store destination .empty) :=
    h.store destination rfl
  refine .ok ⟨hopened.store destination (hopened.linesOf?_bytesAt origin), ?_⟩
  rw [store_store]
  exact onlyFilesChanged_store hdestination _

/-- **Writing** succeeds in both or in neither. What is written is the same in both, and so
is what was the same before. -/
theorem write_matched (path : Path) (bytes : ByteArray) :
    Matched (fun files' others' => SameLines files' others' ∧ ∀ place,
        files.place? path = some place ∨ files.node? place = others.node? place →
          files'.node? place = others'.node? place)
      (files.write path bytes) (others.write path bytes) := by
  rw [write, write, ← h.locateTarget_eq]
  apply Matched.bind
  intro target htarget
  refine .ok ⟨h.store target rfl, fun place hplace => ?_⟩
  by_cases heq : place = target
  · rw [heq]
    exact h.node?_store_eq target bytes
  · have hfound : files.place? path ≠ some place := fun hfound =>
      heq (Option.some.inj (hfound.symm.trans (locateTarget_eq_ok_iff.1 htarget).1))
    rw [node?_store, node?_store, if_neg fun hstored => heq hstored.1,
      if_neg fun hstored => heq hstored.1]
    exact hplace.resolve_left hfound

/-- **Removing** succeeds in both or in neither, and where the two were the same they stay so. -/
theorem remove_matched (path : Path) :
    Matched (fun files' others' => SameLines files' others' ∧ ∀ place,
        files.node? place = others.node? place → files'.node? place = others'.node? place)
      (files.remove path) (others.remove path) := by
  rw [remove, remove, h.resolve_eq]
  apply Matched.bind
  rintro (location | ⟨location, slash⟩) _
  · exact .error _
  · show Matched _ (files.expectEntry location slash >>= _)
      (others.expectEntry location slash >>= _)
    rw [h.expectEntry_eq]
    apply Matched.bind
    intro found _
    refine .ok ⟨h.erase found, fun place hsame => ?_⟩
    rw [node?_erase, node?_erase, hsame]

end Paths

end SameLines

end MeshScript.FileSystem
