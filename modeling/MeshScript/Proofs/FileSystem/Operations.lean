import MeshScript.Proofs.FileSystem.Places
/-!
# MeshScript.Proofs.FileSystem.Operations -- what the file operations do at a place

One lemma an operation, stated about the place of its path and about `put` and `erase`.
An operation that succeeds is inverted (`copy_eq_ok`, `write_eq_ok`, `remove_eq_ok`); at a
place with a file, reading, writing and removing succeed (`readText_of_file`, `write_of_file`,
`remove_of_file`). Later proofs open no operation, except where two file systems are compared.
-/

namespace MeshScript.FileSystem

variable {files : FileSystem} {path : Path} {place : Location}

/-! ## Nodes -/

theorem CanHoldFile.node?_ne_device (h : files.CanHoldFile place) :
    files.node? place ≠ some .device := by
  intro hnode
  obtain ⟨bytes, hbytes⟩ := h.file _ hnode
  cases hbytes

theorem store_eq_put (h : files.CanHoldFile place) (bytes : ByteArray) :
    files.store place bytes = files.put place (.file bytes) := by
  rw [store, if_neg h.node?_ne_device]

theorem workingDirectory_store (files : FileSystem) (place : Location) (bytes : ByteArray) :
    (files.store place bytes).workingDirectory = files.workingDirectory := by
  unfold store
  split <;> rfl

theorem store_store (files : FileSystem) (place : Location) (first second : ByteArray) :
    (files.store place first).store place second = files.store place second := by
  apply ext_node?
  · simp only [workingDirectory_store]
  · intro location
    simp only [node?_store]
    by_cases hplace : location = place
    · by_cases hdevice : files.node? place = some .device <;> simp [hplace, hdevice]
    · simp [hplace]

theorem isDirectory_of_file {bytes : ByteArray} (hroot : place ≠ [])
    (hfile : files.node? place = some (.file bytes)) : files.isDirectory place = false := by
  simp [isDirectory, hroot, hfile, Node.isDirectory]

theorem put_put (files : FileSystem) (place : Location) (node other : Node) :
    (files.put place node).put place other = files.put place other := by
  apply ext_node?
  · rfl
  · intro location
    simp only [node?_put]
    split <;> rfl

theorem bytesAt_of_file {bytes : ByteArray} (h : files.node? place = some (.file bytes)) :
    files.bytesAt place = bytes := by
  rw [bytesAt, h]

theorem bytesAt_put (files : FileSystem) (place other : Location) (bytes : ByteArray) :
    (files.put place (.file bytes)).bytesAt other =
      if other = place then bytes else files.bytesAt other := by
  unfold bytesAt
  rw [node?_put]
  by_cases h : other = place <;> simp [h]

/-- The bytes at the place of the path; none if it leads to no place. -/
def bytesOf (files : FileSystem) (path : Path) : ByteArray :=
  match files.place? path with
  | some place => files.bytesAt place
  | none => .empty

/-- **What a copy holds**: the bytes of its source, and nothing if it is its source. -/
def copied (files : FileSystem) (source target : Path) : ByteArray :=
  if files.place? source = files.place? target then .empty else files.bytesOf source

theorem bytesOf_eq (hplace : files.place? path = some place) :
    files.bytesOf path = files.bytesAt place := by
  rw [bytesOf, hplace]

theorem copied_of_apart {source target : Path} (h : files.Apart source target) :
    files.copied source target = files.bytesOf source := by
  cases hplace : files.place? source with
  | none =>
    rw [copied, bytesOf, hplace]
    split <;> rfl
  | some place =>
    have hne : some place ≠ files.place? target := fun heq => h place hplace heq.symm
    rw [copied, hplace, if_neg hne]

/-! ## Finding the place -/

theorem expectEntry_eq_ok_iff {location : Location} {slash : Bool} :
    files.expectEntry location slash = .ok place ↔
      location = place ∧ slash = false ∧ files.isDirectory location = false ∧
        (files.node? location).isSome = true := by
  unfold expectEntry
  cases files.isDirectory location <;> cases files.node? location <;> cases slash <;> simp

/-- The place that is read: neither a directory nor nothing is there. -/
theorem locateSource_eq_ok_iff :
    files.locateSource path = .ok place ↔
      files.place? path = some place ∧ files.isDirectory place = false ∧
        (files.node? place).isSome = true := by
  unfold locateSource
  rw [bind_eq_ok_iff, place?_eq_some_iff]
  constructor
  · rintro ⟨spot, hresolve, hspot⟩
    cases spot with
    | directory location => cases hspot
    | entry location slash =>
      obtain ⟨goal, hfollow, hgoal⟩ := bind_eq_ok_iff.1 hspot
      obtain ⟨rfl, rfl, hdirectory, hnode⟩ := expectEntry_eq_ok_iff.1 hgoal
      exact ⟨⟨location, hresolve, hfollow⟩, hdirectory, hnode⟩
  · rintro ⟨⟨location, hresolve, hfollow⟩, hdirectory, hnode⟩
    exact ⟨_, hresolve, bind_eq_ok_iff.2
      ⟨place, hfollow, expectEntry_eq_ok_iff.2 ⟨rfl, rfl, hdirectory, hnode⟩⟩⟩

/-- The path of a source leads to the entry that is looked at. -/
theorem locateSource_of_place? (h : files.place? path = some place) :
    files.locateSource path = files.expectEntry place false := by
  obtain ⟨location, hresolve, hfollow⟩ := place?_eq_some_iff.1 h
  simp only [locateSource, hresolve, bind, Except.bind, hfollow]

/-- The place that is written: no directory is there, and a file can be made if need be. -/
theorem locateTarget_eq_ok_iff :
    files.locateTarget path = .ok place ↔
      files.place? path = some place ∧ files.isDirectory place = false ∧
        ¬ ((files.node? place).isNone = true ∧
          files.node? place.dropLast = some .generated) := by
  have htarget : ∀ goal : Location, files.expectTarget goal = .ok place ↔
      goal = place ∧ files.isDirectory goal = false ∧
        ¬ ((files.node? goal).isNone = true ∧ files.node? goal.dropLast = some .generated) := by
    intro goal
    unfold expectTarget
    split
    · rename_i hdirectory
      simp [hdirectory]
    · rename_i hdirectory
      split
      · rename_i hgenerated
        simp [hgenerated]
      · rename_i hgenerated
        exact ⟨fun h => ⟨Except.ok.inj h, by simpa using hdirectory, hgenerated⟩,
          fun h => congrArg Except.ok h.1⟩
  unfold locateTarget
  rw [bind_eq_ok_iff, place?_eq_some_iff]
  constructor
  · rintro ⟨spot, hresolve, hspot⟩
    cases spot with
    | directory location => cases hspot
    | entry location slash =>
      cases slash with
      | true => cases hspot
      | false =>
        obtain ⟨goal, hfollow, hgoal⟩ := bind_eq_ok_iff.1 hspot
        obtain ⟨rfl, hrest⟩ := (htarget goal).1 hgoal
        exact ⟨⟨location, hresolve, hfollow⟩, hrest⟩
  · rintro ⟨⟨location, hresolve, hfollow⟩, hrest⟩
    exact ⟨_, hresolve, bind_eq_ok_iff.2 ⟨place, hfollow, (htarget place).2 ⟨rfl, hrest⟩⟩⟩

/-- What can be written is a file, a device or nothing, so writing changes files only. -/
theorem onlyFilesChanged_store (h : files.locateTarget path = .ok place) (bytes : ByteArray) :
    OnlyFilesChanged files (files.store place bytes) := by
  obtain ⟨hplace, hdirectory, -⟩ := locateTarget_eq_ok_iff.1 h
  by_cases hdevice : files.node? place = some .device
  · rw [store, if_pos hdevice]
    exact .refl files
  · have hcan := canHoldFile_of_ne hdirectory hdevice (node?_ne_link_of_place? hplace)
    rw [store_eq_put hcan]
    exact .put hcan bytes

theorem isFile_eq_true_iff :
    files.isFile path = true ↔
      ∃ place bytes, files.place? path = some place ∧ files.node? place = some (.file bytes) := by
  have hholds : ∀ goal : Location, files.holdsFile goal = true ↔
      ∃ bytes, files.node? goal = some (.file bytes) := by
    intro goal
    unfold holdsFile
    rcases files.node? goal with _ | (_ | _ | _ | _ | _) <;> simp
  unfold isFile
  simp only [place?_eq_some_iff]
  constructor
  · intro h
    split at h
    · rename_i location hresolve
      cases hfollow : files.follow location with
      | error e => simp [hfollow] at h
      | ok goal =>
        rw [hfollow] at h
        obtain ⟨bytes, hbytes⟩ := (hholds goal).1 h
        exact ⟨goal, bytes, ⟨location, hresolve, hfollow⟩, hbytes⟩
    · cases h
  · rintro ⟨place, bytes, ⟨location, hresolve, hfollow⟩, hbytes⟩
    rw [hresolve]
    simp only [hfollow]
    exact (hholds place).2 ⟨bytes, hbytes⟩

/-- What is read by a path are the bytes at its place. -/
theorem read_eq_ok {bytes : ByteArray} (h : files.read path = .ok bytes) :
    files.bytesOf path = bytes := by
  obtain ⟨place, hsource, hbytes⟩ := bind_eq_ok_iff.1 h
  rw [bytesOf_eq (locateSource_eq_ok_iff.1 hsource).1]
  exact Except.ok.inj hbytes

theorem readText_eq_ok {text : Text} (h : files.readText path = .ok text) :
    Text.decode? (files.bytesOf path) = some text := by
  obtain ⟨bytes, hread, hdecode⟩ := bind_eq_ok_iff.1 h
  rw [read_eq_ok hread]
  split at hdecode
  · rename_i found hfound
    rw [hfound, Except.ok.inj hdecode]
  · cases hdecode

theorem readText_of_read {bytes : ByteArray} {text : Text} (h : files.read path = .ok bytes)
    (hdecode : Text.decode? bytes = some text) : files.readText path = .ok text := by
  refine bind_eq_ok_iff.2 ⟨bytes, h, ?_⟩
  rw [hdecode]
  rfl

/-! ## Operations that succeeded -/

/-- **A copy** writes what can still be read of its source once its target is emptied. -/
theorem copy_eq_ok {source target : Path} {after : FileSystem} (hplain : files.IsPlainAt target)
    (h : files.copy source target = .ok after) :
    ∃ destination, files.place? target = some destination ∧ files.CanHoldFile destination ∧
      after = files.put destination (.file (files.copied source target)) := by
  obtain ⟨origin, horigin, h⟩ := bind_eq_ok_iff.1 h
  obtain ⟨destination, hdestination, h⟩ := bind_eq_ok_iff.1 h
  obtain ⟨hsource, -, -⟩ := locateSource_eq_ok_iff.1 horigin
  obtain ⟨htarget, hdirectory, -⟩ := locateTarget_eq_ok_iff.1 hdestination
  have hcan := hplain.canHoldFile htarget hdirectory
  have hopened := (OnlyFilesChanged.put hcan .empty).canHoldFile hcan
  have hcopied : files.copied source target =
      if origin = destination then .empty else files.bytesAt origin := by
    simp only [copied, bytesOf, hsource, htarget, Option.some.injEq]
  refine ⟨destination, htarget, hcan, ?_⟩
  obtain rfl := Except.ok.inj h
  -- the source is read after the target was emptied
  rw [store_eq_put hcan, store_eq_put hopened, put_put, bytesAt_put, hcopied]

/-- What can be copied can be read. -/
theorem read_of_copy {source target : Path} {after : FileSystem}
    (h : files.copy source target = .ok after) :
    files.read source = .ok (files.bytesOf source) := by
  obtain ⟨origin, horigin, -⟩ := bind_eq_ok_iff.1 h
  rw [read, horigin, bytesOf_eq (locateSource_eq_ok_iff.1 horigin).1]
  rfl

theorem write_eq_ok {bytes : ByteArray} {after : FileSystem} (hplain : files.IsPlainAt path)
    (h : files.write path bytes = .ok after) :
    ∃ place, files.place? path = some place ∧ files.CanHoldFile place ∧
      after = files.put place (.file bytes) := by
  obtain ⟨place, htarget, h⟩ := bind_eq_ok_iff.1 h
  obtain ⟨hplace, hdirectory, -⟩ := locateTarget_eq_ok_iff.1 htarget
  have hcan := hplain.canHoldFile hplace hdirectory
  refine ⟨place, hplace, hcan, ?_⟩
  obtain rfl := Except.ok.inj h
  exact store_eq_put hcan bytes

/-- **Removing** by a path that is no link takes a file away. -/
theorem remove_eq_ok {after : FileSystem} (hplain : files.IsPlainAt path)
    (h : files.remove path = .ok after) :
    ∃ place, files.place? path = some place ∧ files.CanHoldFile place ∧
      after = files.erase place := by
  obtain ⟨spot, hresolve, h⟩ := bind_eq_ok_iff.1 h
  cases spot with
  | directory location => cases h
  | entry location slash =>
    obtain ⟨place, hentry, herase⟩ := bind_eq_ok_iff.1 h
    obtain ⟨rfl, rfl, hdirectory, -⟩ := expectEntry_eq_ok_iff.1 hentry
    have hplace := hplain.place?_eq_some_iff.2 hresolve
    exact ⟨location, hplace, hplain.canHoldFile hplace hdirectory, (Except.ok.inj herase).symm⟩

/-! ## Operations at a file -/

section File

variable {bytes : ByteArray} (hroot : place ≠ [])
  (hfile : files.node? place = some (.file bytes))

include hroot hfile

theorem read_of_file (hplace : files.place? path = some place) : files.read path = .ok bytes := by
  have hsource : files.locateSource path = .ok place :=
    locateSource_eq_ok_iff.2 ⟨hplace, isDirectory_of_file hroot hfile, by rw [hfile]; rfl⟩
  rw [read, hsource]
  exact congrArg Except.ok (bytesAt_of_file hfile)

/-- **Reading text** from a file fails for its encoding only. -/
theorem readText_of_file (hplace : files.place? path = some place) :
    files.readText path =
      match Text.decode? bytes with
      | some text => .ok text
      | none => .error .invalidEncoding := by
  rw [readText, read_of_file hroot hfile hplace]
  rfl

theorem write_of_file (hplace : files.place? path = some place) (new : ByteArray) :
    files.write path new = .ok (files.put place (.file new)) := by
  have htarget : files.locateTarget path = .ok place :=
    locateTarget_eq_ok_iff.2 ⟨hplace, isDirectory_of_file hroot hfile, by simp [hfile]⟩
  have hcan : files.CanHoldFile place :=
    ⟨hroot, fun node hnode => ⟨bytes, Option.some.inj (hnode.symm.trans hfile)⟩⟩
  rw [write, htarget]
  exact congrArg Except.ok (store_eq_put hcan new)

/-- **Removing** the file that a path names itself, through no link. -/
theorem remove_of_file (hresolve : files.resolve path = .ok (.entry place false)) :
    files.remove path = .ok (files.erase place) := by
  have hentry : files.expectEntry place false = .ok place :=
    expectEntry_eq_ok_iff.2 ⟨rfl, rfl, isDirectory_of_file hroot hfile, by rw [hfile]; rfl⟩
  rw [remove, hresolve]
  -- no link is followed, so the entry is looked up at the location itself
  show (files.expectEntry place false >>= fun location => pure (files.erase location)) = _
  rw [hentry]
  rfl

end File

end MeshScript.FileSystem
