import MeshScript.FileSystem.Access
/-!
# MeshScript.Proofs.FileSystem.Places -- the place a path leads to

Where a path leads depends on directories and links only. `FileSystem.SameTree` is the
relation of two file systems that agree on those, and `SameTree.resolve_eq_ok_iff` says that
a path resolves in both or in neither, to the same spot.

Which error a path gives can depend on files: a name on the way may be a file in one tree and
missing in the other. Only once the directory in which it ends is reached (`FileSystem.Reaches`)
are the errors the same as well (`SameTree.resolve_eq`).

`FileSystem.place?` is the location that reading and writing by a path mean. Writing a file
where no directory, link or device is, and removing one, change only files
(`OnlyFilesChanged`), so a place found at the start of a run is the place to its end.
-/

namespace MeshScript

theorem bind_eq_ok_iff {ε α β : Type} {first : Except ε α} {next : α → Except ε β} {b : β} :
    first >>= next = .ok b ↔ ∃ a, first = .ok a ∧ next a = .ok b := by
  cases first <;> simp [bind, Except.bind]

theorem map_eq_ok_iff {ε α β : Type} {result : Except ε α} {f : α → β} {b : β} :
    result.map f = .ok b ↔ ∃ a, result = .ok a ∧ f a = b := by
  cases result <;> simp [Except.map]

theorem eq_ok_of_toOption {ε α : Type} {result : Except ε α} {a : α}
    (h : result.toOption = some a) : result = .ok a := by
  cases result with
  | error e => cases h
  | ok b => exact congrArg Except.ok (Option.some.inj h)

/-- The node has a say in where a path leads. -/
def Node.leadsOn : Node → Bool
  | directory | generated | link _ => true
  | file _ | device => false

/-- The node is a file or a directory. -/
def Node.isPlain : Node → Bool
  | file _ | directory | generated => true
  | device | link _ => false

namespace FileSystem

/-! ## File systems with the same directories and links -/

/-- The node at the location, if it has a say in where a path leads. -/
def way? (files : FileSystem) (location : Location) : Option Node :=
  (files.node? location).filter Node.leadsOn

/-- **The same tree**: the two file systems differ in files and devices at most. -/
structure SameTree (files others : FileSystem) : Prop where
  workingDirectory : files.workingDirectory = others.workingDirectory
  way? : ∀ location, files.way? location = others.way? location

/-- A node that leads on is seen by `way?`. -/
theorem way?_eq_some_iff {files : FileSystem} {location : Location} {node : Node} :
    files.way? location = some node ↔ files.node? location = some node ∧ node.leadsOn :=
  Option.filter_eq_some_iff

theorem isDirectory_eq_way? (files : FileSystem) (location : Location) :
    files.isDirectory location =
      (location.isEmpty || (files.way? location).any Node.isDirectory) := by
  unfold isDirectory way?
  rcases files.node? location with _ | (_ | _ | _ | _ | _) <;> rfl

theorem follow_eq_way? (files : FileSystem) (location : Location) :
    files.follow location =
      match files.way? location with
      | some (.link goal) =>
        match files.way? goal with
        | some (.link _) => .error .tooManyLinks
        | _ => .ok goal
      | _ => .ok location := by
  unfold follow way?
  -- what does not lead on is no link, and what is no link is not followed
  rcases files.node? location with _ | (_ | _ | _ | _ | goal) <;> try rfl
  rcases hgoal : files.node? goal with _ | (_ | _ | _ | _ | _) <;>
    simp [hgoal, Option.filter, Node.leadsOn]

/-- A proper name is entered if it is not too long and leads to a directory. -/
theorem enter_eq_ok_iff_of_name {files : FileSystem} {here place : Location} {name : Text}
    (hdot : name ≠ ['.']) (hup : name ≠ ['.', '.']) :
    files.enter here name = .ok place ↔
      files.exceedsLimit here name = false ∧ files.follow (here ++ [name]) = .ok place ∧
        files.isDirectory place = true := by
  unfold enter
  rw [if_neg hdot, if_neg hup]
  split
  · rename_i hlong
    simp [hlong]
  · rename_i hshort
    rw [bind_eq_ok_iff]
    constructor
    · rintro ⟨goal, hfollow, hgoal⟩
      split at hgoal
      · rename_i hdirectory
        obtain rfl : goal = place := Except.ok.inj hgoal
        exact ⟨by simpa using hshort, hfollow, hdirectory⟩
      · split at hgoal <;> cases hgoal
    · rintro ⟨-, hfollow, hdirectory⟩
      exact ⟨place, hfollow, by rw [if_pos hdirectory]; rfl⟩

/-- The directory in which following the path starts. -/
def start (files : FileSystem) (path : Path) : Location :=
  if path.isAbsolute then [] else files.workingDirectory

/-- **A path that leads somewhere**: it is well formed, and has no name at all, or its last name is
looked at from the directory to which the names before it lead. -/
theorem resolve_ok_iff {files : FileSystem} {path : Path} {spot : Spot} :
    files.resolve path = .ok spot ↔
      ('\x00' ∉ path ∧ path ≠ [] ∧ path.byteLength < pathLimit) ∧
        (path.names.getLast? = none ∧ spot = .directory (files.start path) ∨
          ∃ last here, path.names.getLast? = some last ∧
            path.names.dropLast.foldlM files.enter (files.start path) = .ok here ∧
            files.lastName here last path.hasTrailingSlash = .ok spot) := by
  unfold resolve
  split
  · simp [*]
  · split
    · simp [*]
    · split
      · rename_i hlong
        simp [Nat.not_lt.2 hlong]
      · rename_i hnul hempty hshort
        rw [and_iff_right ⟨hnul, hempty, Nat.lt_of_not_le hshort⟩]
        cases path.names.getLast? with
        | none =>
          simp only [Except.ok.injEq, true_and, reduceCtorEq, false_and, exists_false, or_false]
          exact eq_comm
        | some last => simp [start, bind_eq_ok_iff]

namespace SameTree

variable {files others : FileSystem}

theorem refl (files : FileSystem) : SameTree files files :=
  ⟨rfl, fun _ => rfl⟩

theorem trans {third : FileSystem} (h : SameTree files others) (h' : SameTree others third) :
    SameTree files third :=
  ⟨h.workingDirectory.trans h'.workingDirectory,
    fun location => (h.way? location).trans (h'.way? location)⟩

/-- Nodes that lead on are the same in both. -/
theorem node?_eq_some_iff (h : SameTree files others) (location : Location) {node : Node}
    (hnode : node.leadsOn) :
    files.node? location = some node ↔ others.node? location = some node := by
  have hway : files.way? location = some node ↔ others.way? location = some node := by
    rw [h.way?]
  rw [way?_eq_some_iff, way?_eq_some_iff] at hway
  simpa [hnode] using hway

theorem isDirectory_eq (h : SameTree files others) (location : Location) :
    files.isDirectory location = others.isDirectory location := by
  rw [isDirectory_eq_way?, isDirectory_eq_way?, h.way?]

theorem exceedsLimit_eq (h : SameTree files others) (here : Location) (name : Text) :
    files.exceedsLimit here name = others.exceedsLimit here name := by
  have hnode : files.node? here = some .generated ↔ others.node? here = some .generated :=
    h.node?_eq_some_iff here rfl
  rw [exceedsLimit, exceedsLimit, Bool.eq_iff_iff]
  simp [hnode]

theorem follow_eq (h : SameTree files others) (location : Location) :
    files.follow location = others.follow location := by
  rw [follow_eq_way?, follow_eq_way?, h.way?]
  simp only [h.way?]

/-- A name is entered in both or in neither; only the error may differ. -/
theorem enter_eq_ok_iff (h : SameTree files others) {here place : Location} {name : Text} :
    files.enter here name = .ok place ↔ others.enter here name = .ok place := by
  -- `.` and `..` are followed without a look at the tree
  by_cases hdot : name = ['.']
  · rw [enter, enter, if_pos hdot, if_pos hdot]
  · by_cases hup : name = ['.', '.']
    · rw [enter, enter, if_neg hdot, if_neg hdot, if_pos hup, if_pos hup]
    · rw [enter_eq_ok_iff_of_name hdot hup, enter_eq_ok_iff_of_name hdot hup, h.exceedsLimit_eq,
        h.follow_eq, h.isDirectory_eq]

theorem foldlM_enter_eq_ok_iff (h : SameTree files others) (names : List Text)
    {start place : Location} :
    names.foldlM files.enter start = .ok place ↔ names.foldlM others.enter start = .ok place := by
  induction names generalizing start with
  | nil => rfl
  | cons name names ih =>
    rw [List.foldlM_cons, List.foldlM_cons, bind_eq_ok_iff, bind_eq_ok_iff]
    exact exists_congr fun here => and_congr h.enter_eq_ok_iff ih

theorem lastName_eq (h : SameTree files others) (here : Location) (name : Text) (slash : Bool) :
    files.lastName here name slash = others.lastName here name slash := by
  rw [lastName, lastName, h.exceedsLimit_eq]

theorem start_eq (h : SameTree files others) (path : Path) :
    files.start path = others.start path := by
  rw [start, start, h.workingDirectory]

/-- **A path leads to the same spot** in both, or to none in either. -/
theorem resolve_eq_ok_iff (h : SameTree files others) {path : Path} {spot : Spot} :
    files.resolve path = .ok spot ↔ others.resolve path = .ok spot := by
  rw [resolve_ok_iff, resolve_ok_iff]
  simp only [h.start_eq, h.foldlM_enter_eq_ok_iff, h.lastName_eq]

end SameTree

/-! ## The place a path leads to -/

/-- **The place** that is read and written by the path, if it leads to one. -/
def place? (files : FileSystem) (path : Path) : Option Location :=
  match files.resolve path with
  | .ok (.entry location false) => (files.follow location).toOption
  | _ => none

/-- **The paths lead to different places**, as far as they lead anywhere. -/
def Apart (files : FileSystem) (path other : Path) : Prop :=
  ∀ place, files.place? path = some place → files.place? other ≠ some place

/-- **No link and no device** stands at the path itself; a file, a directory or nothing may. -/
def IsPlainAt (files : FileSystem) (path : Path) : Prop :=
  ∀ location slash, files.resolve path = .ok (.entry location slash) →
    (files.node? location).all Node.isPlain = true

/-- **The location can hold a file**: there is one, or nothing. -/
structure CanHoldFile (files : FileSystem) (location : Location) : Prop where
  notRoot : location ≠ []
  file : ∀ node, files.node? location = some node → ∃ bytes, node = .file bytes

theorem apart_iff {files : FileSystem} {path other : Path} :
    files.Apart path other ↔
      files.place? path = none ∨ files.place? path ≠ files.place? other := by
  unfold Apart
  cases files.place? path with
  | none => simp
  | some place => simp [eq_comm]

instance (files : FileSystem) (path other : Path) : Decidable (files.Apart path other) :=
  decidable_of_iff _ apart_iff.symm

theorem isPlainAt_iff {files : FileSystem} {path : Path} :
    files.IsPlainAt path ↔
      (match files.resolve path with
        | .ok (.entry location _) => (files.node? location).all Node.isPlain
        | _ => true) = true := by
  unfold IsPlainAt
  rcases files.resolve path with _ | (_ | ⟨location, slash⟩) <;> simp

instance (files : FileSystem) (path : Path) : Decidable (files.IsPlainAt path) :=
  decidable_of_iff _ isPlainAt_iff.symm

theorem canHoldFile_iff {files : FileSystem} {location : Location} :
    files.CanHoldFile location ↔
      location ≠ [] ∧ (files.node? location = none ∨ files.holdsFile location = true) := by
  constructor
  · intro h
    refine ⟨h.notRoot, ?_⟩
    cases hnode : files.node? location with
    | none => exact Or.inl rfl
    | some node =>
      obtain ⟨bytes, rfl⟩ := h.file node hnode
      exact Or.inr (by rw [holdsFile, hnode])
  · rintro ⟨hroot, hnone | hfile⟩
    · exact ⟨hroot, fun node hnode => by cases hnone.symm.trans hnode⟩
    · refine ⟨hroot, fun node hnode => ?_⟩
      rw [holdsFile, hnode] at hfile
      cases node with
      | file bytes => exact ⟨bytes, rfl⟩
      | directory | generated | device | link => cases hfile

instance (files : FileSystem) (location : Location) : Decidable (files.CanHoldFile location) :=
  decidable_of_iff _ canHoldFile_iff.symm

theorem Apart.symm {files : FileSystem} {path other : Path} (h : files.Apart path other) :
    files.Apart other path := by
  intro place hother hpath
  exact h place hpath hother

theorem place?_eq_some_iff {files : FileSystem} {path : Path} {place : Location} :
    files.place? path = some place ↔
      ∃ location, files.resolve path = .ok (.entry location false) ∧
        files.follow location = .ok place := by
  unfold place?
  constructor
  · intro h
    split at h
    · rename_i location hresolve
      refine ⟨location, hresolve, ?_⟩
      cases hfollow : files.follow location <;> simp [hfollow, Except.toOption] at h ⊢
      exact h
    · cases h
  · rintro ⟨location, hresolve, hfollow⟩
    rw [hresolve]
    simp [hfollow, Except.toOption]

theorem SameTree.place?_eq {files others : FileSystem} (h : SameTree files others) (path : Path) :
    files.place? path = others.place? path := by
  ext place
  rw [place?_eq_some_iff, place?_eq_some_iff]
  exact exists_congr fun location => and_congr h.resolve_eq_ok_iff (by rw [h.follow_eq])

/-- A plain path leads to the entry that it names. -/
theorem IsPlainAt.place?_eq_some_iff {files : FileSystem} {path : Path} (h : files.IsPlainAt path)
    {place : Location} :
    files.place? path = some place ↔ files.resolve path = .ok (.entry place false) := by
  have hfollow : ∀ location, files.resolve path = .ok (.entry location false) →
      files.follow location = .ok location := by
    intro location hresolve
    apply follow_of_not_link
    intro goal hlink
    have hplain := h location false hresolve
    rw [hlink] at hplain
    cases hplain
  rw [FileSystem.place?_eq_some_iff]
  constructor
  · rintro ⟨location, hresolve, hplace⟩
    rw [hfollow location hresolve] at hplace
    obtain rfl := Except.ok.inj hplace
    exact hresolve
  · intro hresolve
    exact ⟨place, hresolve, hfollow place hresolve⟩

/-- No place is a link: that would be a link to a link. -/
theorem node?_ne_link_of_place? {files : FileSystem} {path : Path} {place : Location}
    (h : files.place? path = some place) (goal : Location) :
    files.node? place ≠ some (.link goal) := by
  obtain ⟨location, -, hfollow⟩ := place?_eq_some_iff.1 h
  intro hlink
  unfold follow at hfollow
  split at hfollow
  · split at hfollow
    · cases hfollow
    · rename_i hgoal
      exact hgoal _ (Except.ok.inj hfollow ▸ hlink)
  · rename_i hdirect
    exact hdirect _ (Except.ok.inj hfollow ▸ hlink)

/-- What is no directory, no device and no link is a file or nothing. -/
theorem canHoldFile_of_ne {files : FileSystem} {place : Location}
    (hdirectory : files.isDirectory place = false) (hdevice : files.node? place ≠ some .device)
    (hlink : ∀ goal, files.node? place ≠ some (.link goal)) : files.CanHoldFile place := by
  obtain ⟨hroot, hnot⟩ := Bool.or_eq_false_iff.1 hdirectory
  refine ⟨by simpa using hroot, ?_⟩
  intro node hnode
  rw [hnode, Option.any_some] at hnot
  cases node with
  | file bytes => exact ⟨bytes, rfl⟩
  | directory => cases hnot
  | generated => cases hnot
  | device => exact absurd hnode hdevice
  | link goal => exact absurd hnode (hlink goal)

/-- The place of a plain path that is no directory can hold a file. -/
theorem IsPlainAt.canHoldFile {files : FileSystem} {path : Path} (h : files.IsPlainAt path)
    {place : Location} (hplace : files.place? path = some place)
    (hdirectory : files.isDirectory place = false) : files.CanHoldFile place := by
  refine canHoldFile_of_ne hdirectory ?_ (node?_ne_link_of_place? hplace)
  intro hdevice
  have hplain := h place false (h.place?_eq_some_iff.1 hplace)
  rw [hdevice] at hplain
  cases hplain

theorem CanHoldFile.isDirectory_eq_false {files : FileSystem} {location : Location}
    (h : files.CanHoldFile location) : files.isDirectory location = false := by
  rw [isDirectory, Bool.or_eq_false_iff]
  refine ⟨by simpa using h.notRoot, ?_⟩
  cases hnode : files.node? location with
  | none => rfl
  | some node =>
    obtain ⟨bytes, rfl⟩ := h.file node hnode
    rfl

theorem CanHoldFile.of_node?_eq {files after : FileSystem} {location : Location}
    (h : files.CanHoldFile location) (hnode : after.node? location = files.node? location) :
    after.CanHoldFile location :=
  ⟨h.notRoot, fun node hafter => h.file node (hnode ▸ hafter)⟩

/-! ## The directory in which a path ends -/

/-- **The directory in which the path ends** can be reached: all names before the last one
lead on. -/
def Reaches (files : FileSystem) (path : Path) : Prop :=
  ∃ here, path.names.dropLast.foldlM files.enter (files.start path) = .ok here

theorem reaches_of_place? {files : FileSystem} {path : Path} {place : Location}
    (h : files.place? path = some place) : files.Reaches path := by
  obtain ⟨location, hresolve, -⟩ := place?_eq_some_iff.1 h
  rcases (resolve_ok_iff.1 hresolve).2 with ⟨-, hno⟩ | ⟨last, here, -, hhere, -⟩
  · cases hno
  · exact ⟨here, hhere⟩

namespace SameTree

variable {files others : FileSystem} {path : Path}

theorem reaches (h : SameTree files others) (hreaches : files.Reaches path) :
    others.Reaches path := by
  obtain ⟨here, hhere⟩ := hreaches
  rw [h.start_eq, h.foldlM_enter_eq_ok_iff] at hhere
  exact ⟨here, hhere⟩

/-- Once its directory is reached, a path resolves alike in both, errors included. -/
theorem resolve_eq (h : SameTree files others) (hreaches : files.Reaches path) :
    files.resolve path = others.resolve path := by
  obtain ⟨here, hhere⟩ := hreaches
  have hhere' := (h.foldlM_enter_eq_ok_iff _).1 (h.start_eq path ▸ hhere)
  unfold start at hhere hhere'
  unfold resolve
  -- the checks before the walk see the path only
  split
  · rfl
  · split
    · rfl
    · split
      · rfl
      · cases path.names.getLast? with
        | none => simp only [h.workingDirectory]
        | some last =>
          simp only [hhere, hhere']
          exact h.lastName_eq here last path.hasTrailingSlash

end SameTree

/-! ## Changing files only -/

/-- **Only files changed**: the tree is the same, and what is new is a file. -/
structure OnlyFilesChanged (files after : FileSystem) : Prop extends SameTree files after where
  node_or_file : ∀ location node, after.node? location = some node →
    files.node? location = some node ∨ ∃ bytes, node = .file bytes

theorem CanHoldFile.way?_eq_none {files : FileSystem} {location : Location}
    (h : files.CanHoldFile location) : files.way? location = none := by
  rw [FileSystem.way?, Option.filter_eq_none_iff]
  intro node hnode
  obtain ⟨bytes, rfl⟩ := h.file node hnode
  simp [Node.leadsOn]

namespace OnlyFilesChanged

variable {files after : FileSystem}

theorem refl (files : FileSystem) : OnlyFilesChanged files files :=
  ⟨SameTree.refl files, fun _ _ hnode => Or.inl hnode⟩

theorem trans {last : FileSystem} (h : OnlyFilesChanged files after)
    (h' : OnlyFilesChanged after last) : OnlyFilesChanged files last := by
  refine ⟨h.toSameTree.trans h'.toSameTree, ?_⟩
  intro location node hnode
  rcases h'.node_or_file location node hnode with hafter | hfile
  · exact h.node_or_file location node hafter
  · exact Or.inr hfile

theorem put {location : Location} (h : files.CanHoldFile location) (bytes : ByteArray) :
    OnlyFilesChanged files (files.put location (.file bytes)) := by
  refine ⟨⟨rfl, ?_⟩, ?_⟩
  · intro other
    -- neither what could be there before nor the new file leads on
    by_cases heq : other = location
    · rw [heq, h.way?_eq_none, FileSystem.way?, node?_put, if_pos rfl]
      rfl
    · rw [FileSystem.way?, FileSystem.way?, node?_put, if_neg heq]
  · intro other node hnode
    rw [node?_put] at hnode
    split at hnode
    · exact Or.inr ⟨bytes, (Option.some.inj hnode).symm⟩
    · exact Or.inl hnode

theorem erase {location : Location} (h : files.CanHoldFile location) :
    OnlyFilesChanged files (files.erase location) := by
  refine ⟨⟨rfl, ?_⟩, ?_⟩
  · intro other
    by_cases heq : other = location
    · rw [heq, h.way?_eq_none, FileSystem.way?, node?_erase, if_pos rfl]
      rfl
    · rw [FileSystem.way?, FileSystem.way?, node?_erase, if_neg heq]
  · intro other node hnode
    rw [node?_erase] at hnode
    split at hnode
    · cases hnode
    · exact Or.inl hnode

/-- **A path leads to the same place** before and after. -/
theorem place?_eq (h : OnlyFilesChanged files after) (path : Path) :
    after.place? path = files.place? path :=
  (h.toSameTree.place?_eq path).symm

theorem apart (h : OnlyFilesChanged files after) {path other : Path}
    (hapart : files.Apart path other) : after.Apart path other := by
  intro place hpath
  rw [h.place?_eq] at hpath ⊢
  exact hapart place hpath

theorem isPlainAt (h : OnlyFilesChanged files after) {path : Path} (hplain : files.IsPlainAt path) :
    after.IsPlainAt path := by
  intro location slash hresolve
  have hbefore := hplain location slash (h.toSameTree.resolve_eq_ok_iff.2 hresolve)
  cases hnode : after.node? location with
  | none => rfl
  | some node =>
    rcases h.node_or_file location node hnode with hold | ⟨bytes, rfl⟩
    · rwa [hold] at hbefore
    · rfl

theorem canHoldFile (h : OnlyFilesChanged files after) {location : Location}
    (hcan : files.CanHoldFile location) : after.CanHoldFile location := by
  refine ⟨hcan.notRoot, ?_⟩
  intro node hnode
  rcases h.node_or_file location node hnode with hold | hfile
  · exact hcan.file node hold
  · exact hfile

/-- The place of a plain path that can hold a file afterwards could before. -/
theorem canHoldFile_before (h : OnlyFilesChanged files after) {path : Path} {place : Location}
    (hplain : files.IsPlainAt path) (hplace : files.place? path = some place)
    (hcan : after.CanHoldFile place) : files.CanHoldFile place :=
  hplain.canHoldFile hplace
    ((h.toSameTree.isDirectory_eq place).trans hcan.isDirectory_eq_false)

end OnlyFilesChanged

end FileSystem

end MeshScript
