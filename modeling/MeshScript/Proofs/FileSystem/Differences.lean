import Mathlib.Order.BooleanAlgebra.Set
import MeshScript.Proofs.FileSystem.Operations
/-!
# MeshScript.Proofs.FileSystem.Differences -- two file systems that differ in some files

`FileSystem.DifferIn places files others` says that the two hold the same, except that at one
of the places there may be different files, or a file in one and nothing in the other. What
is written by a path in both is the same in both from then on: writing and removing take a place
out of the set (`DifferIn.store`, `DifferIn.erase`).

Two file systems worked on by the same operations stay `InStep`. One lemma an operation says
that it fails in both for the same cause or succeeds in both (`Matched`), provided it reads
no place at which the two differ.
-/

namespace MeshScript.FileSystem

/-- **The places of the paths**, as far as they lead to one. -/
def placesOf (files : FileSystem) (paths : List Path) : Set Location :=
  {place | ∃ path ∈ paths, files.place? path = some place}

theorem notMem_placesOf {files : FileSystem} {paths : List Path} {path : Path} {place : Location}
    (hapart : ∀ other ∈ paths, files.Apart path other) (hplace : files.place? path = some place) :
    place ∉ files.placesOf paths := by
  rintro ⟨other, hmem, hother⟩
  exact hapart other hmem place hplace hother

theorem OnlyFilesChanged.placesOf_eq {files after : FileSystem} (h : OnlyFilesChanged files after)
    (paths : List Path) : after.placesOf paths = files.placesOf paths := by
  simp only [placesOf, h.place?_eq]

/-- **Different files at most**, and only at the places: in both file systems each of them
can hold a file there. -/
structure DifferIn (places : Set Location) (files others : FileSystem) : Prop where
  workingDirectory : files.workingDirectory = others.workingDirectory
  node? : ∀ location, files.node? location = others.node? location ∨
    location ∈ places ∧ files.CanHoldFile location ∧ others.CanHoldFile location

namespace DifferIn

variable {places : Set Location} {files others : FileSystem}

theorem refl (places : Set Location) (files : FileSystem) : DifferIn places files files :=
  ⟨rfl, fun _ => Or.inl rfl⟩

theorem node?_eq (h : DifferIn places files others) {location : Location}
    (hnotMem : location ∉ places) : files.node? location = others.node? location :=
  (h.node? location).resolve_right fun hdiffer => hnotMem hdiffer.1

/-- The set has to name only the places at which the two do differ. -/
theorem narrow {places' : Set Location} (h : DifferIn places files others)
    (hdiffer : ∀ location ∈ places, files.node? location ≠ others.node? location →
      location ∈ places') :
    DifferIn places' files others := by
  refine ⟨h.workingDirectory, fun location => ?_⟩
  by_cases heq : files.node? location = others.node? location
  · exact Or.inl heq
  · obtain ⟨hmem, hcan⟩ := (h.node? location).resolve_left heq
    exact Or.inr ⟨hdiffer location hmem heq, hcan⟩

theorem mono {places' : Set Location} (h : DifferIn places files others)
    (hsubset : places ⊆ places') : DifferIn places' files others :=
  h.narrow fun _ hmem _ => hsubset hmem

/-- **Without a place there is no difference.** -/
theorem eq_of_empty (h : DifferIn ∅ files others) : files = others :=
  ext_node? h.workingDirectory fun _ => h.node?_eq (Set.notMem_empty _)

theorem bytesAt_eq (h : DifferIn places files others) {location : Location}
    (hnotMem : location ∉ places) : files.bytesAt location = others.bytesAt location := by
  rw [bytesAt, bytesAt, h.node?_eq hnotMem]

theorem toSameTree (h : DifferIn places files others) : SameTree files others := by
  refine ⟨h.workingDirectory, fun location => ?_⟩
  rcases h.node? location with heq | ⟨-, hcan, hcan'⟩
  · rw [way?, way?, heq]
  · rw [hcan.way?_eq_none, hcan'.way?_eq_none]

theorem expectEntry_eq (h : DifferIn places files others) {location : Location}
    (hnotMem : location ∉ places) (slash : Bool) :
    files.expectEntry location slash = others.expectEntry location slash := by
  rw [expectEntry, expectEntry, h.node?_eq hnotMem, h.toSameTree.isDirectory_eq]

theorem canHoldFile (h : DifferIn places files others) {location : Location}
    (hcan : others.CanHoldFile location) : files.CanHoldFile location := by
  rcases h.node? location with heq | ⟨-, hcan', -⟩
  · exact hcan.of_node?_eq heq
  · exact hcan'

/-- What differs in files only came about by changes to files. -/
theorem onlyFilesChanged (h : DifferIn places files others) : OnlyFilesChanged files others := by
  refine ⟨h.toSameTree, fun location node hnode => ?_⟩
  rcases h.node? location with heq | ⟨-, -, hcan⟩
  · exact Or.inl (heq.trans hnode)
  · exact Or.inr (hcan.file node hnode)

/-- Whether a file is at a path is the same in both if they do not differ there. -/
theorem isFile_eq (h : DifferIn places files others) {path : Path}
    (hnotMem : ∀ place ∈ places, files.place? path ≠ some place) :
    files.isFile path = others.isFile path := by
  rw [Bool.eq_iff_iff, isFile_eq_true_iff, isFile_eq_true_iff, ← h.toSameTree.place?_eq path]
  refine exists_congr fun place => exists_congr fun bytes => and_congr_right fun hplace => ?_
  rw [h.node?_eq fun hmem => hnotMem place hmem hplace]

/-! ### Changes to the second file system -/

/-- What is done to the second file system at one of the places. -/
theorem change {after : FileSystem} {place : Location} (h : DifferIn places files others)
    (hmem : place ∈ places) (hcan : others.CanHoldFile place) (hafter : after.CanHoldFile place)
    (hdirectory : after.workingDirectory = others.workingDirectory)
    (hkept : ∀ location, location ≠ place → after.node? location = others.node? location) :
    DifferIn places files after := by
  refine ⟨h.workingDirectory.trans hdirectory.symm, fun location => ?_⟩
  by_cases hplace : location = place
  · exact Or.inr ⟨hplace ▸ hmem, hplace ▸ h.canHoldFile hcan, hplace ▸ hafter⟩
  · rcases h.node? location with heq | ⟨hmem, hcan, hcan'⟩
    · exact Or.inl (heq.trans (hkept location hplace).symm)
    · exact Or.inr ⟨hmem, hcan, hcan'.of_node?_eq (hkept location hplace)⟩

theorem put_right {place : Location} (h : DifferIn places files others) (hmem : place ∈ places)
    (hcan : others.CanHoldFile place) (bytes : ByteArray) :
    DifferIn places files (others.put place (.file bytes)) := by
  refine h.change hmem hcan ((OnlyFilesChanged.put hcan bytes).canHoldFile hcan) rfl ?_
  intro location hne
  rw [node?_put, if_neg hne]

theorem erase_right {place : Location} (h : DifferIn places files others) (hmem : place ∈ places)
    (hcan : others.CanHoldFile place) : DifferIn places files (others.erase place) := by
  refine h.change hmem hcan ((OnlyFilesChanged.erase hcan).canHoldFile hcan) rfl ?_
  intro location hne
  rw [node?_erase, if_neg hne]

section Operations

variable {origin after : FileSystem} {paths : List Path} {path : Path}
  (h : DifferIn (origin.placesOf paths) origin files) (hmem : path ∈ paths)

include h hmem

/-- What one of the paths leads to is one of the places found at the start. -/
theorem mem_placesOf {place : Location} (hplace : files.place? path = some place) :
    place ∈ origin.placesOf paths :=
  ⟨path, hmem, (h.onlyFilesChanged.place?_eq path).symm.trans hplace⟩

variable (hplain : origin.IsPlainAt path)

include hplain

theorem write_right {bytes : ByteArray} (hwrite : files.write path bytes = .ok after) :
    DifferIn (origin.placesOf paths) origin after := by
  obtain ⟨place, hplace, hcan, rfl⟩ := write_eq_ok (h.onlyFilesChanged.isPlainAt hplain) hwrite
  exact h.put_right (h.mem_placesOf hmem hplace) hcan bytes

theorem copy_right {source : Path} (hcopy : files.copy source path = .ok after) :
    DifferIn (origin.placesOf paths) origin after := by
  obtain ⟨place, hplace, hcan, rfl⟩ := copy_eq_ok (h.onlyFilesChanged.isPlainAt hplain) hcopy
  exact h.put_right (h.mem_placesOf hmem hplace) hcan _

theorem remove_right (hremove : files.remove path = .ok after) :
    DifferIn (origin.placesOf paths) origin after := by
  obtain ⟨place, hplace, hcan, rfl⟩ := remove_eq_ok (h.onlyFilesChanged.isPlainAt hplain) hremove
  exact h.erase_right (h.mem_placesOf hmem hplace) hcan

end Operations

/-! ### The same change to both -/

/-- What is made the same at a place in both takes that place out of the set. -/
theorem sdiff_singleton {files' others' : FileSystem} (h : DifferIn places files others)
    (place : Location) (hdirectory : files'.workingDirectory = others'.workingDirectory)
    (hsame : files'.node? place = others'.node? place)
    (hfiles : ∀ location, location ≠ place → files'.node? location = files.node? location)
    (hothers : ∀ location, location ≠ place → others'.node? location = others.node? location) :
    DifferIn (places \ {place}) files' others' := by
  refine ⟨hdirectory, fun location => ?_⟩
  by_cases hplace : location = place
  · exact Or.inl (hplace ▸ hsame)
  · rw [hfiles location hplace, hothers location hplace]
    rcases h.node? location with heq | ⟨hmem, hcan, hcan'⟩
    · exact Or.inl heq
    · exact Or.inr ⟨⟨hmem, hplace⟩, hcan.of_node?_eq (hfiles location hplace),
        hcan'.of_node?_eq (hothers location hplace)⟩

theorem store (h : DifferIn places files others) (place : Location) (bytes : ByteArray) :
    DifferIn (places \ {place}) (files.store place bytes) (others.store place bytes) := by
  apply h.sdiff_singleton place
  · rw [workingDirectory_store, workingDirectory_store, h.workingDirectory]
  · rw [node?_store, node?_store]
    -- a device is where it was in both, and swallows the bytes in both
    rcases h.node? place with heq | ⟨-, hcan, hcan'⟩
    · rw [heq]
    · rw [if_pos ⟨rfl, hcan.node?_ne_device⟩, if_pos ⟨rfl, hcan'.node?_ne_device⟩]
  · intro location hne
    rw [node?_store, if_neg fun h => hne h.1]
  · intro location hne
    rw [node?_store, if_neg fun h => hne h.1]

theorem erase (h : DifferIn places files others) (place : Location) :
    DifferIn (places \ {place}) (files.erase place) (others.erase place) := by
  apply h.sdiff_singleton place
  · exact h.workingDirectory
  · rw [node?_erase, node?_erase, if_pos rfl, if_pos rfl]
  · intro location hne
    rw [node?_erase, if_neg hne]
  · intro location hne
    rw [node?_erase, if_neg hne]

end DifferIn

/-! ## Operations on both -/

/-- **Matched results**: the operation failed for the same cause, or it succeeded twice and
what it made is related. -/
inductive Matched (related : FileSystem → FileSystem → Prop) :
    Except FileError FileSystem → Except FileError FileSystem → Prop
  | error (cause : FileError) : Matched related (.error cause) (.error cause)
  | ok {files others : FileSystem} (h : related files others) :
      Matched related (.ok files) (.ok others)

theorem Matched.self (result : Except FileError FileSystem) :
    Matched (fun files others => files = others) result result := by
  cases result with
  | error cause => exact .error cause
  | ok files => exact .ok rfl

/-- What was found the same in both is the first step of a matched operation. -/
theorem Matched.bind {α : Type} {related : FileSystem → FileSystem → Prop}
    {found : Except FileError α} {next next' : α → Except FileError FileSystem}
    (h : ∀ a, found = .ok a → Matched related (next a) (next' a)) :
    Matched related (found >>= next) (found >>= next') := by
  cases found with
  | error cause => exact .error cause
  | ok a => exact h a rfl

/-- **In step**: two file systems that differ in some files, the first of which came from
`origin` by changes to files only. -/
structure InStep (origin : FileSystem) (places : Set Location) (files others : FileSystem) : Prop
    extends DifferIn places files others where
  changed : OnlyFilesChanged origin files

namespace InStep

variable {origin files others : FileSystem} {places : Set Location} {path : Path}
  {place : Location}

theorem start (h : DifferIn places files others) : InStep files places files others :=
  ⟨h, .refl files⟩

/-- A path leads where it led at the start, in the first file system and in the second. -/
theorem place?_eq (h : InStep origin places files others) (path : Path) :
    files.place? path = origin.place? path ∧ others.place? path = origin.place? path := by
  have hfiles := h.changed.place?_eq path
  exact ⟨hfiles, (h.toSameTree.place?_eq path).symm.trans hfiles⟩

section Read

variable (h : InStep origin places files others) (hplace : origin.place? path = some place)
  (hnotMem : place ∉ places)

include h hplace hnotMem

theorem locateSource_eq : files.locateSource path = others.locateSource path := by
  rw [locateSource_of_place? ((h.place?_eq path).1.trans hplace),
    locateSource_of_place? ((h.place?_eq path).2.trans hplace), h.expectEntry_eq hnotMem]

theorem read_eq : files.read path = others.read path := by
  rw [read, read, h.locateSource_eq hplace hnotMem]
  cases hsource : others.locateSource path with
  | error cause => rfl
  | ok located =>
    rw [locateSource_eq_ok_iff, (h.place?_eq path).2, hplace] at hsource
    obtain rfl := Option.some.inj hsource.1
    exact congrArg Except.ok (h.bytesAt_eq hnotMem)

/-- **Reading** where the two do not differ. -/
theorem readText_eq : files.readText path = others.readText path := by
  rw [readText, readText, h.read_eq hplace hnotMem]

/-- **Removing** where the two do not differ, by a path that is no link. -/
theorem remove_matched (hplain : origin.IsPlainAt path) :
    Matched (InStep origin places) (files.remove path) (others.remove path) := by
  have hresolve := (h.changed.isPlainAt hplain).place?_eq_some_iff.1
    ((h.place?_eq path).1.trans hplace)
  have hresolve' := h.toSameTree.resolve_eq_ok_iff.1 hresolve
  simp only [remove, hresolve, hresolve']
  show Matched _ (files.expectEntry place false >>= _) (others.expectEntry place false >>= _)
  rw [← h.expectEntry_eq hnotMem]
  apply Matched.bind
  intro found hfound
  obtain ⟨rfl, -, hdirectory, -⟩ := expectEntry_eq_ok_iff.1 hfound
  have hcan := (h.changed.isPlainAt hplain).canHoldFile
    ((h.place?_eq path).1.trans hplace) hdirectory
  exact .ok ⟨(h.toDifferIn.erase place).mono Set.sdiff_subset, h.changed.trans (.erase hcan)⟩

end Read

/-- Storing at a target that was found takes its place out. -/
theorem store_found (h : InStep origin places files others) {found : Location}
    (hfound : files.locateTarget path = .ok found) (bytes : ByteArray) :
    ∃ place, origin.place? path = some place ∧
      InStep origin (places \ {place}) (files.store found bytes) (others.store found bytes) :=
  ⟨found, (h.place?_eq path).1.symm.trans (locateTarget_eq_ok_iff.1 hfound).1,
    h.toDifferIn.store found bytes, h.changed.trans (onlyFilesChanged_store hfound bytes)⟩

section Write

variable (h : InStep origin places files others)
  (hmade : ∀ place ∈ places, origin.place? path = some place →
    origin.node? place.dropLast ≠ some .generated)

include h hmade

/-- What is expected of a target is there in both or in neither: where the two differ, the
directory is one in which a file can be made. -/
theorem expectTarget_eq (hplace : origin.place? path = some place) :
    files.expectTarget place = others.expectTarget place := by
  have hgenerated : ∀ location, files.node? location = some .generated ↔
      others.node? location = some .generated :=
    fun location => h.toSameTree.node?_eq_some_iff location rfl
  rw [expectTarget, expectTarget, h.toSameTree.isDirectory_eq]
  by_cases hmem : place ∈ places
  · have hfiles : files.node? place.dropLast ≠ some .generated :=
      mt (h.changed.toSameTree.node?_eq_some_iff _ rfl).2 (hmade place hmem hplace)
    have hothers : others.node? place.dropLast ≠ some .generated :=
      mt (hgenerated _).2 hfiles
    simp only [hfiles, hothers, and_false]
  · simp only [h.node?_eq hmem, hgenerated]

theorem locateTarget_eq (hreaches : origin.Reaches path) :
    files.locateTarget path = others.locateTarget path := by
  have hresolve := h.toSameTree.resolve_eq (h.changed.toSameTree.reaches hreaches)
  rw [locateTarget, locateTarget, hresolve]
  cases hspot : others.resolve path with
  | error cause => rfl
  | ok spot =>
    rcases spot with _ | ⟨location, _ | _⟩
    · rfl
    · show (files.follow location >>= _) = (others.follow location >>= _)
      rw [h.toSameTree.follow_eq]
      cases hfollow : others.follow location with
      | error cause => rfl
      | ok place =>
        have hplace : others.place? path = some place :=
          place?_eq_some_iff.2 ⟨location, hspot, hfollow⟩
        exact h.expectTarget_eq hmade ((h.place?_eq path).2.symm.trans hplace)
    · rfl

/-- **Writing** succeeds in both or in neither. From then on the two are the same there. -/
theorem write_matched (hreaches : origin.Reaches path) (bytes : ByteArray) :
    Matched (fun files' others' => ∃ place, origin.place? path = some place ∧
        InStep origin (places \ {place}) files' others')
      (files.write path bytes) (others.write path bytes) := by
  rw [write, write, ← h.locateTarget_eq hmade hreaches]
  apply Matched.bind
  intro found hfound
  exact .ok (h.store_found hfound bytes)

/-- **Copying** a source at which the two do not differ. -/
theorem copy_matched {source : Path} {exported : Location}
    (hsource : origin.place? source = some exported) (hnotMem : exported ∉ places)
    (hreaches : origin.Reaches path) :
    Matched (fun files' others' => ∃ place, origin.place? path = some place ∧
        InStep origin (places \ {place}) files' others')
      (files.copy source path) (others.copy source path) := by
  rw [copy, copy, ← h.locateSource_eq hsource hnotMem, ← h.locateTarget_eq hmade hreaches]
  apply Matched.bind
  intro located hlocated
  rw [locateSource_eq_ok_iff, (h.place?_eq source).1, hsource] at hlocated
  obtain rfl := Option.some.inj hlocated.1
  apply Matched.bind
  intro found hfound
  -- emptying the target leaves the two alike at the source, whether that is the target or not
  have hbytes := (h.toDifferIn.store found .empty).bytesAt_eq fun hmem => hnotMem hmem.1
  show Matched _ (.ok ((files.store found .empty).store found _))
    (.ok ((others.store found .empty).store found _))
  rw [hbytes, store_store, store_store]
  exact .ok (h.store_found hfound _)

end Write

end InStep

end MeshScript.FileSystem
