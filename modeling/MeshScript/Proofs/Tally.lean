import MeshScript.Tally
import Mathlib.Data.List.Induction
import Mathlib.Data.List.Count
/-!
# MeshScript.Proofs.Tally -- a tally counts

A tally that starts empty and only ever counts one name more keeps its entries in order, so a
name has one entry at most. `lookup_ofNames` says what is found there: the number of times the
name was counted, and no entry at all if that is zero.
-/

namespace MeshScript.Tally

/-! ## One entry -/

/-- **Sorted entries**: the names increase, so none of them occurs twice. -/
def Sorted (entries : List (Text × Nat)) : Prop :=
  entries.Pairwise fun entry later => compare entry.1 later.1 = .lt

/-- What an insertion leaves has the new name or a name that was there. -/
theorem name_mem_insertEntry {name : Text} {amount : Nat} {entries : List (Text × Nat)}
    {entry : Text × Nat} (h : entry ∈ insertEntry name amount entries) :
    entry.1 = name ∨ ∃ old ∈ entries, entry.1 = old.1 := by
  induction entries with
  | nil =>
    obtain rfl := List.mem_singleton.1 h
    exact Or.inl rfl
  | cons head rest ih =>
    obtain ⟨other, count⟩ := head
    unfold insertEntry at h
    split at h
    · rcases List.mem_cons.1 h with rfl | hold
      · exact Or.inl rfl
      · exact Or.inr ⟨entry, hold, rfl⟩
    · rcases List.mem_cons.1 h with rfl | hold
      · exact Or.inr ⟨_, List.mem_cons_self, rfl⟩
      · exact Or.inr ⟨entry, List.mem_cons_of_mem _ hold, rfl⟩
    · rcases List.mem_cons.1 h with rfl | hrest
      · exact Or.inr ⟨_, List.mem_cons_self, rfl⟩
      · rcases ih hrest with hname | ⟨old, hold, hname⟩
        · exact Or.inl hname
        · exact Or.inr ⟨old, List.mem_cons_of_mem _ hold, hname⟩

/-- **An insertion keeps the order.** -/
theorem sorted_insertEntry {entries : List (Text × Nat)} (h : Sorted entries) (name : Text)
    (amount : Nat) : Sorted (insertEntry name amount entries) := by
  induction entries with
  | nil => exact List.pairwise_singleton _ _
  | cons head rest ih =>
    obtain ⟨other, count⟩ := head
    obtain ⟨hhead, hrest⟩ := List.pairwise_cons.1 h
    unfold insertEntry
    cases hcompare : compare name other with
    | lt =>
      refine List.pairwise_cons.2 ⟨?_, h⟩
      intro entry hmem
      rcases List.mem_cons.1 hmem with rfl | hmem
      · exact hcompare
      · exact Std.TransCmp.lt_trans hcompare (hhead entry hmem)
    | eq => exact List.pairwise_cons.2 ⟨hhead, hrest⟩
    | gt =>
      refine List.pairwise_cons.2 ⟨?_, ih hrest⟩
      intro entry hmem
      rcases name_mem_insertEntry hmem with hname | ⟨old, hold, hname⟩
      · rw [hname]
        exact Std.OrientedCmp.gt_iff_lt.1 hcompare
      · rw [hname]
        exact hhead old hold

/-- Another name is found as before. -/
theorem lookup_insertEntry_of_ne {name other : Text} (h : other ≠ name) (amount : Nat)
    (entries : List (Text × Nat)) :
    (insertEntry name amount entries).lookup other = entries.lookup other := by
  have hbeq : (other == name) = false := beq_false_of_ne h
  induction entries with
  | nil => simp [insertEntry, List.lookup_cons, hbeq]
  | cons head rest ih =>
    obtain ⟨first, count⟩ := head
    unfold insertEntry
    cases hcompare : compare name first with
    | lt => rw [List.lookup_cons, hbeq]
    | eq =>
      obtain rfl := Std.compare_eq_iff_eq.1 hcompare
      simp only [List.lookup_cons, hbeq]
    | gt => simp only [List.lookup_cons, ih]

/-- **The name inserted** is found with the amount added to what it had. -/
theorem lookup_insertEntry_self {entries : List (Text × Nat)} (h : Sorted entries) (name : Text)
    (amount : Nat) : (insertEntry name amount entries).lookup name =
      some ((entries.lookup name).getD 0 + amount) := by
  induction entries with
  | nil => simp [insertEntry]
  | cons head rest ih =>
    obtain ⟨other, count⟩ := head
    obtain ⟨hhead, hrest⟩ := List.pairwise_cons.1 h
    unfold insertEntry
    cases hcompare : compare name other with
    | lt =>
      -- all names in the list come later, so this one is not among them
      have habsent : List.lookup name ((other, count) :: rest) = none := by
        rw [List.lookup_eq_none_iff]
        intro entry hmem
        have hlater : compare name entry.1 = .lt := by
          rcases List.mem_cons.1 hmem with rfl | hmem
          · exact hcompare
          · exact Std.TransCmp.lt_trans hcompare (hhead entry hmem)
        have hdiffer : name ≠ entry.1 := by
          intro heq
          rw [Std.compare_eq_iff_eq.2 heq] at hlater
          cases hlater
        exact bne_iff_ne.2 hdiffer
      simp [habsent]
    | eq =>
      obtain rfl := Std.compare_eq_iff_eq.1 hcompare
      simp
    | gt =>
      have hdiffer : (name == other) = false := by
        refine beq_false_of_ne fun heq => ?_
        rw [Std.compare_eq_iff_eq.2 heq] at hcompare
        cases hcompare
      simp only [List.lookup_cons, hdiffer, ih hrest]

/-! ## Counting one by one -/

/-- **The tally of a list of names**, each counted once for each time it occurs. -/
def ofNames (names : List Text) : Tally :=
  names.foldl increment .empty

theorem ofNames_concat (names : List Text) (name : Text) :
    ofNames (names ++ [name]) = (ofNames names).increment name :=
  List.foldl_append

theorem foldl_increment_ofNames (front back : List Text) :
    back.foldl increment (ofNames front) = ofNames (front ++ back) :=
  List.foldl_append.symm

theorem sorted_ofNames (names : List Text) : Sorted (ofNames names).entries := by
  induction names using List.reverseRecOn with
  | nil => exact List.Pairwise.nil
  | append_singleton names name ih =>
    rw [ofNames_concat]
    exact sorted_insertEntry ih name 1

/-- **What a tally holds**: the number of times a name was counted; a name that was never counted
has no entry. -/
theorem lookup_ofNames (names : List Text) (name : Text) :
    (ofNames names).entries.lookup name =
      if name ∈ names then some (names.count name) else none := by
  induction names using List.reverseRecOn with
  | nil => rfl
  | append_singleton names last ih =>
    rw [ofNames_concat]
    show (insertEntry last 1 (ofNames names).entries).lookup name = _
    by_cases hlast : name = last
    · subst hlast
      have hcount : (if name ∈ names then some (names.count name) else none).getD 0 =
          names.count name := by
        split
        · rfl
        · rename_i habsent
          rw [List.count_eq_zero_of_not_mem habsent]
          rfl
      rw [lookup_insertEntry_self (sorted_ofNames names), ih, hcount, if_pos (by simp),
        List.count_append, List.count_singleton_self]
    · have hmem : name ∈ names ++ [last] ↔ name ∈ names := by simp [hlast]
      rw [lookup_insertEntry_of_ne hlast, ih]
      simp only [hmem, List.count_append, List.count_singleton, beq_iff_eq, Ne.symm hlast, if_false,
        Nat.add_zero]

theorem count_ofNames (names : List Text) (name : Text) :
    (ofNames names).count name = names.count name := by
  rw [count, lookup_ofNames]
  split
  · rfl
  · rename_i habsent
    rw [List.count_eq_zero_of_not_mem habsent]
    rfl

end MeshScript.Tally
