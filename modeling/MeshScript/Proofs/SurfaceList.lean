import MeshScript.SurfaceList
import MeshScript.Proofs.Text.Lines
import Mathlib.Data.List.TakeWhile
/-!
# MeshScript.Proofs.SurfaceList -- the brace group of a line

`ofLine?_eq_some_iff` says which lines give a surface list, and which list, by cutting the
line at two braces; the scan with `takeWhile` and `dropWhile` is not needed any more
behind it.

A line may have many braces, and can be read as a brace group in as many ways. The list is that
of the leftmost shortest group (`Text.IsFirstGroup`), and such a group is the one cut of the line
with no opening brace before it and no closing one inside (`Text.isFirstGroup_iff`).
-/

namespace MeshScript

namespace Text

/-- **The line has a brace group**: an opening brace, and a closing one somewhere behind. -/
def HasBraces (line : Text) : Prop :=
  ∃ front middle back, line = front ++ '{' :: (middle ++ '}' :: back)

/-! ## The first of several groups -/

/-- **The line cut at its first brace group**: no opening brace before it, no closing one in it. -/
structure CutAtBraces (line front raw back : Text) : Prop where
  line_eq : line = front ++ '{' :: (raw ++ '}' :: back)
  open_notMem : '{' ∉ front
  close_notMem : '}' ∉ raw

/-- **The leftmost shortest group**: any characters between an opening and a closing brace, such
that no group starts further left and none that starts there ends earlier. -/
structure IsFirstGroup (line front raw back : Text) : Prop where
  line_eq : line = front ++ '{' :: (raw ++ '}' :: back)
  leftmost : ∀ front' raw' back', line = front' ++ '{' :: (raw' ++ '}' :: back') →
    front.length ≤ front'.length
  shortest : ∀ raw' back', line = front ++ '{' :: (raw' ++ '}' :: back') →
    raw.length ≤ raw'.length

/-- A text without a character ends before the first place of that character. -/
theorem length_le_of_append_eq {front rest front' rest' : Text} {c : Char} (h : c ∉ front)
    (heq : front ++ rest = front' ++ c :: rest') : front.length ≤ front'.length := by
  rcases List.append_eq_append_iff.1 heq with ⟨gap, rfl, -⟩ | ⟨gap, rfl, hgap⟩
  · rw [List.length_append]
    omega
  · cases gap with
    | nil => rw [List.append_nil]
    | cons d gap =>
      -- the character would be the first one of the gap, which belongs to the text
      obtain ⟨rfl, -⟩ := List.cons.inj hgap
      simp at h

/-- **The leftmost shortest group is the cut** at the first opening brace and the first closing one
behind it. -/
theorem isFirstGroup_iff {line front raw back : Text} :
    line.IsFirstGroup front raw back ↔ line.CutAtBraces front raw back := by
  constructor
  · rintro ⟨hline, hleftmost, hshortest⟩
    refine ⟨hline, fun hopen => ?_, fun hclose => ?_⟩
    · -- an opening brace in front would start a group further left
      obtain ⟨before, behind, rfl, -⟩ := List.eq_append_cons_of_mem hopen
      have hle := hleftmost before (behind ++ '{' :: raw) back (by simp [hline])
      rw [List.length_append, List.length_cons] at hle
      omega
    · -- a closing brace inside would end the group earlier
      obtain ⟨before, behind, rfl, -⟩ := List.eq_append_cons_of_mem hclose
      have hle := hshortest before (behind ++ '}' :: back) (by simp [hline])
      rw [List.length_append, List.length_cons] at hle
      omega
  · rintro ⟨rfl, hopen, hclose⟩
    refine ⟨rfl, fun front' raw' back' heq => length_le_of_append_eq hopen heq, ?_⟩
    intro raw' back' heq
    obtain ⟨-, hrest⟩ := List.cons.inj (List.append_cancel_left heq)
    exact length_le_of_append_eq hclose hrest

/-- There is one such cut at most. -/
theorem CutAtBraces.unique {line front raw back front' raw' back' : Text}
    (h : line.CutAtBraces front raw back) (h' : line.CutAtBraces front' raw' back') :
    front = front' ∧ raw = raw' ∧ back = back' := by
  obtain ⟨hfront, hrest⟩ := append_cons_inj_of_first h.open_notMem h'.open_notMem
    (h.line_eq.symm.trans h'.line_eq)
  exact ⟨hfront, append_cons_inj_of_first h.close_notMem h'.close_notMem hrest⟩

end Text

namespace SurfaceList

/-! ## The scan for the group -/

/-- The test that finds a character passes over a text without it. -/
theorem all_ne_of_notMem {front : Text} {c : Char} (h : c ∉ front) :
    ∀ d ∈ front, decide (d ≠ c) = true := by
  intro d hd
  exact decide_eq_true fun heq => h (heq ▸ hd)

/-- A text is scanned up to the first place of a character. -/
theorem takeWhile_ne_append {front : Text} {c : Char} (h : c ∉ front) (rest : Text) :
    (front ++ c :: rest).takeWhile (· ≠ c) = front := by
  rw [List.takeWhile_append_of_pos (all_ne_of_notMem h)]
  simp

/-- The brace group of a line whose first opening brace is known. -/
theorem ofLine?_append {front : Text} (h : '{' ∉ front) (rest : Text) :
    ofLine? (front ++ '{' :: rest) =
      if '}' ∈ rest then some ⟨rest.takeWhile (· ≠ '}'), closed_takeWhile rest⟩ else none := by
  have hdrop : (front ++ '{' :: rest).dropWhile (· ≠ '{') = '{' :: rest := by
    rw [List.dropWhile_append_of_pos (all_ne_of_notMem h)]
    simp
  unfold ofLine?
  rw [hdrop]

theorem ofLine?_of_notMem {line : Text} (h : '{' ∉ line) : ofLine? line = none := by
  unfold ofLine?
  rw [List.dropWhile_eq_nil_iff.2 (all_ne_of_notMem h)]

/-- **A line gives a surface list** exactly when it can be cut into a part without an
opening brace, that brace, the list, a closing brace and any rest. -/
theorem ofLine?_eq_some_iff {line : Text} {surfaces : SurfaceList} :
    ofLine? line = some surfaces ↔
      ∃ front back, line = front ++ '{' :: (surfaces.raw ++ '}' :: back) ∧ '{' ∉ front := by
  constructor
  · intro h
    by_cases hopen : '{' ∈ line
    · obtain ⟨front, rest, rfl, hfront⟩ := List.eq_append_cons_of_mem hopen
      rw [ofLine?_append hfront] at h
      by_cases hclose : '}' ∈ rest
      · rw [if_pos hclose] at h
        obtain rfl := Option.some.inj h
        obtain ⟨raw, back, rfl, hraw⟩ := List.eq_append_cons_of_mem hclose
        exact ⟨front, back, by simp only [takeWhile_ne_append hraw], hfront⟩
      · rw [if_neg hclose] at h
        exact absurd h (by simp)
    · rw [ofLine?_of_notMem hopen] at h
      exact absurd h (by simp)
  · rintro ⟨front, back, rfl, hfront⟩
    rw [ofLine?_append hfront, if_pos (by simp)]
    simp only [takeWhile_ne_append surfaces.closed]

/-- The list of a line is what stands between its first braces. -/
theorem map_raw_ofLine?_eq_some_iff {line raw : Text} :
    (ofLine? line).map (·.raw) = some raw ↔ ∃ front back, line.CutAtBraces front raw back := by
  rw [Option.map_eq_some_iff]
  constructor
  · rintro ⟨surfaces, hsurfaces, rfl⟩
    obtain ⟨front, back, hline, hfront⟩ := ofLine?_eq_some_iff.1 hsurfaces
    exact ⟨front, back, hline, hfront, surfaces.closed⟩
  · rintro ⟨front, back, hline, hfront, hraw⟩
    exact ⟨⟨raw, hraw⟩, ofLine?_eq_some_iff.2 ⟨front, back, hline, hfront⟩, rfl⟩

/-- A line that cannot be cut so has no list. -/
theorem ofLine?_eq_none_iff {line : Text} :
    ofLine? line = none ↔ ¬ ∃ front raw back, line.CutAtBraces front raw back := by
  have hgroup : (∃ front raw back, line.CutAtBraces front raw back) ↔
      ∃ raw, (ofLine? line).map (·.raw) = some raw := by
    simp only [map_raw_ofLine?_eq_some_iff]
    exact exists_comm
  rw [hgroup, ← Option.isSome_iff_exists, Option.isSome_map, Option.not_isSome_iff_eq_none]

/-- The list is a part of its line. -/
theorem raw_infix_of_ofLine? {line : Text} {surfaces : SurfaceList}
    (h : ofLine? line = some surfaces) : surfaces.raw <:+: line := by
  obtain ⟨front, back, rfl, -⟩ := ofLine?_eq_some_iff.1 h
  refine ⟨front ++ ['{'], '}' :: back, ?_⟩
  simp

/-- The brace group found first is there as soon as there is any. -/
theorem isSome_ofLine?_iff {line : Text} : (ofLine? line).isSome = true ↔ line.HasBraces := by
  constructor
  · intro h
    obtain ⟨surfaces, hsurfaces⟩ := Option.isSome_iff_exists.1 h
    obtain ⟨front, back, hcut, -⟩ := ofLine?_eq_some_iff.1 hsurfaces
    exact ⟨front, surfaces.raw, back, hcut⟩
  · rintro ⟨front, middle, back, rfl⟩
    by_cases hopen : '{' ∈ front
    -- an opening brace further in front has the same closing one behind it
    · obtain ⟨first, rest, rfl, hfirst⟩ := List.eq_append_cons_of_mem hopen
      rw [List.append_assoc, List.cons_append, ofLine?_append hfirst, if_pos (by simp)]
      rfl
    · rw [ofLine?_append hopen, if_pos (by simp)]
      rfl

/-- The brace group of a line does not see a carriage return at the end of the line. -/
theorem ofLine?_dropReturn (line : Text) : ofLine? (Text.dropReturn line) = ofLine? line := by
  apply Text.apply_dropReturn
  intro line
  ext surfaces
  rw [ofLine?_eq_some_iff, ofLine?_eq_some_iff]
  constructor
  · rintro ⟨front, back, heq, hfront⟩
    -- the carriage return is behind the closing brace, in the part that does not matter
    rcases List.eq_nil_or_concat back with rfl | ⟨back, c, rfl⟩
    · have hlast : line ++ ['\r'] = (front ++ '{' :: surfaces.raw) ++ ['}'] := by
        simpa using heq
      exact absurd (List.append_inj' hlast rfl).2 (by decide)
    · have hlast : line ++ ['\r'] = (front ++ '{' :: (surfaces.raw ++ '}' :: back)) ++ [c] := by
        simpa using heq
      exact ⟨front, back, (List.append_inj' hlast rfl).1, hfront⟩
  · rintro ⟨front, back, rfl, hfront⟩
    exact ⟨front, back ++ ['\r'], by simp, hfront⟩

end SurfaceList

end MeshScript
