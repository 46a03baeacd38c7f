/-!
# MeshScript.Text.Search -- substring tests and replacement

Every table of this library speaks about plain substrings, so the two operations
here carry all the matching there is:

* `Text.includes text needle` tests whether `needle` stands anywhere in `text`;
  `includes_iff` identifies it with the list relation `needle <:+: text`.
* `Text.replaceAll text needle new` scans from the left and goes on behind each
  occurrence, so occurrences that overlap an earlier one stay as they are.
  `replaceAll_append` and `replaceAll_cons` are its two equations; later proofs
  use them and never the scan itself.

No grammar of the script language is known here.
-/

namespace MeshScript

/-- **A text**: its characters, first to last. -/
abbrev Text := List Char

namespace Text

/-! ## Length in bytes -/

/-- The number of bytes of the text in UTF-8. -/
def byteLength (text : Text) : Nat :=
  text.foldl (fun n c => n + c.utf8Size) 0

/-! ## Substring test -/

/-- `needle` stands somewhere in the text. The empty needle stands everywhere. -/
def includes : Text → Text → Bool
  | [], needle => needle.isEmpty
  | c :: rest, needle => needle.isPrefixOf (c :: rest) || includes rest needle

theorem includes_iff {text needle : Text} :
    text.includes needle = true ↔ needle <:+: text := by
  induction text with
  | nil => cases needle <;> simp [includes]
  | cons c rest ih =>
    simp [includes, ih, List.infix_cons_iff]

/-! ## Replacement -/

/-- **The scan of `replaceAll`.** `skip` counts the characters of the occurrence
found last that have not been passed yet. -/
def replaceFrom (needle new : Text) : Nat → Text → Text
  | _, [] => []
  | skip + 1, _ :: rest => replaceFrom needle new skip rest
  | 0, c :: rest =>
    if needle.isPrefixOf (c :: rest) then
      new ++ replaceFrom needle new (needle.length - 1) rest
    else
      c :: replaceFrom needle new 0 rest

/-- Writes `new` over every occurrence of `needle`, leftmost first and without
overlaps. An empty needle replaces nothing. -/
def replaceAll (text needle new : Text) : Text :=
  if needle.isEmpty then text else replaceFrom needle new 0 text

theorem replaceFrom_length_append (needle new skipped rest : Text) :
    replaceFrom needle new skipped.length (skipped ++ rest) =
      replaceFrom needle new 0 rest := by
  induction skipped with
  | nil => rfl
  | cons c skipped ih => simpa [replaceFrom] using ih

@[simp] theorem replaceAll_nil (needle new : Text) : replaceAll [] needle new = [] := by
  unfold replaceAll
  split <;> rfl

/-- At an occurrence the new text is written and the scan goes on behind it. -/
theorem replaceAll_append {needle : Text} (h : needle ≠ []) (new rest : Text) :
    replaceAll (needle ++ rest) needle new = new ++ replaceAll rest needle new := by
  obtain ⟨c, tail, rfl⟩ := List.exists_cons_of_ne_nil h
  have starts : (c :: tail).isPrefixOf (c :: (tail ++ rest)) = true := by
    rw [List.isPrefixOf_iff_prefix, ← List.cons_append]
    exact List.prefix_append _ _
  simp [replaceAll, replaceFrom, starts, replaceFrom_length_append]

/-- Where no occurrence starts the character is kept. -/
theorem replaceAll_cons {needle : Text} {c : Char} {rest : Text}
    (h : ¬ needle <+: c :: rest) (new : Text) :
    replaceAll (c :: rest) needle new = c :: replaceAll rest needle new := by
  have starts : needle.isPrefixOf (c :: rest) = false := by
    simpa [← Bool.not_eq_true, List.isPrefixOf_iff_prefix] using h
  have nonempty : needle.isEmpty = false := by
    cases needle with
    | nil => simp at h
    | cons => rfl
  simp [replaceAll, replaceFrom, starts, nonempty]

end Text

end MeshScript
