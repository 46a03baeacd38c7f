import MeshScript.Text.Search
import Mathlib.Data.List.Basic
/-!
# MeshScript.Proofs.Text.Occurrence -- where a substring can stand

The tables of this library are matched by substring, so every theorem about an edited
line comes down to four questions about occurrences, which are answered here once:

* does an occurrence survive when a character that it lacks is put behind the text, or the text
  is cut at one (`infix_concat_iff_of_notMem`, `replaceAll_append_cons`);
* can a replacement make an occurrence that was not there, or leave one
  (`infix_of_infix_replaceAll`, `not_infix_replaceAll`: not if the text written and the
  occurrence share no character);
* in which part of a text is an occurrence that lacks the character between the parts
  (`infix_append_cons_of_notMem`);
* what can stand between quotes in a text with only two of them
  (`eq_of_quoted_infix`).

`scan_induction` is the induction along the scan of `replaceAll`: the text either starts
with an occurrence or loses its first character. `piece_induction` goes along the pieces of a text
between separators.
-/

namespace MeshScript.Text

/-! ## Induction along the scan -/

/-- **Induction along two scans at once.** A property of texts that passes over one occurrence of
either needle, and over one character where neither starts, holds of all texts. -/
theorem scan_induction_two {first second : Text} (hfirst : first ≠ []) (hsecond : second ≠ [])
    {P : Text → Prop}
    (nil : P [])
    (left : ∀ rest, P rest → P (first ++ rest))
    (right : ∀ rest, P rest → P (second ++ rest))
    (other : ∀ c rest, ¬ first <+: c :: rest → ¬ second <+: c :: rest → P rest → P (c :: rest)) :
    ∀ text, P text := by
  -- behind an occurrence the text is shorter
  have hshorter : ∀ {needle tail text : Text}, needle ≠ [] → needle ++ tail = text →
      tail.length < text.length := by
    intro needle tail text hne htail
    have hpos : 0 < needle.length := List.length_pos_of_ne_nil hne
    rw [← htail, List.length_append]
    omega
  intro text
  induction hn : text.length using Nat.strongRecOn generalizing text with
  | ind n ih =>
    subst hn
    cases text with
    | nil => exact nil
    | cons c rest =>
      by_cases hstart : first <+: c :: rest
      · obtain ⟨tail, htail⟩ := hstart
        have htext := left tail (ih _ (hshorter hfirst htail) tail rfl)
        rwa [htail] at htext
      · by_cases hstart' : second <+: c :: rest
        · obtain ⟨tail, htail⟩ := hstart'
          have htext := right tail (ih _ (hshorter hsecond htail) tail rfl)
          rwa [htail] at htext
        · exact other c rest hstart hstart' (ih _ (by simp) rest rfl)

/-- **Induction along the scan of `replaceAll`.** A property of texts that passes over
one occurrence and over one character where none starts holds of all texts. -/
theorem scan_induction {needle : Text} (hne : needle ≠ []) {P : Text → Prop}
    (nil : P [])
    (occurrence : ∀ rest, P rest → P (needle ++ rest))
    (other : ∀ c rest, ¬ needle <+: c :: rest → P rest → P (c :: rest)) :
    ∀ text, P text :=
  scan_induction_two hne hne nil occurrence occurrence fun c rest hstart _ => other c rest hstart

/-! ## Induction along the pieces -/

/-- **Induction along the pieces between separators.** A property of texts that holds of a last
piece without the separator and passes over a piece with its separator holds of all texts. -/
theorem piece_induction (separator : Char) {P : Text → Prop}
    (last : ∀ piece : Text, separator ∉ piece → P piece)
    (cons : ∀ piece rest : Text, separator ∉ piece → P rest → P (piece ++ separator :: rest)) :
    ∀ text, P text := by
  intro text
  induction hn : text.length using Nat.strongRecOn generalizing text with
  | ind n ih =>
    subst hn
    by_cases hmem : separator ∈ text
    · obtain ⟨piece, rest, rfl, hpiece⟩ := List.eq_append_cons_of_mem hmem
      have hlength : rest.length < (piece ++ separator :: rest).length := by
        rw [List.length_append, List.length_cons]
        omega
      exact cons piece rest hpiece (ih _ hlength rest rfl)
    · exact last text hmem

/-! ## One more character at the end -/

/-- A character that the needle does not hold ends no occurrence. -/
theorem infix_concat_iff_of_notMem {needle text : Text} {c : Char} (h : c ∉ needle) :
    needle <:+: text ++ [c] ↔ needle <:+: text := by
  rw [List.infix_concat_iff, List.suffix_concat_iff]
  constructor
  · rintro ((rfl | ⟨t, rfl, _⟩) | hin)
    · exact List.nil_infix
    · simp at h
    · exact hin
  · exact Or.inr

/-- What starts a text ends before a character that it does not hold. -/
theorem prefix_append_cons_iff_of_notMem {needle front back : Text} {c : Char} (h : c ∉ needle) :
    needle <+: front ++ c :: back ↔ needle <+: front := by
  refine ⟨fun hin => ?_, fun hin => hin.trans (List.prefix_append front _)⟩
  induction front generalizing needle with
  | nil =>
    cases needle with
    | nil => exact List.nil_prefix
    | cons d needle =>
      obtain ⟨rfl, -⟩ := List.cons_prefix_cons.1 hin
      exact absurd List.mem_cons_self h
  | cons d front ih =>
    cases needle with
    | nil => exact List.nil_prefix
    | cons e needle =>
      obtain ⟨rfl, hrest⟩ := List.cons_prefix_cons.1 hin
      have hnotMem : c ∉ needle := fun hmem => h (List.mem_cons_of_mem e hmem)
      exact List.cons_prefix_cons.2 ⟨rfl, ih hnotMem hrest⟩

/-- The substring test does not see a character that the needle does not hold. -/
theorem includes_concat {needle text : Text} {c : Char} (h : c ∉ needle) :
    (text ++ [c]).includes needle = text.includes needle := by
  rw [Bool.eq_iff_iff, includes_iff, includes_iff, infix_concat_iff_of_notMem h]

/-! ## Replacement -/

/-- Without an occurrence nothing is replaced. -/
theorem replaceAll_eq_self {needle text : Text} (h : ¬ needle <:+: text) (new : Text) :
    replaceAll text needle new = text := by
  induction text with
  | nil => exact replaceAll_nil needle new
  | cons c rest ih =>
    rw [List.infix_cons_iff, not_or] at h
    rw [replaceAll_cons h.1, ih h.2]

/-- Nothing is replaced in a text that does not hold the first character of the needle. -/
theorem replaceAll_append_of_notMem {c : Char} {front : Text} (h : c ∉ front)
    (needle new back : Text) :
    replaceAll (front ++ back) (c :: needle) new = front ++ replaceAll back (c :: needle) new := by
  induction front with
  | nil => rfl
  | cons d front ih =>
    rw [List.mem_cons, not_or] at h
    have hstart : ¬ c :: needle <+: d :: (front ++ back) := fun hstart =>
      h.1 (List.cons_prefix_cons.1 hstart).1
    rw [List.cons_append, replaceAll_cons hstart, ih h.2, List.cons_append]

/-- **A text is replaced part by part**, if it is cut at a character that the needle does not
hold. -/
theorem replaceAll_append_cons {needle : Text} {c : Char} (h : c ∉ needle)
    (new front back : Text) :
    replaceAll (front ++ c :: back) needle new =
      replaceAll front needle new ++ c :: replaceAll back needle new := by
  by_cases hne : needle = []
  · simp [replaceAll, hne]
  induction front using scan_induction hne with
  | nil =>
    have hstart : ¬ needle <+: c :: back := by
      have hcut : needle <+: [] ++ c :: back ↔ needle <+: [] :=
        prefix_append_cons_iff_of_notMem h
      rw [List.nil_append, List.prefix_nil] at hcut
      exact fun hin => hne (hcut.1 hin)
    rw [List.nil_append, replaceAll_cons hstart, replaceAll_nil, List.nil_append]
  | occurrence rest ih =>
    rw [List.append_assoc, replaceAll_append hne, ih, replaceAll_append hne, List.append_assoc]
  | other d rest hstart ih =>
    have hstart' : ¬ needle <+: d :: (rest ++ c :: back) := by
      rwa [← List.cons_append, prefix_append_cons_iff_of_notMem h]
    rw [List.cons_append, replaceAll_cons hstart', ih, replaceAll_cons hstart, List.cons_append]

/-- **A replacement keeps the count** of a character that is neither in the needle nor in what is
written over it. -/
theorem count_replaceAll {needle new : Text} {c : Char} (h : c ∉ needle) (hnew : c ∉ new)
    (text : Text) : (replaceAll text needle new).count c = text.count c := by
  by_cases hne : needle = []
  · simp [replaceAll, hne]
  induction text using scan_induction hne with
  | nil => rw [replaceAll_nil]
  | occurrence rest ih =>
    rw [replaceAll_append hne, List.count_append, List.count_append, ih,
      List.count_eq_zero_of_not_mem h, List.count_eq_zero_of_not_mem hnew]
  | other d rest hstart ih =>
    rw [replaceAll_cons hstart, List.count_cons, List.count_cons, ih]

/-- An occurrence starts behind a text that does not hold its first character. -/
theorem cons_infix_of_infix_append {c : Char} {found front back : Text} (h : c ∉ front)
    (hin : c :: found <:+: front ++ back) : c :: found <:+: back := by
  induction front with
  | nil => exact hin
  | cons d front ih =>
    rw [List.mem_cons, not_or] at h
    rw [List.cons_append, List.infix_cons_iff] at hin
    rcases hin with hstart | hin
    · exact absurd (List.cons_prefix_cons.1 hstart).1 h.1
    · exact ih h.2 hin

/-- An occurrence that shares no character with the text in front starts behind it. -/
theorem infix_of_infix_append {found front back : Text} (hd : List.Disjoint front found)
    (h : found <:+: front ++ back) : found <:+: back := by
  cases found with
  | nil => exact List.nil_infix
  | cons c found =>
    exact cons_infix_of_infix_append (fun hmem => hd hmem List.mem_cons_self) h

/-- What starts the replaced text, and shares no character with the text written, starts
the text as it was. -/
theorem prefix_of_prefix_replaceAll {needle new : Text} (hne : needle ≠ []) (hnew : new ≠ [])
    (text : Text) : ∀ {found : Text}, List.Disjoint new found →
      found <+: replaceAll text needle new → found <+: text := by
  induction text using scan_induction hne with
  | nil =>
    intro found _ h
    rwa [replaceAll_nil] at h
  | occurrence rest _ =>
    intro found hd h
    rw [replaceAll_append hne] at h
    cases found with
    | nil => exact List.nil_prefix
    | cons d found =>
      -- the first character of `found` would be the first one of `new`
      obtain ⟨e, new, rfl⟩ := List.exists_cons_of_ne_nil hnew
      obtain ⟨rfl, _⟩ := List.cons_prefix_cons.1 h
      exact absurd List.mem_cons_self (hd List.mem_cons_self)
  | other c rest hstart ih =>
    intro found hd h
    rw [replaceAll_cons hstart] at h
    cases found with
    | nil => exact List.nil_prefix
    | cons d found =>
      obtain ⟨rfl, hrest⟩ := List.cons_prefix_cons.1 h
      have hd' : List.Disjoint new found := fun e he hmem => hd he (List.mem_cons_of_mem d hmem)
      exact List.cons_prefix_cons.2 ⟨rfl, ih hd' hrest⟩

/-- **A replacement makes no occurrence** of a text that shares no character with what
it writes. -/
theorem infix_of_infix_replaceAll {needle new found text : Text} (hne : needle ≠ [])
    (hnew : new ≠ []) (hd : List.Disjoint new found)
    (h : found <:+: replaceAll text needle new) : found <:+: text := by
  induction text using scan_induction hne with
  | nil => rwa [replaceAll_nil] at h
  | occurrence rest ih =>
    rw [replaceAll_append hne] at h
    exact List.infix_append_of_infix_right (ih (infix_of_infix_append hd h))
  | other c rest hstart ih =>
    rw [replaceAll_cons hstart, List.infix_cons_iff, ← replaceAll_cons hstart] at h
    rcases h with hfirst | hin
    · exact (prefix_of_prefix_replaceAll hne hnew _ hd hfirst).isInfix
    · exact List.infix_cons (ih hin)

/-- **A replacement leaves no occurrence** of what it replaces, if that shares no character with
what is written over it. -/
theorem not_infix_replaceAll {needle new : Text} (hne : needle ≠ []) (hnew : new ≠ [])
    (hd : List.Disjoint new needle) (text : Text) : ¬ needle <:+: replaceAll text needle new := by
  induction text using scan_induction hne with
  | nil =>
    rw [replaceAll_nil, List.infix_nil]
    exact hne
  | occurrence rest ih =>
    rw [replaceAll_append hne]
    exact fun hin => ih (infix_of_infix_append hd hin)
  | other c rest hstart ih =>
    rw [replaceAll_cons hstart, List.infix_cons_iff, ← replaceAll_cons hstart, not_or]
    -- what starts the replaced text started the text before
    exact ⟨fun hfirst => hstart (prefix_of_prefix_replaceAll hne hnew _ hd hfirst), ih⟩

/-! ## Texts put together -/

/-- What stands behind the character at which two texts are put together stands in the whole. -/
theorem infix_append_cons_of_infix {found back : Text} (h : found <:+: back) (front : Text)
    (c : Char) : found <:+: front ++ c :: back :=
  h.trans ((List.suffix_cons c back).trans (List.suffix_append front _)).isInfix

/-- An occurrence without the character at which two texts are put together is in one of
them. -/
theorem infix_append_cons_of_notMem {found front back : Text} {c : Char} (h : c ∉ found)
    (hin : found <:+: front ++ c :: back) : found <:+: front ∨ found <:+: back := by
  -- what starts at the character is empty, since it would hold it
  have hnil : ∀ tail : Text, c ∉ tail → tail <+: c :: back → tail = [] := by
    intro tail hmem htail
    rcases List.prefix_cons_iff.1 htail with hnil | ⟨rest, rfl, -⟩
    · exact hnil
    · exact absurd List.mem_cons_self hmem
  rcases List.infix_append_iff.1 hin with hfront | hback | ⟨head, tail, rfl, hhead, htail⟩
  · exact Or.inl hfront
  · rcases List.infix_cons_iff.1 hback with hstart | hback
    · rw [hnil found h hstart]
      exact Or.inl List.nil_infix
    · exact Or.inr hback
  · rw [hnil tail (fun hmem => h (List.mem_append_right _ hmem)) htail, List.append_nil]
    exact Or.inl hhead.isInfix

/-! ## Between quotes -/

/-- A text is cut at the first place of a character in one way only. -/
theorem append_cons_inj_of_first {front front' back back' : Text} {c : Char}
    (h : c ∉ front) (h' : c ∉ front') (heq : front ++ c :: back = front' ++ c :: back') :
    front = front' ∧ back = back' := by
  rcases List.append_eq_append_iff.1 heq with ⟨gap, hgap, heq'⟩ | ⟨gap, hgap, heq'⟩ <;>
    cases gap with
    | nil => simp_all
    | cons d gap =>
      rw [List.cons_append, List.cons.injEq] at heq'
      simp [hgap, heq'.1] at h h'

/-- In a text with only two quotes nothing else is quoted but what stands between them. -/
theorem eq_of_quoted_infix {token front middle back : Text} {quote : Char}
    (hfront : quote ∉ front) (hmiddle : quote ∉ middle) (hback : quote ∉ back)
    (htoken : quote ∉ token)
    (h : quote :: token ++ [quote] <:+: front ++ quote :: middle ++ quote :: back) :
    token = middle := by
  obtain ⟨before, after, heq⟩ := h
  -- both sides have two quotes, so none is left for the part before the token
  have hcount : List.count quote before = 0 := by
    have := congrArg (List.count quote) heq
    simp only [List.count_append, List.count_cons_self, List.count_nil,
      List.count_eq_zero_of_not_mem hfront, List.count_eq_zero_of_not_mem hmiddle,
      List.count_eq_zero_of_not_mem hback, List.count_eq_zero_of_not_mem htoken] at this
    omega
  have hbefore : quote ∉ before := List.count_eq_zero.1 hcount
  -- the first quotes of both sides are the same one, and so are the second ones
  have hfirst : token ++ quote :: after = middle ++ quote :: back := by
    refine (append_cons_inj_of_first hbefore hfront ?_).2
    simpa using heq
  exact (append_cons_inj_of_first htoken hmiddle hfirst).1

end MeshScript.Text
