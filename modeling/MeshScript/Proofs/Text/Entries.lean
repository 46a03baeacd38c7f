import MeshScript.Text.Blank
import MeshScript.Proofs.Text.Occurrence
import Mathlib.Data.List.DropRight
import Mathlib.Logic.Relation
/-!
# MeshScript.Proofs.Text.Entries -- lists of entries between commas

The entries of a list are what stands between its commas, trimmed, and those of which nothing is
left do not count. Different texts can therefore list the same entries, and this module says which
ones do. An `Insertion` puts white space or an empty entry at an end of the list or next to a comma,
and a list is `Padded` by any number of insertions. Padding keeps the entries (`entries_of_padded`),
and every list is made by padding from its entries with a bare comma between any two
(`padded_entries`). Hence two lists have the same entries exactly if both are made by padding from
one (`entries_eq_iff`).

What the proofs use of an insertion is its place: there the list falls into two lists, whose entries
it has one after the other (`entries_append_of_isEdge`), as it does at a comma
(`entries_append_comma`).
-/

namespace MeshScript.Text

/-! ## Trimmed texts -/

/-- **A trimmed text** has white space at neither end. -/
structure IsTrimmed (text : Text) : Prop where
  head_not_space : ∀ c ∈ text.head?, isWhiteSpace c = false
  last_not_space : ∀ c ∈ text.getLast?, isWhiteSpace c = false

theorem isBlank_iff {text : Text} : text.isBlank = true ↔ ∀ c ∈ text, isWhiteSpace c = true :=
  List.all_eq_true

theorem isBlank_append {front back : Text} (hfront : front.isBlank = true)
    (hback : back.isBlank = true) : (front ++ back).isBlank = true := by
  rw [isBlank, List.all_append, Bool.and_eq_true]
  exact ⟨hfront, hback⟩

/-- What stands between white space and white space is found by trimming. -/
theorem trim_append {lead core trail : Text} (hlead : lead.isBlank = true)
    (hcore : core.IsTrimmed) (htrail : trail.isBlank = true) :
    trim (lead ++ (core ++ trail)) = core := by
  have hstart : trimStart (lead ++ (core ++ trail)) = trimStart (core ++ trail) :=
    List.dropWhile_append_of_pos (isBlank_iff.1 hlead)
  rw [trim, hstart]
  cases core with
  | nil =>
    have hnil : trimStart trail = [] := List.dropWhile_eq_nil_iff.2 (isBlank_iff.1 htrail)
    rw [List.nil_append, hnil]
    rfl
  | cons c rest =>
    have hfirst : isWhiteSpace c = false := hcore.head_not_space c rfl
    have hlast : ¬ isWhiteSpace ((c :: rest).getLast (by simp)) = true := by
      rw [hcore.last_not_space _ (List.getLast_mem_getLast? _)]
      exact Bool.false_ne_true
    have hkept : trimStart ((c :: rest) ++ trail) = (c :: rest) ++ trail :=
      List.dropWhile_cons_of_neg (by simp [hfirst])
    have hblank : ∀ d ∈ trail.reverse, isWhiteSpace d = true := fun d hd =>
      isBlank_iff.1 htrail d (List.mem_reverse.1 hd)
    rw [hkept, trimEnd, List.reverse_append, List.dropWhile_append_of_pos hblank]
    exact List.rdropWhile_eq_self_iff.2 fun _ => hlast

theorem isTrimmed_trim (text : Text) : (trim text).IsTrimmed := by
  constructor
  · intro c hc
    obtain ⟨rest, hrest⟩ := List.head?_eq_some_iff.1 hc
    -- the text starts where taking white space off its start has stopped
    have hprefix : trim text <+: text.trimStart := List.rdropWhile_prefix _ _
    rw [hrest] at hprefix
    obtain ⟨trail, htrail⟩ := hprefix
    have hstop := List.head?_dropWhile_not isWhiteSpace text
    rwa [← trimStart, ← htrail] at hstop
  · intro c hc
    obtain ⟨hne, rfl⟩ := List.mem_getLast?_eq_getLast hc
    exact Bool.eq_false_iff.2 (List.rdropWhile_last_not isWhiteSpace text.trimStart hne)

/-- Around the trimmed text is nothing but white space. -/
theorem exists_eq_append_trim (text : Text) :
    ∃ lead trail, lead.isBlank = true ∧ trail.isBlank = true ∧
      text = lead ++ (trim text ++ trail) := by
  refine ⟨text.takeWhile isWhiteSpace, text.trimStart.rtakeWhile isWhiteSpace, ?_, ?_, ?_⟩
  · exact isBlank_iff.2 fun c => List.mem_takeWhile_imp
  · exact isBlank_iff.2 fun c => List.mem_rtakeWhile_imp
  · have hend : trim text ++ text.trimStart.rtakeWhile isWhiteSpace = text.trimStart :=
      List.rdropWhile_append_rtakeWhile
    rw [hend]
    exact List.takeWhile_append_dropWhile.symm

theorem infix_trim (text : Text) : trim text <:+: text := by
  obtain ⟨lead, trail, -, -, htext⟩ := exists_eq_append_trim text
  exact ⟨lead, trail, by rw [List.append_assoc, ← htext]⟩

theorem trim_blank_append {space : Text} (h : space.isBlank = true) (text : Text) :
    trim (space ++ text) = trim text := by
  obtain ⟨lead, trail, hlead, htrail, htext⟩ := exists_eq_append_trim text
  conv_lhs => rw [htext, ← List.append_assoc]
  exact trim_append (isBlank_append h hlead) (isTrimmed_trim text) htrail

theorem trim_append_blank {space : Text} (h : space.isBlank = true) (text : Text) :
    trim (text ++ space) = trim text := by
  obtain ⟨lead, trail, hlead, htrail, htext⟩ := exists_eq_append_trim text
  conv_lhs => rw [htext, List.append_assoc, List.append_assoc]
  exact trim_append hlead (isTrimmed_trim text) (isBlank_append htrail h)

/-! ## The entries of a list -/

/-- **The entries of a list**: what stands between its commas, without the white space around it;
entries of which nothing is left do not count. -/
def entries (list : Text) : List Text :=
  ((list.splitOn ',').map trim).filter (!·.isEmpty)

/-- **An entry**: a trimmed text that is not empty and holds no comma. -/
structure IsEntry (text : Text) : Prop extends text.IsTrimmed where
  ne_nil : text ≠ []
  comma_notMem : ',' ∉ text

/-- A comma ends one list and starts another. -/
theorem entries_append_comma (front back : Text) :
    entries (front ++ ',' :: back) = entries front ++ entries back := by
  rw [entries, List.splitOn_append_cons_self, List.map_append, List.filter_append, entries, entries]

theorem entries_of_notMem {piece : Text} (h : ',' ∉ piece) :
    entries piece = [trim piece].filter (!·.isEmpty) := by
  rw [entries, List.splitOn_eq_singleton h, List.map_singleton]

@[simp] theorem entries_nil : entries [] = [] := rfl

/-- A piece between commas has one entry or none. -/
theorem entries_cases {piece : Text} (h : ',' ∉ piece) :
    (trim piece = [] ∧ entries piece = []) ∨ (trim piece ≠ [] ∧ entries piece = [trim piece]) := by
  rw [entries_of_notMem h]
  cases trim piece with
  | nil => exact Or.inl ⟨rfl, rfl⟩
  | cons c rest => exact Or.inr ⟨List.cons_ne_nil c rest, rfl⟩

/-- An entry of a list is what trimming leaves of a piece between commas. -/
theorem exists_piece_of_mem_entries {list entry : Text} (h : entry ∈ entries list) :
    entry ≠ [] ∧ ∃ piece, ',' ∉ piece ∧ piece <:+: list ∧ trim piece = entry := by
  -- one piece has one entry at most
  have honly : ∀ {piece : Text}, ',' ∉ piece → entry ∈ entries piece →
      entry ≠ [] ∧ trim piece = entry := by
    intro piece hpiece hmem
    rcases entries_cases hpiece with ⟨-, hnone⟩ | ⟨hne, hone⟩
    · rw [hnone] at hmem
      exact absurd hmem List.not_mem_nil
    · rw [hone, List.mem_singleton] at hmem
      exact ⟨by rwa [hmem], hmem.symm⟩
  induction list using piece_induction ',' with
  | last piece hpiece =>
    obtain ⟨hne, htrim⟩ := honly hpiece h
    exact ⟨hne, piece, hpiece, List.infix_refl piece, htrim⟩
  | cons piece rest hpiece ih =>
    rw [entries_append_comma] at h
    rcases List.mem_append.1 h with hfirst | hrest
    · obtain ⟨hne, htrim⟩ := honly hpiece hfirst
      exact ⟨hne, piece, hpiece, (List.prefix_append piece _).isInfix, htrim⟩
    · obtain ⟨hne, other, hother, hin, htrim⟩ := ih hrest
      exact ⟨hne, other, hother, infix_append_cons_of_infix hin piece ',', htrim⟩

/-- Every entry of a list is one. -/
theorem isEntry_of_mem_entries {list entry : Text} (h : entry ∈ entries list) : entry.IsEntry := by
  obtain ⟨hne, piece, hpiece, -, rfl⟩ := exists_piece_of_mem_entries h
  exact ⟨isTrimmed_trim piece, hne, fun hmem => hpiece ((infix_trim piece).subset hmem)⟩

/-- Every entry of a list stands in it. -/
theorem infix_of_mem_entries {list entry : Text} (h : entry ∈ entries list) : entry <:+: list := by
  obtain ⟨-, piece, -, hin, rfl⟩ := exists_piece_of_mem_entries h
  exact (infix_trim piece).trans hin

theorem comma_notMem_of_isBlank {space : Text} (h : space.isBlank = true) : ',' ∉ space := by
  intro hmem
  exact absurd (isBlank_iff.1 h ',' hmem) (by decide)

theorem entries_blank_append {space : Text} (h : space.isBlank = true) (list : Text) :
    entries (space ++ list) = entries list := by
  -- the white space belongs to the first piece, which is trimmed
  have hfirst : ∀ {piece : Text}, ',' ∉ piece → entries (space ++ piece) = entries piece := by
    intro piece hpiece
    have hpiece' : ',' ∉ space ++ piece := by simp [comma_notMem_of_isBlank h, hpiece]
    rw [entries_of_notMem hpiece', entries_of_notMem hpiece, trim_blank_append h]
  by_cases hcomma : ',' ∈ list
  · obtain ⟨piece, rest, rfl, hpiece⟩ := List.eq_append_cons_of_mem hcomma
    rw [← List.append_assoc, entries_append_comma, entries_append_comma, hfirst hpiece]
  · exact hfirst hcomma

theorem entries_append_blank {space : Text} (h : space.isBlank = true) (list : Text) :
    entries (list ++ space) = entries list := by
  -- the white space belongs to the last piece
  induction list using piece_induction ',' with
  | last piece hpiece =>
    have hpiece' : ',' ∉ piece ++ space := by simp [comma_notMem_of_isBlank h, hpiece]
    rw [entries_of_notMem hpiece', entries_of_notMem hpiece, trim_append_blank h]
  | cons piece rest _ ih =>
    rw [List.append_assoc, List.cons_append, entries_append_comma, entries_append_comma, ih]

/-! ## Insertions -/

/-- **An edge**: the place between the two parts is an end of the list or stands next to a comma. -/
def IsEdge (front back : Text) : Prop :=
  front = [] ∨ front.getLast? = some ',' ∨ back = [] ∨ back.head? = some ','

instance (front back : Text) : Decidable (IsEdge front back) :=
  inferInstanceAs (Decidable (_ ∨ _))

/-- **One insertion** at an edge: white space, or an empty entry, which is one comma more. -/
inductive Insertion : Text → Text → Prop
  | space {front back : Text} (edge : IsEdge front back) (space : Text)
      (blank : space.isBlank = true) : Insertion (front ++ back) (front ++ (space ++ back))
  | emptyEntry {front back : Text} (edge : IsEdge front back) :
      Insertion (front ++ back) (front ++ ',' :: back)

/-- **A padded list** comes from the other by any number of insertions. -/
def Padded : Text → Text → Prop :=
  Relation.ReflTransGen Insertion

/-- A list that is cut at an edge has the entries of its two parts. -/
theorem entries_append_of_isEdge {front back : Text} (h : IsEdge front back) :
    entries (front ++ back) = entries front ++ entries back := by
  rcases h with rfl | hlast | rfl | hhead
  · rfl
  · obtain ⟨rest, rfl⟩ := List.getLast?_eq_some_iff.1 hlast
    rw [List.append_assoc, List.singleton_append, entries_append_comma, entries_append_comma,
      entries_nil, List.append_nil]
  · rw [List.append_nil, entries_nil, List.append_nil]
  · obtain ⟨rest, rfl⟩ := List.head?_eq_some_iff.1 hhead
    have hcomma : entries (',' :: rest) = entries rest := entries_append_comma [] rest
    rw [entries_append_comma, hcomma]

/-- Space put at an edge joins one of the two parts, and an edge is left towards the other. -/
theorem isEdge_space {front back : Text} (h : IsEdge front back) (space : Text) :
    IsEdge front (space ++ back) ∨ IsEdge (front ++ space) back := by
  rcases h with hnil | hlast | hnil | hhead
  · exact Or.inl (Or.inl hnil)
  · exact Or.inl (Or.inr (Or.inl hlast))
  · exact Or.inr (Or.inr (Or.inr (Or.inl hnil)))
  · exact Or.inr (Or.inr (Or.inr (Or.inr hhead)))

/-- **An insertion keeps the entries.** -/
theorem entries_of_insertion {list padded : Text} (h : Insertion list padded) :
    entries padded = entries list := by
  cases h with
  | @space front back edge space blank =>
    rw [entries_append_of_isEdge edge]
    rcases isEdge_space edge space with hback | hfront
    · rw [entries_append_of_isEdge hback, entries_blank_append blank]
    · rw [← List.append_assoc, entries_append_of_isEdge hfront, entries_append_blank blank]
  | emptyEntry edge => rw [entries_append_comma, entries_append_of_isEdge edge]

/-- **Padding keeps the entries.** -/
theorem entries_of_padded {list padded : Text} (h : Padded list padded) :
    entries padded = entries list := by
  induction h with
  | refl => rfl
  | tail _ hlast ih => exact (entries_of_insertion hlast).trans ih

/-- Padding adds white space and commas only. -/
theorem mem_padded_iff {list padded : Text} {c : Char} (hspace : isWhiteSpace c = false)
    (hcomma : c ≠ ',') (h : Padded list padded) : c ∈ padded ↔ c ∈ list := by
  induction h with
  | refl => rfl
  | tail _ hlast ih =>
    rw [← ih]
    cases hlast with
    | space _ space blank =>
      have hnot : c ∉ space := fun hmem =>
        Bool.false_ne_true (hspace.symm.trans (isBlank_iff.1 blank c hmem))
      simp [hnot]
    | emptyEntry => simp [hcomma]

/-! ## Every list is padded -/

/-- An edge of a part between commas is one of the whole list. -/
theorem IsEdge.within {front back : Text} (h : IsEdge front back) {first last : Text}
    (hfirst : first = [] ∨ first.getLast? = some ',')
    (hlast : last = [] ∨ last.head? = some ',') : IsEdge (first ++ front) (back ++ last) := by
  rcases h with rfl | hcomma | rfl | hcomma
  · rw [List.append_nil]
    exact hfirst.elim Or.inl fun hcomma => Or.inr (Or.inl hcomma)
  · refine Or.inr (Or.inl ?_)
    rw [List.getLast?_append, hcomma]
    rfl
  · exact Or.inr (Or.inr hlast)
  · refine Or.inr (Or.inr (Or.inr ?_))
    rw [List.head?_append, hcomma]
    rfl

theorem Insertion.within {list padded : Text} (h : Insertion list padded) {first last : Text}
    (hfirst : first = [] ∨ first.getLast? = some ',')
    (hlast : last = [] ∨ last.head? = some ',') :
    Insertion (first ++ (list ++ last)) (first ++ (padded ++ last)) := by
  cases h with
  | space edge space blank => simpa using Insertion.space (edge.within hfirst hlast) space blank
  | emptyEntry edge => simpa using Insertion.emptyEntry (edge.within hfirst hlast)

/-- **A part between commas** may be padded by itself. -/
theorem Padded.within {list padded : Text} (h : Padded list padded) {first last : Text}
    (hfirst : first = [] ∨ first.getLast? = some ',')
    (hlast : last = [] ∨ last.head? = some ',') :
    Padded (first ++ (list ++ last)) (first ++ (padded ++ last)) :=
  Relation.ReflTransGen.lift (fun part => first ++ (part ++ last))
    (fun _ _ hone => hone.within hfirst hlast) _ _ h

/-- The part in front of a comma and the part behind it may both be padded. -/
theorem Padded.append_comma {front front' back back' : Text} (hfront : Padded front front')
    (hback : Padded back back') : Padded (front ++ ',' :: back) (front' ++ ',' :: back') := by
  have hfirst : Padded (front ++ ',' :: back) (front' ++ ',' :: back) :=
    hfront.within (Or.inl rfl) (Or.inr rfl)
  have hsecond : Padded (front' ++ [','] ++ (back ++ [])) (front' ++ [','] ++ (back' ++ [])) :=
    hback.within (Or.inr (by simp)) (Or.inl rfl)
  rw [List.append_nil, List.append_nil, List.append_assoc, List.append_assoc] at hsecond
  exact hfirst.trans hsecond

/-- A text is its trimmed text, padded. -/
theorem padded_trim (text : Text) : Padded (trim text) text := by
  obtain ⟨lead, trail, hlead, htrail, htext⟩ := exists_eq_append_trim text
  have hstart : Insertion ([] ++ trim text) ([] ++ (lead ++ trim text)) :=
    .space (Or.inl rfl) lead hlead
  have hend : Insertion (lead ++ trim text ++ []) (lead ++ trim text ++ (trail ++ [])) :=
    .space (Or.inr (Or.inr (Or.inl rfl))) trail htrail
  rw [List.append_nil, List.append_nil, List.append_assoc, ← htext] at hend
  exact .tail (.single hstart) hend

/-- The first entry stands before a comma, also if it is the only one. -/
theorem padded_intercalate_cons (entry : Text) (rest : List Text) :
    Padded (List.intercalate [','] (entry :: rest))
      (entry ++ ',' :: List.intercalate [','] rest) := by
  cases rest with
  | nil =>
    have hcomma : Insertion (entry ++ []) (entry ++ [',']) :=
      .emptyEntry (Or.inr (Or.inr (Or.inl rfl)))
    rw [List.append_nil] at hcomma
    rw [List.intercalate_singleton]
    exact .single hcomma
  | cons second rest =>
    rw [List.intercalate_cons_cons, List.append_assoc]
    exact .refl

/-- **Every list is padded**: it comes from its entries with a bare comma between any two. -/
theorem padded_entries (list : Text) : Padded (List.intercalate [','] list.entries) list := by
  induction list using piece_induction ',' with
  | last piece hpiece =>
    have htrim : List.intercalate [','] piece.entries = trim piece := by
      rcases entries_cases hpiece with ⟨htrim, hnone⟩ | ⟨-, hone⟩
      · rw [hnone, htrim, List.intercalate_nil]
      · rw [hone, List.intercalate_singleton]
    rw [htrim]
    exact padded_trim piece
  | cons piece rest hpiece ih =>
    have hcut : Padded (List.intercalate [','] (piece.entries ++ rest.entries))
        (trim piece ++ ',' :: List.intercalate [','] rest.entries) := by
      rcases entries_cases hpiece with ⟨htrim, hnone⟩ | ⟨-, hone⟩
      · rw [hnone, htrim]
        exact .single (.emptyEntry (Or.inl rfl))
      · rw [hone]
        exact padded_intercalate_cons (trim piece) rest.entries
    rw [entries_append_comma]
    exact hcut.trans ((padded_trim piece).append_comma ih)

/-- **Two lists have the same entries** exactly if both are made by padding from one. -/
theorem entries_eq_iff {list other : Text} :
    other.entries = list.entries ↔ ∃ core, Padded core list ∧ Padded core other := by
  constructor
  · intro heq
    exact ⟨List.intercalate [','] list.entries, padded_entries list, heq ▸ padded_entries other⟩
  · rintro ⟨core, hlist, hother⟩
    rw [entries_of_padded hlist, entries_of_padded hother]

/-- Entries may be put together with white space behind the commas. -/
theorem padded_intercalate_space (listed : List Text) :
    Padded (List.intercalate [','] listed) (List.intercalate [',', ' '] listed) := by
  induction listed with
  | nil => exact .refl
  | cons entry rest ih =>
    cases rest with
    | nil =>
      rw [List.intercalate_singleton, List.intercalate_singleton]
      exact .refl
    | cons second rest =>
      rw [List.intercalate_cons_cons, List.intercalate_cons_cons, List.append_assoc,
        List.append_assoc]
      have hspace : Insertion ([] ++ List.intercalate [',', ' '] (second :: rest))
          ([] ++ ([' '] ++ List.intercalate [',', ' '] (second :: rest))) :=
        .space (Or.inl rfl) [' '] (by decide)
      exact Padded.append_comma .refl (ih.tail hspace)

end MeshScript.Text
