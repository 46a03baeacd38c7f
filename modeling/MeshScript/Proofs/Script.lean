import MeshScript.Script
import MeshScript.Proofs.Normalize.LineEnds
/-!
# MeshScript.Proofs.Script -- rendering a script and parsing its text

Parsing undoes rendering up to what a text cannot show: a line that holds line feeds comes back
as several lines, and a carriage return that ends up before a line feed is taken for a part of the
line end. `Script.parse_render` says what comes back for any script, so it is the same script
exactly if no line holds a line feed or ends in a carriage return (`Script.parse_render_eq_iff`).

In the other direction a text has the form that rendering gives it exactly if all its lines are
ended by a bare line feed (`Text.unlines_lines_eq_iff`). The proof goes down the lines of the
text: `Text.line_induction` is the induction along the scan of `Text.lines`.
-/

namespace MeshScript

namespace Text

/-! ## Induction along the lines of a text -/

/-- **Induction along the scan of `lines`.** A property of texts that holds of a last piece
without a line feed and passes over a line with its line feed holds of all texts. -/
theorem line_induction {P : Text → Prop}
    (unterminated : ∀ piece : Text, '\n' ∉ piece → P piece)
    (terminated : ∀ line rest : Text, '\n' ∉ line → P rest → P (line ++ '\n' :: rest)) :
    ∀ text, P text :=
  piece_induction '\n' unterminated terminated

/-- **A line that holds line feeds** is read as its pieces, whatever follows it. -/
theorem lines_append_feed (line rest : Text) :
    lines (line ++ '\n' :: rest) = (line.splitOn '\n').map dropReturn ++ lines rest := by
  induction line using line_induction with
  | unterminated piece hpiece =>
    rw [lines_append_newline hpiece, List.splitOn_eq_singleton hpiece]
    rfl
  | terminated front back hfront ih =>
    rw [List.append_assoc, List.cons_append, lines_append_newline hfront, ih,
      List.splitOn_append_cons_self, List.splitOn_eq_singleton hfront]
    rfl

/-- A line feed with a carriage return before it ends the first line, or stands behind that. -/
theorem returnFeed_infix_iff {line : Text} (h : '\n' ∉ line) (rest : Text) :
    ['\r', '\n'] <:+: line ++ '\n' :: rest ↔ line.EndsInReturn ∨ ['\r', '\n'] <:+: rest := by
  have hnot : ∀ {part : Text}, '\n' ∈ part → ¬ part <:+: line := fun hmem hin =>
    h (hin.subset hmem)
  have hstart : ¬ ['\r', '\n'] <+: '\n' :: rest := by simp [List.cons_prefix_cons]
  constructor
  · intro hin
    rcases List.infix_append_iff.1 hin with hline | hbehind | ⟨head, tail, hcut, hhead, htail⟩
    · exact absurd hline (hnot (by simp))
    · exact Or.inr ((List.infix_cons_iff.1 hbehind).resolve_left hstart)
    · -- the two characters stand on either side of the cut
      rcases head with _ | ⟨c, _ | ⟨d, head⟩⟩
      · obtain rfl : ['\r', '\n'] = tail := hcut
        exact absurd htail hstart
      · obtain ⟨rfl, -⟩ := List.cons.inj hcut
        obtain ⟨front, rfl⟩ := hhead
        exact Or.inl (by simp [EndsInReturn])
      · obtain ⟨-, hcut⟩ := List.cons.inj hcut
        obtain ⟨rfl, -⟩ := List.cons.inj hcut
        exact absurd hhead.isInfix (hnot (by simp))
  · rintro (hends | hrest)
    · refine ⟨dropReturn line, rest, ?_⟩
      conv_rhs => rw [eq_dropReturn_append hends]
      simp
    · exact infix_append_cons_of_infix hrest line '\n'

theorem isTerminated_append_feed_iff (line rest : Text) :
    (line ++ '\n' :: rest).IsTerminated ↔ rest.IsTerminated := by
  cases rest with
  | nil => simp [IsTerminated]
  | cons c rest => simp [IsTerminated, List.getLast?_cons_cons]

/-- A piece without a line feed is terminated only if it is empty. -/
theorem isTerminated_iff_of_notMem {piece : Text} (h : '\n' ∉ piece) :
    piece.IsTerminated ↔ piece = [] :=
  or_iff_left fun hlast => h (List.mem_of_getLast? hlast)

/-- **Reading a text and writing its lines** gives the text back exactly if it is terminated and
no line feed in it has a carriage return before it. -/
theorem unlines_lines_eq_iff (text : Text) :
    unlines text.lines = text ↔ ¬ ['\r', '\n'] <:+: text ∧ text.IsTerminated := by
  induction text using line_induction with
  | unterminated piece hpiece =>
    have hfeed : ¬ ['\r', '\n'] <:+: piece := fun hin => hpiece (hin.subset (by simp))
    rw [lines_of_unterminated hpiece, isTerminated_iff_of_notMem hpiece, and_iff_right hfeed]
    cases piece <;> simp
  | terminated line rest hline ih =>
    have hcut : dropReturn line ++ '\n' :: unlines rest.lines = line ++ '\n' :: rest ↔
        dropReturn line = line ∧ unlines rest.lines = rest :=
      ⟨append_cons_inj_of_first (notMem_of_notMem_dropReturn hline) hline,
        fun ⟨hfirst, hrest⟩ => by rw [hfirst, hrest]⟩
    rw [lines_append_newline hline, unlines_cons, hcut, dropReturn_eq_self_iff, ih,
      returnFeed_infix_iff hline, isTerminated_append_feed_iff, not_or, and_assoc]

end Text

namespace Script

/-! ## Rendered and parsed -/

/-- **What comes back** when a script is rendered and parsed: the pieces of its lines between line
feeds, each without a carriage return at its end. -/
theorem parse_render (script : Script) :
    parse script.render =
      ⟨script.lines.flatMap fun line => (line.splitOn '\n').map Text.dropReturn⟩ := by
  obtain ⟨lines⟩ := script
  refine congrArg mk ?_
  show Text.lines (Text.unlines lines) = _
  induction lines with
  | nil => rfl
  | cons line rest ih => rw [Text.unlines_cons, Text.lines_append_feed, ih, List.flatMap_cons]

theorem map_dropReturn_eq_self_iff {lines : List Text} :
    lines.map Text.dropReturn = lines ↔ ∀ line ∈ lines, ¬ line.EndsInReturn := by
  have hpoint := List.map_inj_left (l := lines) (f := Text.dropReturn) (g := id)
  rw [List.map_id] at hpoint
  simpa only [id_eq, Text.dropReturn_eq_self_iff] using hpoint

/-- The same script comes back exactly if each line is one piece and keeps its end. -/
theorem parse_render_eq_iff (script : Script) :
    parse script.render = script ↔
      ∀ line ∈ script.lines, '\n' ∉ line ∧ ¬ line.EndsInReturn := by
  obtain ⟨lines⟩ := script
  have hread : parse (render ⟨lines⟩) = ⟨lines⟩ ↔ Text.lines (Text.unlines lines) = lines := by
    rw [parse, render, mk.injEq]
  rw [hread]
  constructor
  · intro heq
    -- what was read holds no line feed, and it is the script itself
    have hfeed : ∀ line ∈ lines, '\n' ∉ line := by
      intro line hmem
      rw [← heq] at hmem
      exact Text.notMem_of_mem_lines hmem
    rw [Text.lines_unlines hfeed, map_dropReturn_eq_self_iff] at heq
    exact fun line hmem => ⟨hfeed line hmem, heq line hmem⟩
  · intro hlines
    rw [Text.lines_unlines fun line hmem => (hlines line hmem).1, map_dropReturn_eq_self_iff]
    exact fun line hmem => (hlines line hmem).2

/-! ## Parsed and rendered -/

/-- **Parsing undoes rendering, exactly.** A script comes back as the pieces of its lines, each
without a carriage return at its end; so it comes back as it was if and only if no line holds a
line feed or ends in a carriage return. No line of a parsed text holds a line feed, and rendering
gives the text back if and only if it is terminated and no line feed in it has a carriage return
before it. -/
theorem parse_undoes_render (script : Script) (source : Text) :
    parse script.render =
        ⟨script.lines.flatMap fun line => (line.splitOn '\n').map Text.dropReturn⟩ ∧
      (parse script.render = script ↔
        ∀ line ∈ script.lines, '\n' ∉ line ∧ ¬ line.EndsInReturn) ∧
      (∀ line ∈ (parse source).lines, '\n' ∉ line) ∧
      ((parse source).render = source ↔ ¬ ['\r', '\n'] <:+: source ∧ source.IsTerminated) :=
  ⟨parse_render script, parse_render_eq_iff script, fun _ hmem => Text.notMem_of_mem_lines hmem,
    Text.unlines_lines_eq_iff source⟩

/-- A line with two line feeds at its end, one with both characters inside, and one that ends in a
carriage return. -/
def sampleFeeds : Script :=
  ⟨["Merge \"a\";\n\n".toList, "x\r\n\ry\r\r".toList, "z\r".toList]⟩

/-- Three lines come back as six, and of a text with two carriage returns before its line feed one
is missing afterwards. -/
theorem parse_undoes_render_sample :
    parse sampleFeeds.render =
        ⟨["Merge \"a\";".toList, [], [], "x".toList, "\ry\r".toList, "z".toList]⟩ ∧
      parse sampleFeeds.render ≠ sampleFeeds ∧
      '\n' ∉ "a\r".toList ∧
      (parse "a\r\r\n".toList).render ≠ "a\r\r\n".toList := by
  obtain ⟨hparse, hsame, hfeed, htext⟩ := parse_undoes_render sampleFeeds "a\r\r\n".toList
  refine ⟨?_, ?_, hfeed _ (by decide), ?_⟩
  · rw [hparse]
    decide
  · rw [ne_eq, hsame]
    intro hall
    exact (hall "z\r".toList (by decide)).2 (by decide)
  · rw [ne_eq, htext]
    rintro ⟨hnone, -⟩
    exact hnone ⟨"a\r".toList, [], rfl⟩

end Script

end MeshScript
