import MeshScript.Proofs.SurfaceList
import MeshScript.Proofs.Text.Entries
/-!
# MeshScript.Proofs.SurfaceList.Names -- the names of the surfaces

The names in a surface list are its entries. The list is kept character for character, so there
are many lists with the same names: those that padding makes from one list
(`Text.entries_eq_iff`). White space and commas are all that padding adds, hence no brace: a padded
list is still read from a line as it stands there, and so are the names themselves, written between
braces.
-/

namespace MeshScript

namespace SurfaceList

theorem names_eq (surfaces : SurfaceList) : surfaces.names = surfaces.raw.entries := rfl

/-- Padding does not close a list. -/
theorem close_mem_padded_iff {list padded : Text} (h : Text.Padded list padded) :
    '}' ∈ padded ↔ '}' ∈ list :=
  Text.mem_padded_iff (by decide) (by decide) h

/-- A list between braces is read with its entries as names. -/
theorem exists_ofLine?_eq_some {front list : Text} (hfront : '{' ∉ front) (hlist : '}' ∉ list)
    (back : Text) :
    ∃ surfaces, ofLine? (front ++ '{' :: (list ++ '}' :: back)) = some surfaces ∧
      surfaces.raw = list ∧ surfaces.names = list.entries :=
  ⟨⟨list, hlist⟩, ofLine?_eq_some_iff.2 ⟨front, back, rfl, hfront⟩, rfl, rfl⟩

/-- A name is an entry, and no closing brace stands in it. -/
theorem isEntry_of_mem_names {surfaces : SurfaceList} {name : Text} (h : name ∈ surfaces.names) :
    name.IsEntry ∧ '}' ∉ name := by
  refine ⟨Text.isEntry_of_mem_entries h, fun hclose => surfaces.closed ?_⟩
  exact (Text.infix_of_mem_entries h).subset hclose

/-- **The names read back**: between braces, with a comma and a space between any two, they are a
list with these names. -/
theorem exists_ofLine?_names (surfaces : SurfaceList) :
    ∃ listed, ofLine? ('{' :: (List.intercalate ", ".toList surfaces.names ++ ['}'])) =
      some listed ∧ listed.names = surfaces.names := by
  -- with bare commas the names are what the list is padded from, and the spaces are padding too
  have hlist : Text.Padded (List.intercalate [','] surfaces.names) surfaces.raw :=
    Text.padded_entries surfaces.raw
  have hjoined : Text.Padded (List.intercalate [','] surfaces.names)
      (List.intercalate ", ".toList surfaces.names) :=
    Text.padded_intercalate_space surfaces.names
  have hclose : '}' ∉ List.intercalate ", ".toList surfaces.names := by
    rw [close_mem_padded_iff hjoined, ← close_mem_padded_iff hlist]
    exact surfaces.closed
  obtain ⟨listed, hlisted, -, hnames⟩ := exists_ofLine?_eq_some List.not_mem_nil hclose []
  refine ⟨listed, hlisted, hnames.trans ?_⟩
  rw [names_eq]
  exact Text.entries_eq_iff.2 ⟨_, hlist, hjoined⟩

/-- A line whose list is padded gives the padded list, with the same names. -/
theorem exists_ofLine?_padded {line front back padded : Text} {surfaces : SurfaceList}
    (hcut : line.CutAtBraces front surfaces.raw back) (h : Text.Padded surfaces.raw padded) :
    ∃ other, ofLine? (front ++ '{' :: (padded ++ '}' :: back)) = some other ∧
      other.raw = padded ∧ other.names = surfaces.names := by
  have hclose : '}' ∉ padded := (close_mem_padded_iff h).not.2 surfaces.closed
  obtain ⟨other, hother, hraw, hnames⟩ := exists_ofLine?_eq_some hcut.open_notMem hclose back
  exact ⟨other, hother, hraw, hnames.trans (Text.entries_of_padded h)⟩

/-- **The names are a canonical form of their list.** Each of them is an entry without a closing
brace. Between braces, with a comma and a space between any two, they are read back as they are.
If the list of a line is padded, the line gives the padded list, with the same names; and two lists
have the same names exactly if both are made by padding from one. -/
theorem names_canonical {line : Text} {surfaces : SurfaceList} (h : ofLine? line = some surfaces) :
    (∀ name ∈ surfaces.names, name.IsEntry ∧ '}' ∉ name) ∧
      (∃ listed, ofLine? ('{' :: (List.intercalate ", ".toList surfaces.names ++ ['}'])) =
        some listed ∧ listed.names = surfaces.names) ∧
      (∃ front back, line.CutAtBraces front surfaces.raw back ∧
        ∀ padded, Text.Padded surfaces.raw padded →
          ∃ other, ofLine? (front ++ '{' :: (padded ++ '}' :: back)) = some other ∧
            other.raw = padded ∧ other.names = surfaces.names) ∧
      ∀ other : SurfaceList, other.names = surfaces.names ↔
        ∃ core, Text.Padded core surfaces.raw ∧ Text.Padded core other.raw := by
  obtain ⟨front, back, hline, hfront⟩ := ofLine?_eq_some_iff.1 h
  have hcut : line.CutAtBraces front surfaces.raw back := ⟨hline, hfront, surfaces.closed⟩
  exact ⟨fun _ => isEntry_of_mem_names, exists_ofLine?_names surfaces,
    ⟨front, back, hcut, fun _ => exists_ofLine?_padded hcut⟩, fun _ => Text.entries_eq_iff⟩

/-- Empty entries at the start and inside, a name with an opening brace, and white space that is
not ASCII. -/
def sampleSpaced : SurfaceList :=
  ⟨", 7 ,\u3000\x7b8 9\u00a0,, \t".toList, by decide⟩

/-- The names of the sample are read back from between braces, and the sample keeps them with a
wide space at its start and one more empty entry at its end. -/
theorem names_canonical_sample :
    ofLine? "s\x7d = \x7b, 7 ,\u3000\x7b8 9\u00a0,, \t\x7d; \x7b1\x7d".toList = some sampleSpaced ∧
      sampleSpaced.names = ["7".toList, "\x7b8 9".toList] ∧
      (∃ listed, ofLine? "\x7b7, \x7b8 9\x7d".toList = some listed ∧
        listed.names = sampleSpaced.names) ∧
      ∃ other, ofLine? "s\x7d = \x7b\u2003, 7 ,\u3000\x7b8 9\u00a0,, \t,\x7d; \x7b1\x7d".toList =
        some other ∧ other.names = sampleSpaced.names := by
  have hline : ofLine? "s\x7d = \x7b, 7 ,\u3000\x7b8 9\u00a0,, \t\x7d; \x7b1\x7d".toList =
      some sampleSpaced := by
    decide +kernel
  have hnames : sampleSpaced.names = ["7".toList, "\x7b8 9".toList] := by
    decide +kernel
  have hspace : Text.Insertion ([] ++ sampleSpaced.raw)
      ([] ++ ("\u2003".toList ++ sampleSpaced.raw)) :=
    .space (Or.inl rfl) _ (by decide)
  have hentry : Text.Insertion ("\u2003".toList ++ sampleSpaced.raw ++ [])
      ("\u2003".toList ++ sampleSpaced.raw ++ [',']) :=
    .emptyEntry (by decide)
  obtain ⟨-, hlisted, ⟨front, back, hcut, hpadded⟩, -⟩ := names_canonical hline
  have hcut' : Text.CutAtBraces
      "s\x7d = \x7b, 7 ,\u3000\x7b8 9\u00a0,, \t\x7d; \x7b1\x7d".toList
      "s\x7d = ".toList sampleSpaced.raw "; \x7b1\x7d".toList :=
    ⟨by decide, by decide, sampleSpaced.closed⟩
  obtain ⟨rfl, -, rfl⟩ := hcut.unique hcut'
  rw [List.append_nil] at hentry
  obtain ⟨other, hother, -, hkept⟩ := hpadded _ (.tail (.single hspace) hentry)
  rw [hnames] at hlisted ⊢
  rw [hnames] at hkept
  exact ⟨hline, rfl, hlisted, other, hother, hkept⟩

end SurfaceList

end MeshScript
