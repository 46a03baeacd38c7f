import MeshScript.Settings.KeyPath
/-!
# MeshScript.Proofs.Settings.KeyPath -- names that are read as key paths

An identifier is the key path of one step, and two identifiers with a dot between them are the
key path of two steps (`KeyPath.parse?_identifier`, `KeyPath.parse?_dotted`). A name that
is compared without regard to case is an identifier in every spelling, if it is one
in lower case (`IsIdentifier.of_foldCase`).
-/

namespace MeshScript

/-! ## Scans that succeed -/

namespace Scan

variable {α β : Type} {text rest : Text} {a : α}

theorem bind_of_some {first : Scan α} {next : α → Scan β} (h : first text = some (a, rest)) :
    (first >>= next) text = next a rest := by
  show (first text).bind _ = _
  rw [h]
  rfl

theorem orElse_of_some {first second : Scan α} (h : first text = some (a, rest)) :
    (first <|> second) text = some (a, rest) := by
  show (first text <|> second text) = _
  rw [h]
  rfl

/-- A scan takes the front of a text if that passes the test and what follows does not. -/
theorem takeWhile1_append {test : Char → Bool} {front back : Text} (hne : front ≠ [])
    (hfront : ∀ c ∈ front, test c = true) (hback : ∀ c ∈ back.head?, test c = false) :
    takeWhile1 test (front ++ back) = some (front, back) := by
  have htaken : takeWhile test (front ++ back) = some (front, back) := by
    rw [takeWhile, List.takeWhile_append_of_pos hfront, List.dropWhile_append_of_pos hfront]
    cases back with
    | nil => simp
    | cons c rest => simp [hback c rfl]
  have hguard : (guard (!front.isEmpty) : Scan Unit) = pure () := if_pos (by simpa using hne)
  rw [takeWhile1, bind_of_some htaken, hguard]
  rfl

end Scan

theorem Text.read?_of_some {α : Type} {text : Text} {scan : Scan α} {a : α}
    (h : scan text = some (a, [])) : text.read? scan = some a := by
  show (scan text).bind _ = _
  rw [h]
  rfl

namespace Settings

/-! ## Key paths -/

/-- **An identifier**: at least one character, and all of them such characters. -/
def IsIdentifier (text : Text) : Prop :=
  text ≠ [] ∧ ∀ c ∈ text, isIdentifierChar c = true

-- over the characters of the text, not over all there are
instance (text : Text) : Decidable (IsIdentifier text) :=
  decidable_of_iff (text ≠ [] ∧ text.all isIdentifierChar = true)
    (by rw [IsIdentifier, List.all_eq_true])

theorem keyStep_append {front back : Text} (h : IsIdentifier front)
    (hback : ∀ c ∈ back.head?, isIdentifierChar c = false) :
    keyStep (front ++ back) = some (.key front, back) := by
  show (Scan.takeWhile1 isIdentifierChar (front ++ back)).bind _ = _
  rw [Scan.takeWhile1_append h.1 h.2 hback]
  rfl

theorem keyStep_identifier {text : Text} (h : IsIdentifier text) :
    keyStep text = some (.key text, []) := by
  have hback : ∀ c ∈ ([] : Text).head?, isIdentifierChar c = false := by simp
  simpa using keyStep_append h hback

theorem steps_nil (fuel : Nat) : steps (fuel + 1) [] = some ([], []) := rfl

theorem steps_dot {name : Text} (h : IsIdentifier name) (fuel : Nat) :
    steps (fuel + 2) ('.' :: name) = some ([.key name], []) := by
  have hstep : (do Scan.char '.'; keyStep : Scan Step) ('.' :: name) = some (.key name, []) := by
    have hdot : Scan.char '.' ('.' :: name) = some ((), name) := rfl
    rw [Scan.bind_of_some hdot, keyStep_identifier h]
  have hend : Scan.atEnd ('.' :: name) = some (false, '.' :: name) := rfl
  rw [steps, Scan.bind_of_some hend, if_neg Bool.false_ne_true,
    Scan.bind_of_some (Scan.orElse_of_some hstep), Scan.bind_of_some (steps_nil fuel)]
  rfl

/-- **An identifier is a key path** of one step. -/
theorem KeyPath.parse?_identifier {text : Text} (h : IsIdentifier text) :
    KeyPath.parse? text = some [.key text] := by
  apply Text.read?_of_some
  rw [Scan.bind_of_some (keyStep_identifier h), Scan.bind_of_some (steps_nil _)]
  rfl

/-- **Two identifiers with a dot between them** are a key path of two steps. -/
theorem KeyPath.parse?_dotted {outer inner : Text} (houter : IsIdentifier outer)
    (hinner : IsIdentifier inner) :
    KeyPath.parse? (outer ++ '.' :: inner) = some [.key outer, .key inner] := by
  have hkey : keyStep (outer ++ '.' :: inner) = some (.key outer, '.' :: inner) := by
    apply keyStep_append houter
    rintro c ⟨⟩
    rfl
  have hfuel : (outer ++ '.' :: inner).length + 1 = (outer.length + inner.length) + 2 := by
    simp [Nat.add_assoc]
  apply Text.read?_of_some
  rw [Scan.bind_of_some hkey, hfuel, Scan.bind_of_some (steps_dot hinner _)]
  rfl

/-! ## Spellings of a name -/

theorem isIdentifierChar_of_isAlpha {c : Char} (h : c.isAlpha = true) :
    isIdentifierChar c = true := by
  simp [isIdentifierChar, Char.isAlphanum, h]

/-- A character that is lowered is a letter. -/
theorem toLower_cases (c : Char) : c.toLower = c ∨ isIdentifierChar c = true := by
  unfold Char.toLower
  split
  · rename_i hupper
    exact .inr (isIdentifierChar_of_isAlpha
      (Bool.or_eq_true_iff.2 (.inl (decide_eq_true hupper))))
  · exact .inl rfl

theorem IsIdentifier.of_foldCase {text : Text} (h : IsIdentifier (foldCase text)) :
    IsIdentifier text := by
  refine ⟨fun hnil => h.1 (by rw [hnil]; rfl), fun c hc => ?_⟩
  rcases toLower_cases c with hsame | hidentifier
  · rw [← hsame]
    exact h.2 _ (List.mem_map_of_mem hc)
  · exact hidentifier

end Settings

end MeshScript
