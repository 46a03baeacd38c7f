import MeshScript.Substitution.Rule
import MeshScript.Script
import MeshScript.SurfaceList
import MeshScript.Tally
import MeshScript.Stage
import Std.Data.TreeMap
import Std.Data.TreeSet
/-!
# MeshScript.Substitution -- applying the rules to a script

The stage works in two passes, so that no edit depends on another line's edit.
The first pass reads the lines in order and makes a `Draft`: by line index, the new
text of each line that changes and the lines that get a blank line behind them;
besides, the surface list, the count of each rule, and the events. The second pass
writes the draft into the script.

Triggers and surface lists are always read off the line as it was. A later wall-group
line replaces the surface list of an earlier one, also by nothing.
-/

namespace MeshScript

/-- **An edited script**, with the surface list of its last wall-group line and the
number of lines each rule edited. -/
structure Edited where
  script : Script
  surfaces : Option SurfaceList
  edits : Tally
  deriving DecidableEq, Repr

/-- **What the first pass has found.** Lines are indexed from zero. -/
structure Draft where
  /-- The new text of the lines that change. -/
  texts : Std.TreeMap Nat Text := ∅
  /-- The lines that get a blank line behind them. -/
  spaced : Std.TreeSet Nat := ∅
  /-- The surface list of the last wall-group line. -/
  surfaces : Option SurfaceList := none
  /-- How many lines gave a surface list or could have. -/
  surfaceLines : Nat := 0
  /-- How many lines each rule edited. -/
  edits : Tally := .empty
  /-- The events, last one first. -/
  trail : List Event := []

namespace Draft

/-- Adds an event. -/
def note (draft : Draft) (event : Event) : Draft :=
  { draft with trail := event :: draft.trail }

/-- Counts an edit of the line by the rule, or notes that there was none. -/
def countEdit (draft : Draft) (index : Nat) (rule : Rule) (done : Bool) : Draft :=
  if done then
    { draft.note (.lineEdited (index + 1) rule.name) with
      edits := draft.edits.increment rule.name }
  else draft.note (.tokenNotQuoted (index + 1) rule.name)

/-- Spaces the line before `index`, if the rule asks for it and there is one. -/
def spacePrevious (draft : Draft) (index : Nat) (rule : Rule) : Draft :=
  if rule.spacesPrevious then
    match index with
    | 0 => draft.note (.nothingToPad rule.name)
    | previous + 1 => { draft with spaced := draft.spaced.insert previous }
  else draft

/-- Takes the surface list from the line, if the rule asks for it. -/
def takeSurfaces (draft : Draft) (index : Nat) (line : Text) (rule : Rule) : Draft :=
  if rule.givesSurfaces then
    let draft :=
      if draft.surfaceLines = 0 then draft else draft.note (.wallGroupRepeated (index + 1))
    { draft with
      surfaces := SurfaceList.ofLine? line
      surfaceLines := draft.surfaceLines + 1 }
  else draft

/-- One rule on one line: `state` is the line as earlier rules left it and the draft. -/
def applyRule (base : Text) (index : Nat) (line : Text) (state : Text × Draft) (rule : Rule) :
    Text × Draft :=
  let next? := rule.edited? state.1 base
  (next?.getD state.1,
    ((state.2.countEdit index rule next?.isSome).spacePrevious index rule).takeSurfaces
      index line rule)

/-- **One line of the first pass**: all rules that fire on it, in table order. -/
def scanLine (base : Text) (draft : Draft) (entry : Text × Nat) : Draft :=
  let (line, index) := entry
  let rules := Rule.firing line
  let draft :=
    if 1 < rules.length then draft.note (.severalRules (index + 1) (rules.map (·.name)))
    else draft
  let (current, draft) := rules.foldl (applyRule base index line) (line, draft)
  if current = line then draft
  else { draft with texts := draft.texts.insert index current }

/-- **The first pass** over a script. -/
def ofScript (base : Text) (script : Script) : Draft :=
  script.lines.zipIdx.foldl (scanLine base) {}

/-- The line at `index` as the draft has it. -/
def lineAt (draft : Draft) (index : Nat) (line : Text) : Text :=
  draft.texts.getD index line ++ if draft.spaced.contains index then ['\n'] else []

/-- **The second pass**: new texts and spaces, written into the script by index. -/
def writeInto (draft : Draft) (script : Script) : Script :=
  ⟨script.lines.mapIdx draft.lineAt⟩

end Draft

/-- **The substitution** for one base name. It always succeeds. -/
def substitute (base : Text) : Stage Script Edited where
  run script :=
    let draft := Draft.ofScript base script
    .succeed ⟨draft.writeInto script, draft.surfaces, draft.edits⟩ draft.trail.reverse

end MeshScript
