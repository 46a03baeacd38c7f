import MeshScript.Log
import MeshScript.Text.Display
/-!
# MeshScript.Log.Plain -- a log of plain lines

`Log.plain` writes a line for each event that its filter lets through: the time, the severity, the
span in which the event stands, its target, its message and its fields. There are no colours.

A filter is a list of directives. A directive names a target, a severity, or both; it speaks of all
targets that begin with its own, and of several the one with the longest target decides.
-/

namespace MeshScript.Log

/-! ## Filters -/

/-- **A directive**: from which severity on events of these targets are written, if any are. -/
structure Directive where
  target : Text := []
  least? : Option Severity
  deriving DecidableEq, Repr

/-- The rank of a severity. -/
def rank : Severity → Nat
  | .debug => 0
  | .info => 1
  | .warn => 2

/-- The least severity that a word stands for. No event is severer than a warning. -/
def leastNamed? (word : Text) : Option (Option Severity) :=
  [ ("trace".toList, some .debug), ("debug".toList, some .debug), ("info".toList, some .info),
    ("warn".toList, some .warn), ("error".toList, none), ("off".toList, none) ].lookup
    (word.map Char.toLower)

/-- Reads a directive. -/
def Directive.parse? (text : Text) : Option Directive :=
  match text.splitOn '=' with
  | [word] =>
    match leastNamed? word with
    | some least? => some { least? }
    | none => some { target := word, least? := some .debug }
  | [target, word] => (leastNamed? word).map fun least? => { target, least? }
  | _ => none

/-- The directive that decides about a target. -/
def decisive? (filter : List Directive) (target : Text) : Option Directive :=
  (filter.filter (·.target.isPrefixOf target)).foldl
    (fun best? directive =>
      match best? with
      | some best =>
        if directive.target.length < best.target.length then some best else some directive
      | none => some directive) none

/-- The filter lets a severity of a target through. -/
def lets (filter : List Directive) (target : Text) (severity : Severity) : Bool :=
  match decisive? filter target with
  | some { least? := some least, .. } => rank least ≤ rank severity
  | some { least? := none, .. } | none => false

/-! ## Lines -/

/-- The target under which an event is recorded. -/
def target : Event → Text
  | .blankLinesDropped _ => "geofix_core::geo::transforms::stages::blank_lines".toList
  | .lineExcluded .. => "geofix_core::geo::transforms::stages::filtering".toList
  | .severalRules .. | .lineEdited .. | .tokenNotQuoted .. | .nothingToPad _
  | .wallGroupRepeated _ => "geofix_core::geo::transforms::stages::substitution".toList
  | .artifactCopied .. | .artifactsPlaced .. => "geofix_core::geo::relocation".toList
  | .runStarted .. | .interimStripped .. | .scriptCleaned .. | .scriptFinished ..
  | .scriptWritten _ => "geofix_core::geo::normalizer".toList

/-- The fields whose texts stand in quotes. -/
def quotedFields : List Text :=
  ["exclusion".toList, "rule".toList, "base".toList, "shape".toList, "surfaces".toList]

/-- A field of a record. -/
def fieldText (field : String × FieldValue) : Text :=
  field.1.toList ++ '=' ::
    match field.2 with
    | .count n => Nat.toDigits 10 n
    | .text t => if field.1.toList ∈ quotedFields then t.displayed else t

/-- Fields with blanks between them. -/
def fieldsText (fields : List (String × FieldValue)) : Text :=
  List.intercalate [' '] (fields.map fieldText)

/-- A severity in five columns. -/
def severityText : Severity → Text
  | .debug => "DEBUG".toList
  | .info => " INFO".toList
  | .warn => " WARN".toList

/-- The log lines of events; `span` is the span that is open, and `line` counts the lines. -/
def linesFrom (filter : List Directive) (clock : Nat → Text) (span : Text) (line : Nat) :
    List Event → Text
  | [] => []
  | event :: rest =>
    match event.record with
    | .span name fields =>
      let span :=
        if lets filter (target event) .info then
          name.toList ++ '\x7b' :: fieldsText fields ++ "\x7d: ".toList
        else []
      linesFrom filter clock span line rest
    | .entry severity message fields =>
      if lets filter (target event) severity then
        clock line ++ ' ' :: severityText severity ++ ' ' :: span ++ target event ++
          ": ".toList ++ message.toList ++ (fields.flatMap fun field => ' ' :: fieldText field) ++
          '\n' :: linesFrom filter clock span (line + 1) rest
      else linesFrom filter clock span line rest

/-- **The log of plain lines.** -/
def plain : Library where
  Filter := List Directive
  filter? text := (text.splitOn ',').mapM Directive.parse?
  readFilter text := (text.splitOn ',').filterMap Directive.parse?
  write filter clock events := linesFrom filter clock [] 0 events

end MeshScript.Log
