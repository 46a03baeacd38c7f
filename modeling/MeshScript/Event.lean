import MeshScript.Text.Search
/-!
# MeshScript.Event -- what a run tells about itself

Every step of a normalization records what it did. An event is a value with the
data of one such step; `Event.record` gives the form in which it is written to a
log: a severity, a fixed message, and named fields. The opening of a run is a span,
which has a name in place of severity and message.
-/

namespace MeshScript

/-- How much an event matters. -/
inductive Severity
  | debug
  | info
  | warn
  deriving DecidableEq, Repr

/-- The value of a field of a log record. -/
inductive FieldValue
  | count (n : Nat)
  | text (t : Text)
  deriving DecidableEq, Repr

/-- **A log record.** -/
inductive Record
  | span (name : String) (fields : List (String × FieldValue))
  | entry (severity : Severity) (message : String) (fields : List (String × FieldValue))
  deriving DecidableEq, Repr

/-- **An event** of a normalization. Lines are counted from one. -/
inductive Event
  /-- Blank lines were taken out of a script in memory. -/
  | blankLinesDropped (dropped : Nat)
  /-- A line met an exclusion. -/
  | lineExcluded (exclusion line : Text)
  /-- Several substitution rules are triggered by one line. -/
  | severalRules (line : Nat) (rules : List Text)
  /-- A substitution rule edited a line. -/
  | lineEdited (line : Nat) (rule : Text)
  /-- The token of a group stands in the line, but not in quotes. -/
  | tokenNotQuoted (line : Nat) (rule : Text)
  /-- A rule would pad the line before the first one. -/
  | nothingToPad (rule : Text)
  /-- A later wall-group line replaces the surface list of an earlier one. -/
  | wallGroupRepeated (line : Nat)
  /-- A run begins. -/
  | runStarted (base shape : Text)
  /-- One export artifact was copied. -/
  | artifactCopied (source target : Text)
  /-- Both export artifacts are in place. -/
  | artifactsPlaced (script geometry : Text)
  /-- The copied script was written without its blank lines and removed. -/
  | interimStripped (read dropped : Nat)
  /-- Blank and excluded lines are gone. -/
  | scriptCleaned (excluded kept : Nat)
  /-- The substitutions are done and the refinement block stands. -/
  | scriptFinished (edits appended : Nat) (surfaces : Text)
  /-- The result is on disk. -/
  | scriptWritten (script : Text)
  deriving DecidableEq, Repr

namespace Event

/-- Names in brackets, each between double quotes, comma and space between them. -/
def quotedNames (names : List Text) : Text :=
  let quoted := names.map fun name => '"' :: name ++ ['"']
  '[' :: List.intercalate ", ".toList quoted ++ [']']

/-- The log record of the event. -/
def record : Event → Record
  | blankLinesDropped dropped =>
    .entry .debug "stripped blank lines" [("dropped", .count dropped)]
  | lineExcluded exclusion line =>
    .entry .debug "dropped line" [("exclusion", .text exclusion), ("line", .text line)]
  | severalRules line rules =>
    .entry .warn "line matches several substitution rules"
      [("line", .count line), ("rules", .text (quotedNames rules))]
  | lineEdited line rule =>
    .entry .debug "rewrote line" [("line", .count line), ("rule", .text rule)]
  | tokenNotQuoted line rule =>
    .entry .debug "trigger present without quoted placeholder, line left unchanged"
      [("line", .count line), ("rule", .text rule)]
  | nothingToPad rule =>
    .entry .debug "no previous line to pad" [("rule", .text rule)]
  | wallGroupRepeated line =>
    .entry .warn "repeated wall-group line, its surface list replaces the earlier one"
      [("line", .count line)]
  | runStarted base shape =>
    .span "normalize" [("base", .text base), ("shape", .text shape)]
  | artifactCopied source target =>
    .entry .debug "copied artifact" [("from", .text source), ("to", .text target)]
  | artifactsPlaced script geometry =>
    .entry .info "relocated export artifacts"
      [("script", .text script), ("geometry", .text geometry)]
  | interimStripped read dropped =>
    .entry .info "stripped blank lines" [("read", .count read), ("dropped", .count dropped)]
  | scriptCleaned excluded kept =>
    .entry .info "filtered script" [("excluded", .count excluded), ("kept", .count kept)]
  | scriptFinished edits appended surfaces =>
    .entry .info "rewrote script"
      [("rewrites", .count edits), ("injected", .count appended),
        ("surfaces", .text surfaces)]
  | scriptWritten script =>
    .entry .info "wrote normalized script" [("script", .text script)]

end Event

end MeshScript
