import LintBridge.Diagnostic.Json
import LintBridge.Json.Writer
import LintBridge.Path

/-!
# Reports

The diagnostics of a file as they are printed: as JSON, as a table, or summed up in one sentence.
Lines and characters count from one in all of them but the first.

* `LintBridge.Report.json` – the diagnostics as JSON, with severities by label;
* `LintBridge.Report.counts`, `LintBridge.Report.summary` – **how many there are of each severity**,
  most urgent first;
* `LintBridge.Report.table` – the diagnostics as a table.
-/

namespace LintBridge.Report

open Json (Value CodePoints)

/-- Where a diagnostic is, as people write it. -/
def location (file : String) (r : Record) : String :=
  s!"{file}:{r.range.start.line + 1}:{r.range.start.character + 1}"

/-- Diagnostics as JSON, with severities by label. -/
def toJson (records : List Record) : Value :=
  .array (records.map (Record.toJsonWith fun s => .ofString s.label))

/-- Diagnostics as JSON text. -/
def json (records : List Record) : String :=
  Json.indented (toJson records)

/-- How many diagnostics there are of a severity. -/
def count (records : List Record) (s : Severity) : Nat :=
  (records.filter (·.severity == s)).length

/-- How many diagnostics there are of each severity that occurs. -/
def counts (records : List Record) : List (Severity × Nat) :=
  (Severity.all.map fun s => (s, count records s)).filter (·.2 != 0)

/-- A number of diagnostics of a severity in words. -/
def countText (c : Severity × Nat) : String :=
  if c.2 == 1 then s!"{c.2} {c.1.label}" else s!"{c.2} {c.1.label}s"

/-- Diagnostics summed up in one sentence. -/
def summary (records : List Record) : String :=
  match counts records with
  | [] => "no problems"
  | cs => ", ".intercalate (cs.map countText)

/-! ### Tables -/

/-- What is done with a cell that is too wide. -/
inductive Overflow where
  /-- It is cut off. -/
  | ellipsis
  /-- It is broken into lines. -/
  | fold
  deriving DecidableEq, Repr

/-- The name of a way to deal with a cell that is too wide. -/
def Overflow.name : Overflow → String
  | .ellipsis => "ellipsis"
  | .fold => "fold"

/-- A column of a table. -/
structure Column where
  /-- Its heading. -/
  heading : String
  /-- The style of its cells. -/
  style : String := ""
  /-- Whether its cells stay on one line. -/
  oneLine : Bool := false
  /-- What is done with a cell that is too wide. -/
  overflow : Overflow := .ellipsis
  /-- Whether its cells have the marks of their style in square brackets. -/
  marked : Bool := false
  deriving DecidableEq, Repr

/-- A table. -/
structure Table where
  /-- Its title. -/
  title : String
  /-- Its columns. -/
  columns : List Column
  /-- The cells of its rows. -/
  rows : List (List CodePoints)
  deriving DecidableEq, Repr

/-- The style in which a severity is printed. -/
def style : Severity → String
  | .error => "bold red"
  | .warning => "yellow"
  | .information => "cyan"
  | .hint => "dim"

/-- A severity with the marks of its style. -/
def styled (s : Severity) : String :=
  s!"[{style s}]{s.label}[/]"

/-- A character that moves the cursor or makes a noise, and is not printed. -/
def isControl (c : Char) : Bool :=
  [7, 8, 11, 12, 13].contains c.toNat

/-- A text without the characters that are not printed. -/
def printable (s : String) : String :=
  String.ofList (s.toList.filter fun c => !isControl c)

/-- The columns of a report. -/
def columns : List Column :=
  [{ heading := "Location", style := "bold", oneLine := true },
   { heading := "Severity", marked := true },
   { heading := "Code" },
   { heading := "Message", overflow := .fold }]

/-- A text of the linter without the characters that are not printed. -/
def printableText (t : CodePoints) : CodePoints :=
  t.filter fun p => !isControl p.toChar

/-- The code of a diagnostic, or a dash. -/
def codeText (r : Record) : CodePoints :=
  match r.code with
  | none => .ofString "-"
  | some code => if code.isEmpty then .ofString "-" else code

/-- The row of a diagnostic. -/
def row (file : String) (r : Record) : List CodePoints :=
  [.ofString (printable (location file r)), .ofString (styled r.severity),
   printableText (codeText r), printableText r.message]

/-- The diagnostics of a file as a table. -/
def table (file : String) (records : List Record) : Table :=
  { title := file, columns, rows := records.map (row file) }

end LintBridge.Report
