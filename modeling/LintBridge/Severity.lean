import LintBridge.Json.Value
import LintBridge.Text.Blank
import LintBridge.Text.CaseMap

/-!
# Severities

Four severities, numbered as editors number them: the lower the number, the more urgent. The linter
reports them as words or as numbers, settings name them by label, and reports print the label.

* `LintBridge.Severity` – the four;
* `LintBridge.Severity.ofValue` – the severity of what the linter reports, **total**: what cannot be
  told is an error;
* `LintBridge.Severity.ofLabel?` – the severity a label names, in any case, with two short forms.
-/

namespace LintBridge

/-- How urgent a diagnostic is. -/
inductive Severity where
  /-- An error. -/
  | error
  /-- A warning. -/
  | warning
  /-- Something to know. -/
  | information
  /-- A hint. -/
  | hint
  deriving DecidableEq, Repr, Inhabited

namespace Severity

/-- The four severities, most urgent first. -/
def all : List Severity :=
  [.error, .warning, .information, .hint]

/-- The number of a severity. -/
def number : Severity → Nat
  | .error => 1
  | .warning => 2
  | .information => 3
  | .hint => 4

/-- The name of a severity in settings and reports. -/
def label : Severity → String
  | .error => "error"
  | .warning => "warning"
  | .information => "information"
  | .hint => "hint"

/-- The severity of a number. -/
def ofNumber? (n : Int) : Option Severity :=
  all.find? fun s => (s.number : Int) == n

/-- The words for a number that no severity has. -/
def notANumber (n : Int) : String :=
  s!"{n} is not a valid Severity"

/-- As urgent as the threshold or more. -/
def isAtLeast (s threshold : Severity) : Bool :=
  s.number ≤ threshold.number

/-- What is reported in a way that tells no severity is taken for an error. -/
def fallback : Severity := .error

/-- The severity of what the linter reports: a word, of which all but `error` are warnings, or a
number, possibly with a fraction of zero. -/
def ofValue : Json.Value → Severity
  | .string t =>
    let word := Text.stripList Text.isBlank (Json.CodePoints.toString t).toList
    if Text.lowerList word == "error".toList then .error else .warning
  | .int n => (ofNumber? n).getD fallback
  | .float x =>
    match x.toInt? with
    | some n => (ofNumber? n).getD fallback
    | none => fallback
  | _ => fallback

/-- The short forms of two labels. -/
def aliases : List (String × String) :=
  [("info", "information"), ("warn", "warning")]

/-- The severity a label names. -/
def ofLabel? (text : String) : Option Severity :=
  let key := Text.lower (Text.strip text)
  let name := Text.upper ((aliases.lookup key).getD key)
  all.find? fun s => Text.upper s.label == name

/-- The words for a label that names no severity. -/
def unknownLabel (text : Json.CodePoints) : Json.CodePoints :=
  .ofString "unknown severity '" ++ text ++ .ofString "'"

end Severity

end LintBridge
