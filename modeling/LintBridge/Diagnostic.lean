import LintBridge.Severity

/-!
# Diagnostics

What the linter has to say about a document, in the form in which it is published: a span, a
message, a severity, and possibly a code and places elsewhere that explain it. Lines and characters
count from zero, and the texts are those of the linter, with surrogates if it has written any.

* `LintBridge.Position`, `LintBridge.Range` – places and spans; **a span never ends before it
  starts**, which is part of its type;
* `LintBridge.Location`, `LintBridge.Related` – a span in a named file, with a message;
* `LintBridge.Record` – one diagnostic;
* `LintBridge.Group` – the diagnostics reported on one file.
-/

namespace LintBridge

open Json (CodePoints)

/-- A place in a document. -/
structure Position where
  /-- The line, counted from zero. -/
  line : Nat := 0
  /-- The character in the line, counted from zero. -/
  character : Nat := 0
  deriving DecidableEq, Repr, Inhabited

/-- Places are ordered by line, then by character. -/
def Position.Before (p q : Position) : Prop :=
  p.line < q.line ∨ (p.line = q.line ∧ p.character < q.character)

instance (p q : Position) : Decidable (p.Before q) :=
  inferInstanceAs (Decidable (_ ∨ _))

/-- A place as a pair. -/
def Position.text (p : Position) : String :=
  s!"({p.line}, {p.character})"

/-- A span of a document. -/
structure Range where
  /-- Where the span starts. -/
  start : Position := {}
  /-- Where the span ends. -/
  stop : Position := {}
  /-- The end is not before the start. -/
  ordered : ¬ stop.Before start := by decide
  deriving DecidableEq, Repr

instance : Inhabited Range := ⟨{}⟩

/-- The span between two places, if they are in order. -/
def Range.of? (start stop : Position) : Option Range :=
  if h : ¬ stop.Before start then some ⟨start, stop, h⟩ else none

/-- The words for two places that are not in order. -/
def Range.disorder (start stop : Position) : String :=
  s!"range end {stop.text} precedes start {start.text}"

/-- A span in a file. -/
structure Location where
  /-- The file, by URI or path. -/
  uri : CodePoints
  /-- The span. -/
  range : Range
  deriving DecidableEq, Repr

/-- A place elsewhere that explains a diagnostic. -/
structure Related where
  /-- The place. -/
  location : Location
  /-- What is to be seen there. -/
  message : CodePoints
  deriving DecidableEq, Repr

/-- One diagnostic. -/
structure Record where
  /-- The span it concerns. -/
  range : Range
  /-- What is wrong. -/
  message : CodePoints
  /-- How urgent it is. -/
  severity : Severity
  /-- The rule it comes from. -/
  code : Option CodePoints := none
  /-- The tool it comes from. -/
  source : CodePoints := .ofString "chalk"
  /-- Places elsewhere that explain it. -/
  related : List Related := []
  deriving DecidableEq, Repr

/-- The diagnostics reported on one file. -/
structure Group where
  /-- The file, by URI or path, as it was reported. -/
  target : CodePoints
  /-- The diagnostics, in the order in which they were reported. -/
  diagnostics : List Record := []
  deriving DecidableEq, Repr

end LintBridge
