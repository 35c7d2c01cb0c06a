import LintBridge.Diagnostic

/-!
# Diagnostics as JSON

The form in which diagnostics are exported: an object for each structure, with its fields in the
order of declaration. The severity of a diagnostic is written by number or by label, as the reader
of the export needs it.
-/

namespace LintBridge

open Json (Value CodePoints)

/-- A text, or `null`. -/
def Json.Value.ofOption (t : Option CodePoints) : Value :=
  match t with
  | some t => .string t
  | none => .null

/-- A place. -/
def Position.toJson (p : Position) : Value :=
  .ofFields [("line", .int p.line), ("character", .int p.character)]

/-- A span. -/
def Range.toJson (r : Range) : Value :=
  .ofFields [("start", r.start.toJson), ("end", r.stop.toJson)]

/-- A span in a file. -/
def Location.toJson (l : Location) : Value :=
  .ofFields [("uri", .string l.uri), ("range", l.range.toJson)]

/-- A place elsewhere. -/
def Related.toJson (r : Related) : Value :=
  .ofFields [("location", r.location.toJson), ("message", .string r.message)]

/-- A diagnostic, with its severity written as given. -/
def Record.toJsonWith (severity : Severity → Value) (r : Record) : Value :=
  .ofFields
    [("range", r.range.toJson),
     ("message", .string r.message),
     ("severity", severity r.severity),
     ("code", .ofOption r.code),
     ("source", .string r.source),
     ("related_information", .array (r.related.map Related.toJson))]

/-- A diagnostic with its severity by number. -/
def Record.toJson (r : Record) : Value :=
  r.toJsonWith fun s => .int s.number

/-- The diagnostics of a file. -/
def Group.toJson (g : Group) : Value :=
  .ofFields
    [("target_uri", .string g.target),
     ("diagnostics", .array (g.diagnostics.map Record.toJson))]

end LintBridge
