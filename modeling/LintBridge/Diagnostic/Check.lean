import LintBridge.Checked.Scalar
import LintBridge.Diagnostic

/-!
# Diagnostics read from structured values

Each structure of `LintBridge.Diagnostic` can be read from an object with its fields. A field
without a default must be there, fields that the structure does not have are passed over, and the
two places of a span are compared once both are valid.
-/

namespace LintBridge

open Json (Value)
open Checked (required defaulted)

/-- A severity by number, in any spelling of an integer. -/
def Severity.check (v : Value) : Checked Severity :=
  match Checked.int v with
  | .valid n =>
    match Severity.ofNumber? n with
    | some s => .valid s
    | none => .refuse .notSeverity
  | _ => .refuse .notSeverity

/-- A place given by two integers. -/
def Position.ofInts (line character : Int) : Checked Position :=
  Position.mk <$> required "line" (Checked.atLeast 0) fields
    <*> required "character" (Checked.atLeast 0) fields
where
  /-- The two integers as fields. -/
  fields : List (Json.CodePoints × Value) :=
    [(Json.CodePoints.ofString "line", .int line),
     (Json.CodePoints.ofString "character", .int character)]

/-- A place. -/
def Position.check (v : Value) : Checked Position :=
  (Checked.entries "Position" v).andThen fun fields =>
    Position.mk <$> defaulted "line" 0 (Checked.atLeast 0) fields
      <*> defaulted "character" 0 (Checked.atLeast 0) fields

/-- The span between two places, which must be in order. -/
def Range.between (start stop : Position) : Checked Range :=
  match Range.of? start stop with
  | some range => .valid range
  | none => .refuse (.rejected (Range.disorder start stop))

/-- A span. -/
def Range.check (v : Value) : Checked Range :=
  (Checked.entries "Range" v).andThen fun fields =>
    (Prod.mk <$> defaulted "start" {} Position.check fields
      <*> defaulted "end" {} Position.check fields).andThen fun (start, stop) =>
        Range.between start stop

/-- A span in a file. -/
def Location.check (v : Value) : Checked Location :=
  (Checked.entries "Location" v).andThen fun fields =>
    Location.mk <$> required "uri" Checked.text fields <*> required "range" Range.check fields

/-- A place elsewhere. -/
def Related.check (v : Value) : Checked Related :=
  (Checked.entries "RelatedInformation" v).andThen fun fields =>
    Related.mk <$> required "location" Location.check fields
      <*> required "message" Checked.text fields

/-- A diagnostic. -/
def Record.check (v : Value) : Checked Record :=
  (Checked.entries "DiagnosticRecord" v).andThen fun fields =>
    Record.mk <$> required "range" Range.check fields
      <*> required "message" Checked.text fields
      <*> required "severity" Severity.check fields
      <*> defaulted "code" none (Checked.optional Checked.text) fields
      <*> defaulted "source" (.ofString "chalk") Checked.text fields
      <*> defaulted "related_information" [] (Checked.tupleOf Related.check) fields

/-- The diagnostics of a file. -/
def Group.check (v : Value) : Checked Group :=
  (Checked.entries "DiagnosticGroup" v).andThen fun fields =>
    Group.mk <$> required "target_uri" Checked.text fields
      <*> defaulted "diagnostics" [] (Checked.tupleOf Record.check) fields

end LintBridge
