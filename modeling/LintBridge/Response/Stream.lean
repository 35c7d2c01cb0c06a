import LintBridge.Failure
import LintBridge.Json.Reader
import LintBridge.Text.Lines

/-!
# The documents in an output

The linter writes one JSON document, or one on each line among lines of other kinds. The output as a
whole is tried first; only where it is no document are its lines read one by one, and those that are
no documents are passed over.

* `LintBridge.Response.documents` – the documents in an output, in order;
* `LintBridge.Response.StreamError` – why there are none.
-/

namespace LintBridge.Response

open Json (Value)

/-- Why an output holds no documents. -/
inductive StreamError where
  /-- Neither the output nor any of its lines is a document; the error is that of the whole output.
  -/
  | notJson (whole : Json.Error)
  /-- Something nobody provides for. -/
  | mishap (mishap : Mishap)

/-- The words for an output that holds no documents. -/
def notJson (whole : Json.Error) : String :=
  s!"stdout is not JSON: {whole.message}"

/-- The documents on lines that are trimmed and not blank; lines that are no documents are passed
over. -/
def lineDocuments : List (List Char) → Except Mishap (List Value)
  | [] => .ok []
  | line :: rest =>
    match Text.stripList Text.isBlank line with
    | [] => lineDocuments rest
    | line =>
      match Json.read (String.ofList line) with
      | .ok v => (lineDocuments rest).map (v :: ·)
      | .error (.tooManyDigits count) => .error (.tooManyDigits count)
      | .error _ => lineDocuments rest

/-- The documents in an output, none where it is blank. -/
def documents (stdout : String) : Except StreamError (List Value) :=
  match Text.stripList Text.isBlank stdout.toList with
  | [] => .ok []
  | text =>
    match Json.read (String.ofList text) with
    | .ok v => .ok [v]
    | .error (.tooManyDigits count) => .error (.mishap (.tooManyDigits count))
    | .error whole =>
      match lineDocuments (Text.lines text) with
      | .ok [] => .error (.notJson whole)
      | .ok vs => .ok vs
      | .error m => .error (.mishap m)

end LintBridge.Response
