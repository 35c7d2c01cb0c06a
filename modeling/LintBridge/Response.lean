import LintBridge.Linter.Output
import LintBridge.Response.Shape
import LintBridge.Response.Stream

/-!
# Reading what the linter wrote

Each document of the output is shown to the decoders in order, and **the first that finds a
diagnostic wins**. A decoder that knows the shape but finds nothing lets the others try; a document
that no decoder knows is reported in the log with the reasons of all of them.

Which decoders there are is not decided here: the walk through them asks of each no more than a name
and what it makes of a document. The program itself has one for each shape.

* `LintBridge.Response.Decoder` – a decoder, and `LintBridge.Response.Shape.decoder` – that of a
  shape;
* `LintBridge.Response.tryDecoders` – the decoders on one document;
* `LintBridge.Response.decodeWith` – the groups of one document, with the log;
* `LintBridge.Response.decodeDocument` – the same with the decoders of given shapes;
* `LintBridge.Response.parse` – the groups of a whole output.
-/

namespace LintBridge.Response

open Json (Value)

/-- A decoder of documents. -/
structure Decoder where
  /-- Its name, by which the log speaks of it. -/
  name : String
  /-- What it makes of a document. -/
  decode : Context → Value → Except Mishap Outcome

/-- The decoder of a shape. -/
def Shape.decoder (shape : Shape) : Decoder where
  name := shape.name
  decode := shape.decode

/-- What a list of decoders makes of a document. -/
structure Attempt where
  /-- The groups of the decoder that found something. -/
  groups : List Group
  /-- Whether some decoder knows the shape. -/
  recognised : Bool
  /-- The refusals, each with the name of the decoder it comes from. -/
  refusals : List (String × String)

/-- Shows a document to decoders in order, up to the first that finds a diagnostic. -/
def tryDecoders (ctx : Context) (document : Value) : List Decoder → Except Mishap Attempt
  | [] => .ok ⟨[], false, []⟩
  | decoder :: rest => do
    match ← decoder.decode ctx document with
    | .refused reason =>
      let attempt ← tryDecoders ctx document rest
      return { attempt with refusals := (decoder.name, reason) :: attempt.refusals }
    | .decoded groups =>
      if hasFindings groups then return ⟨groups, true, []⟩
      let attempt ← tryDecoders ctx document rest
      return { attempt with recognised := true }

/-- The words for a document that no decoder knows. -/
def unrecognised (refusals : List (String × String)) : String :=
  let reasons := "; ".intercalate (refusals.map fun (name, reason) => s!"{name}: {reason}")
  s!"Unrecognised linter response ({reasons})"

/-- The groups of one document. -/
def decodeWith (decoders : List Decoder) (ctx : Context) (document : Value) : Traced Mishap
    (List Group) :=
  do
    let attempt ← Traced.of (tryDecoders ctx document decoders)
    if !attempt.recognised then Traced.say .warning (unrecognised attempt.refusals)
    return attempt.groups

/-- The groups of one document that has one of the given shapes. -/
def decodeDocument (shapes : List Shape) (ctx : Context) (document : Value) : Traced Mishap
    (List Group) :=
  decodeWith (shapes.map Shape.decoder) ctx document

/-- The groups of several documents, in order. -/
def decodeDocuments (shapes : List Shape) (ctx : Context) : List Value → Traced Mishap (List Group)
  | [] => pure []
  | document :: rest => do
    let groups ← decodeDocument shapes ctx document
    let more ← decodeDocuments shapes ctx rest
    return groups ++ more

/-- The groups of what the linter wrote to standard output. What holds no document is reported and
counts as no problems. -/
def parse (shapes : List Shape) (ctx : Context) (stdout : String) : Traced Mishap (List Group) :=
  match documents stdout with
  | .error (.notJson whole) => do
    Traced.say .warning s!"Failed to parse linter output: {notJson whole}"
    return []
  | .error (.mishap m) => Traced.fail m
  | .ok docs => decodeDocuments shapes ctx docs

end LintBridge.Response
