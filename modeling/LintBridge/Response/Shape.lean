import LintBridge.Json.Reader
import LintBridge.Log
import LintBridge.Response.Entry

/-!
# The shapes of a response

Three shapes are in use. The oldest lists errors without naming a file; the next wraps groups of
diagnostics, each with its file, in a document that is itself the text of a field; the newest wraps
the groups directly.

A decoder knows one shape. It **refuses** a document of another shape with a reason, which lets
other decoders try.

* `LintBridge.Response.Shape` – the three shapes and their names;
* `LintBridge.Response.Shape.groups` – the groups of a document of the shape;
* `LintBridge.Response.Shape.decode` – the outcome of one decoder: groups or a refusal.
-/

namespace LintBridge.Response

open Json (Value CodePoints)

/-- A shape of a response. -/
inductive Shape where
  /-- A list of errors, all of them in the requested document. -/
  | flatList
  /-- Groups inside a document inside a field. -/
  | nestedError
  /-- Groups inside an object. -/
  | protoEnvelope
  deriving DecidableEq, Repr

/-- The name of a shape. -/
def Shape.name : Shape → String
  | .flatList => "flat-list"
  | .nestedError => "nested-error"
  | .protoEnvelope => "proto-envelope"

/-- The shapes, in the order in which they are tried. -/
def Shape.all : List Shape :=
  [.flatList, .nestedError, .protoEnvelope]

/-- Why a decoder comes to no result. -/
inductive DecodeError where
  /-- The document is of another shape. -/
  | shape (error : ShapeError)
  /-- Something nobody provides for. -/
  | mishap (mishap : Mishap)

/-- The file that a group is about. -/
def targetOf? (group : Fields) : Option CodePoints :=
  (textOf? (Json.getD group "uri")).or (textOf? (Json.getD group "path"))

/-- The groups of an array, without the items that are no objects or name no file. -/
def groupsOf (ctx : Context) (items : List Value) : List Group :=
  (items.filterMap fields?).filterMap fun group =>
    (targetOf? group).map fun target => groupOf ctx target (Json.getD group "diagnostics")

/-- The value of a field that has to be there. -/
def requireField (fields : Fields) (name : String) : Except ShapeError Value :=
  match Json.get? fields name with
  | some v => .ok v
  | none => .error (.noField name)

/-- The groups of a list of errors. Entries without a severity are warnings in this shape. -/
def flatGroups (ctx : Context) (response : Value) : Except ShapeError (List Group) := do
  let envelope ← requireObject "response" response
  let entries ← requireField envelope "errors"
  let _ ← requireArray "'errors'" entries
  return [groupOf { ctx with missingSeverity := .warning } (.ofString ctx.requestedUri) entries]

/-- The inner document of a nested response, read where it is a text. -/
def innerDocument (v : Value) : Except DecodeError Value :=
  match v with
  | .string t =>
    match Json.readText t with
    | .ok inner => .ok inner
    | .error (.tooManyDigits count) => .error (.mishap (.tooManyDigits count))
    | .error e => .error (.shape (.innerDocument e.message))
  | v => .ok v

/-- The groups inside an inner document. -/
def innerGroups (ctx : Context) (inner : Value) : Except ShapeError (List Group) := do
  let fields ← requireObject "'error'" inner
  let section_ ← requireObject "'error.lsp'" (Json.getD fields "lsp")
  let items ← requireArray "'error.lsp.diagnostics'" (Json.getD section_ "diagnostics")
  return groupsOf ctx items

/-- The groups of a nested response. -/
def nestedGroups (ctx : Context) (response : Value) : Except DecodeError (List Group) := do
  let envelope ← (requireObject "response" response).mapError .shape
  let inner ← innerDocument (← (requireField envelope "error").mapError .shape)
  (innerGroups ctx inner).mapError .shape

/-- The groups of an enveloped response. -/
def envelopeGroups (ctx : Context) (response : Value) : Except ShapeError (List Group) := do
  let envelope ← requireObject "response" response
  let proto ← requireObject "'lsp_proto'" (← requireField envelope "lsp_proto")
  let items ← requireArray "'lsp_proto.diagnostics'" (Json.getD proto "diagnostics")
  return groupsOf ctx items

/-- The groups of a response of the given shape. -/
def Shape.groups (shape : Shape) (ctx : Context) (response : Value) : Except DecodeError
    (List Group) :=
  match shape with
  | .flatList => (flatGroups ctx response).mapError .shape
  | .nestedError => nestedGroups ctx response
  | .protoEnvelope => (envelopeGroups ctx response).mapError .shape

/-- A group with diagnostics in it. -/
def hasFindings (groups : List Group) : Bool :=
  groups.any fun g => !g.diagnostics.isEmpty

/-- The outcome of one decoder. -/
inductive Outcome where
  /-- The document is of the shape and holds these groups. -/
  | decoded (groups : List Group)
  /-- The document is of another shape. -/
  | refused (reason : String)

/-- What the decoder of a shape makes of a document. -/
def Shape.decode (shape : Shape) (ctx : Context) (response : Value) : Except Mishap Outcome :=
  match shape.groups ctx response with
  | .ok groups => .ok (.decoded groups)
  | .error (.shape e) => .ok (.refused e.message)
  | .error (.mishap m) => .error m

end LintBridge.Response
