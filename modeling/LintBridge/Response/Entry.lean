import LintBridge.Diagnostic
import LintBridge.Response.Field

/-!
# One entry of a response

An entry describes one diagnostic. Whatever it holds, the diagnostic made of it is well formed:
numbers that are missing, negative or no numbers count as zero, an end before the start becomes the
start, and an entry without a message makes no diagnostic.

* `LintBridge.Response.Context` – what the response itself does not say;
* `LintBridge.Response.positionOf`, `LintBridge.Response.rangeOf` – places and spans;
* `LintBridge.Response.relatedOf` – places elsewhere, of which those without a file are left out;
* `LintBridge.Response.recordOf?`, `LintBridge.Response.groupOf` – the diagnostic of an entry and
  those of a list of entries.
-/

namespace LintBridge.Response

open Json (Value CodePoints)

/-- What is known about a request before its response is read. -/
structure Context where
  /-- The document the linter was asked about. -/
  requestedUri : String
  /-- The tool named in diagnostics. -/
  source : CodePoints := .ofString "chalk"
  /-- The severity of an entry that has none. -/
  missingSeverity : Severity := Severity.fallback
  deriving DecidableEq, Repr

/-- A line or a character number. -/
def coordinate (v : Value) : Nat :=
  match intOf? v with
  | some n => n.toNat
  | none => 0

/-- A place. -/
def positionOf (v : Value) : Position where
  line := coordinate (Json.getD (fieldsOf v) "line")
  character := coordinate (Json.getD (fieldsOf v) "character")

/-- The span from `start` to `stop`, or the empty span at `start` where `stop` comes before it. -/
def spanFrom (start stop : Position) : Range :=
  if h : ¬ stop.Before start then ⟨start, stop, h⟩
  else ⟨start, start, by simp [Position.Before]⟩

/-- A span. Where no end is given it is empty. -/
def rangeOf (v : Value) : Range :=
  let fields := fieldsOf v
  let start := positionOf (Json.getD fields "start")
  match Json.get? fields "end" with
  | some stop => spanFrom start (positionOf stop)
  | none => spanFrom start start

/-- A code, which may be wrapped in an object that describes it. -/
def codeOf? : Value → Option CodePoints
  | .object fields => textOf? (Json.getD fields "value")
  | v => textOf? v

/-- A place elsewhere, if it names a file. -/
def relatedItemOf? (item : Fields) : Option Related :=
  let location := fieldsOf (Json.getD item "location")
  (textOf? (Json.getD location "uri")).map fun uri =>
    { location := { uri, range := rangeOf (Json.getD location "range") }
      message := (textOf? (Json.getD item "message")).getD [] }

/-- The places elsewhere that name a file, in order. -/
def relatedOf (v : Value) : List Related :=
  (objectsOf v).filterMap relatedItemOf?

/-- The message of an entry, if it has one to show. -/
def messageOf? (entry : Fields) : Option CodePoints :=
  match Json.getD entry "message" with
  | .string t => if t.isAllBlank then none else some t
  | _ => none

/-- The diagnostic of an entry, if it has a message. -/
def recordOf? (ctx : Context) (entry : Fields) : Option Record :=
  (messageOf? entry).map fun message =>
    { range := rangeOf (Json.getD entry "range")
      message
      severity := match Json.getD entry "severity" with
        | .null => ctx.missingSeverity
        | v => Severity.ofValue v
      code := codeOf? (Json.getD entry "code")
      source := ctx.source
      related := relatedOf (Json.getD entry "relatedInformation") }

/-- The diagnostics of a list of entries, in order. -/
def groupOf (ctx : Context) (target : CodePoints) (entries : Value) : Group where
  target := target
  diagnostics := (objectsOf entries).filterMap (recordOf? ctx)

end LintBridge.Response
