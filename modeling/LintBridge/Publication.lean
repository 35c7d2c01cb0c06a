import LintBridge.Diagnostic.Json
import LintBridge.Failure
import LintBridge.Uri

/-!
# Publishing diagnostics to an editor

An editor is told the whole set of diagnostics of a document at once. Its protocol has bounds on
numbers and names files by URI only, so a set may not be deliverable; then **nothing of it is
delivered**.

* `LintBridge.Publication` – the diagnostics of a document at some version of it;
* `LintBridge.Publication.Notice` – a publication in the terms of the editor;
* `LintBridge.Publication.notice` – the notice of a publication, or what prevents it;
* `LintBridge.Publication.Notice.toJson` – a notice as the editor reads it.
-/

namespace LintBridge

open Json (Value CodePoints)

/-- The diagnostics of a document at some version of it. -/
structure Publication where
  /-- The URI of the document. -/
  uri : String
  /-- Its diagnostics, all of them. -/
  records : List Record
  /-- The version they were found in, absent where there is none. -/
  version : Option Int
  deriving DecidableEq, Repr

namespace Publication

/-- A place elsewhere, in the terms of the editor. -/
structure RelatedItem where
  /-- The URI of the file. -/
  uri : CodePoints
  /-- The span. -/
  range : Range
  /-- What is to be seen there. -/
  message : CodePoints
  deriving DecidableEq, Repr

/-- A diagnostic in the terms of the editor. -/
structure Item where
  /-- The span it concerns. -/
  range : Range
  /-- What is wrong. -/
  message : CodePoints
  /-- The number of its severity. -/
  severity : Nat
  /-- The rule it comes from. -/
  code : Option CodePoints
  /-- The tool it comes from. -/
  source : CodePoints
  /-- Places elsewhere that explain it; absent rather than empty. -/
  related : Option (List RelatedItem)
  deriving DecidableEq, Repr

/-- A publication in the terms of the editor. -/
structure Notice where
  /-- The URI of the document. -/
  uri : String
  /-- The version of the document. -/
  version : Option Int
  /-- The diagnostics, in order. -/
  diagnostics : List Item
  deriving DecidableEq, Repr

/-! ### Bounds -/

/-- The largest line or character number that the protocol has. -/
def maxCoordinate : Nat := 2147483647

/-- The least version number that the protocol has. -/
def minVersion : Int := -2147483648

/-- The largest version number that the protocol has. -/
def maxVersion : Int := 2147483647

/-- Refuses a line or a character number beyond the bound. -/
def checkCoordinate (what : String) (n : Nat) : Except Mishap Unit :=
  if n ≤ maxCoordinate then .ok () else .error (.outOfRange what 0 maxCoordinate n)

/-- Refuses a place beyond the bounds, its line first. -/
def checkPosition (p : Position) : Except Mishap Unit := do
  checkCoordinate "Position.line" p.line
  checkCoordinate "Position.character" p.character

/-- Refuses a span beyond the bounds, its start first. -/
def checkRange (r : Range) : Except Mishap Unit := do
  checkPosition r.start
  checkPosition r.stop

/-- Refuses a version beyond the bounds. -/
def checkVersion : Option Int → Except Mishap Unit
  | none => .ok ()
  | some n =>
    if minVersion ≤ n ∧ n ≤ maxVersion then .ok ()
    else .error (.outOfRange "PublishDiagnosticsParams.version" minVersion maxVersion n)

/-! ### Notices -/

/-- A place elsewhere, in the terms of the editor. -/
def relatedItem (r : Related) : Except Mishap RelatedItem := do
  let uri ← (Uri.ofTarget r.location.uri).mapError .badTarget
  checkRange r.location.range
  return { uri, range := r.location.range, message := r.message }

/-- Places elsewhere, in the terms of the editor. -/
def relatedItems : List Related → Except Mishap (List RelatedItem)
  | [] => .ok []
  | r :: rest => do
    let item ← relatedItem r
    return item :: (← relatedItems rest)

/-- A diagnostic in the terms of the editor. -/
def item (r : Record) : Except Mishap Item := do
  let related ← relatedItems r.related
  checkRange r.range
  return { range := r.range, message := r.message, severity := r.severity.number, code := r.code
           source := r.source, related := if related.isEmpty then none else some related }

/-- Diagnostics in the terms of the editor. -/
def items : List Record → Except Mishap (List Item)
  | [] => .ok []
  | r :: rest => do
    let first ← item r
    return first :: (← items rest)

/-- A publication in the terms of the editor. -/
def notice (p : Publication) : Except Mishap Notice := do
  let diagnostics ← items p.records
  checkVersion p.version
  return { uri := p.uri, version := p.version, diagnostics }

/-! ### Notices as JSON -/

/-- A place elsewhere as the editor reads it. -/
def RelatedItem.toJson (r : RelatedItem) : Value :=
  .ofFields
    [("location", .ofFields [("uri", .string r.uri), ("range", r.range.toJson)]),
     ("message", .string r.message)]

/-- A field that is left out where it has no value. -/
def optionalField {α : Type} (name : String) (f : α → Value) (x : Option α) : List
    (String × Value) :=
  (x.map fun a => (name, f a)).toList

/-- A diagnostic as the editor reads it. -/
def Item.toJson (i : Item) : Value :=
  .ofFields
    ([("range", i.range.toJson), ("message", .string i.message), ("severity", .int i.severity)] ++
      optionalField "code" Value.string i.code ++ [("source", .string i.source)] ++
      optionalField "relatedInformation" (fun rs => .array (rs.map RelatedItem.toJson)) i.related)

/-- A notice as the editor reads it. -/
def Notice.toJson (n : Notice) : Value :=
  .ofFields
    ([("uri", .ofString n.uri)] ++ optionalField "version" .int n.version ++
      [("diagnostics", .array (n.diagnostics.map Item.toJson))])

end Publication

end LintBridge
