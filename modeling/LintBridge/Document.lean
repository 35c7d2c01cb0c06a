import LintBridge.Checked.Scalar

/-!
# Documents

* `LintBridge.Document` – what an editor has open, as it was when a validation was asked for.
-/

namespace LintBridge

open Json (Value)

/-- A document as it was at one moment. -/
structure Document where
  /-- Its URI. -/
  uri : String
  /-- Its version, absent where it is not known. -/
  version : Option Int := none
  /-- Its text. -/
  text : String := ""
  deriving DecidableEq, Repr

/-- A document read from a structured value. -/
def Document.check (v : Value) : Checked Document :=
  (Checked.entries "Document" v).andThen fun fields =>
    Document.mk <$> Checked.required "uri" Checked.string fields
      <*> Checked.defaulted "version" none (Checked.optional Checked.int) fields
      <*> Checked.defaulted "text" "" Checked.string fields

/-- A document as JSON. -/
def Document.toJson (d : Document) : Value :=
  .ofFields
    [("uri", .ofString d.uri),
     ("version", match d.version with
       | some n => .int n
       | none => .null),
     ("text", .ofString d.text)]

end LintBridge
