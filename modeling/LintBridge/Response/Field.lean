import LintBridge.Binary64.Text
import LintBridge.Json.Value
import LintBridge.Text.Blank
import LintBridge.Text.Digit

/-!
# Reading loosely typed fields

The releases of the linter disagree on the types of their fields: a line may be a number or its
text, a code a word or a number, and any field may be missing. The functions here take a value of
any type for what is wanted, or say that it is nothing of the kind.

* `LintBridge.Response.intOf?`, `LintBridge.Response.textOf?` – an integer and a text; **a number
  and its text read alike**;
* `LintBridge.Response.fieldsOf`, `LintBridge.Response.objectsOf` – the fields of an object and the
  objects of an array, none for values of other types;
* `LintBridge.Response.requireObject`, `LintBridge.Response.requireArray` – the same, refusing
  values of other types.
-/

namespace LintBridge.Response

open Json (Value CodePoints)

/-- The fields of an object, by name. -/
abbrev Fields := List (CodePoints × Value)

/-- The integer a value stands for. -/
def intOf? : Value → Option Int
  | .int n => some n
  | .float x => x.toInt?
  | .string t => Text.readInt? (CodePoints.toString t)
  | _ => none

/-- The text a value stands for, trimmed and not empty. -/
def textOf? (v : Value) : Option CodePoints :=
  let text : Option CodePoints := match v with
    | .bool b => some (.ofString (if b then "true" else "false"))
    | .int n => some (.ofString (toString n))
    | .float x => some (.ofString x.text)
    | .string t => some t.strip
    | _ => none
  text.filter (· != [])

/-- The fields of an object, none for other values. -/
def fieldsOf : Value → Fields
  | .object fields => fields
  | _ => []

/-- The fields of a value that is an object. -/
def fields? : Value → Option Fields
  | .object fields => some fields
  | _ => none

/-- The objects among the items of an array, in order; none for other values. -/
def objectsOf : Value → List Fields
  | .array items => items.filterMap fields?
  | _ => []

/-- Why a response is not of the shape it was taken for. -/
inductive ShapeError where
  /-- The named part is not an object. -/
  | notObject (what : String)
  /-- The named part is not an array. -/
  | notArray (what : String)
  /-- The named field is absent. -/
  | noField (name : String)
  /-- The inner document cannot be read, for the given reason. -/
  | innerDocument (reason : String)
  deriving DecidableEq, Repr

/-- The words for a shape error. -/
def ShapeError.message : ShapeError → String
  | .notObject what => s!"{what} is not an object"
  | .notArray what => s!"{what} is not an array"
  | .noField name => s!"no '{name}' field"
  | .innerDocument reason => s!"'error' does not hold JSON: {reason}"

/-- The fields of an object. -/
def requireObject (what : String) : Value → Except ShapeError Fields
  | .object fields => .ok fields
  | _ => .error (.notObject what)

/-- The items of an array. -/
def requireArray (what : String) : Value → Except ShapeError (List Value)
  | .array items => .ok items
  | _ => .error (.notArray what)

end LintBridge.Response
