import LintBridge.Binary64.Basic
import LintBridge.Json.CodePoints

/-!
# JSON values

The values a linter prints and an editor sends. Integers are exact, numbers with a fraction or an
exponent are doubles, and an object is the list of its entries in the order in which their keys
first appeared.

* `LintBridge.Json.Value` – the values;
* `LintBridge.Json.insert` – an entry put into an object, where **the last value of a key wins and
  the first place of a key stays**;
* `LintBridge.Json.get?` – the value of a key.
-/

namespace LintBridge.Json

/-- A JSON value. -/
inductive Value where
  /-- The value `null`. -/
  | null
  /-- A truth value. -/
  | bool (b : Bool)
  /-- A number written without fraction and exponent. -/
  | int (n : Int)
  /-- A number written with a fraction or an exponent, or one of the words for the special values.
  -/
  | float (x : Binary64)
  /-- A string. -/
  | string (t : CodePoints)
  /-- An array. -/
  | array (items : List Value)
  /-- An object: its entries, in the order in which their keys first appeared. -/
  | object (entries : List (CodePoints × Value))

instance : Inhabited Value := ⟨.null⟩

/-- A string value. -/
def Value.ofString (s : String) : Value :=
  .string (CodePoints.ofString s)

/-- An object whose keys are given as strings. -/
def Value.ofFields (fields : List (String × Value)) : Value :=
  .object (fields.map fun (k, v) => (CodePoints.ofString k, v))

variable {α : Type}

/-- Puts an entry into an object. A key that is there already keeps its place and takes the new
value. -/
def insert (entries : List (CodePoints × α)) (key : CodePoints) (value : α) : List
    (CodePoints × α) :=
  match entries with
  | [] => [(key, value)]
  | (k, v) :: rest => if k == key then (k, value) :: rest else (k, v) :: insert rest key value

/-- The object that a list of entries in the order of writing stands for. -/
def ofEntries (written : List (CodePoints × α)) : List (CodePoints × α) :=
  written.foldl (fun entries (k, v) => insert entries k v) []

/-- The value of a key. -/
def get? (entries : List (CodePoints × α)) (key : String) : Option α :=
  (entries.find? (·.1 == CodePoints.ofString key)).map (·.2)

/-- The value of a key, `null` where the key is absent. -/
def getD (entries : List (CodePoints × Value)) (key : String) : Value :=
  (get? entries key).getD .null

end LintBridge.Json
