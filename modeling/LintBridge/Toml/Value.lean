import LintBridge.Json.Value

/-!
# Values of a settings file

* `LintBridge.Toml.Value` – the values, with tables as lists of entries in the order of writing;
* `LintBridge.Toml.modifyAt` – a change to the table at the end of a path, **creating the tables on
  the way** and refusing to pass through anything else;
* `LintBridge.Toml.Value.toJson` – a value as JSON.
-/

namespace LintBridge.Toml

/-- The kinds of dates and times. -/
inductive Moment where
  /-- A date. -/
  | date
  /-- A time of day. -/
  | time
  /-- A date with a time of day. -/
  | datetime
  deriving DecidableEq, Repr

/-- The name of a kind. -/
def Moment.name : Moment → String
  | .date => "date"
  | .time => "time"
  | .datetime => "datetime"

/-- A value of a settings file. Of dates and times only the kind is kept: no setting is one. -/
inductive Value where
  /-- A string. -/
  | string (s : String)
  /-- An integer. -/
  | int (n : Int)
  /-- A number with a fraction or an exponent, an infinity or no number. -/
  | float (x : Binary64)
  /-- A truth value. -/
  | bool (b : Bool)
  /-- A date or a time. -/
  | moment (kind : Moment)
  /-- An array. -/
  | array (items : List Value)
  /-- A table. -/
  | table (entries : List (String × Value))

instance : Inhabited Value := ⟨.bool false⟩

/-- The entries of a table. -/
abbrev Table := List (String × Value)

/-- Replaces the value of a key that is there. -/
def Table.replace (t : Table) (key : String) (v : Value) : Table :=
  t.map fun (k, old) => if k == key then (k, v) else (k, old)

/-- Changes the table at the end of a path. Tables that are missing on the way are created at the
end of the one above; where `throughArrays`, an array stands for its last item. -/
def modifyAt (throughArrays : Bool) (f : Table → Option Table) : List String → Table → Option Table
  | [], t => f t
  | k :: ks, t =>
    match t.lookup k with
    | none => (modifyAt throughArrays f ks []).map fun sub => t ++ [(k, .table sub)]
    | some (.table sub) =>
      (modifyAt throughArrays f ks sub).map fun sub => Table.replace t k (.table sub)
    | some (.array items) =>
      match throughArrays, items.getLast? with
      | true, some (.table sub) =>
        (modifyAt throughArrays f ks sub).map fun sub =>
          Table.replace t k (.array (items.dropLast ++ [.table sub]))
      | _, _ => none
    | some _ => none

mutual

/-- A value as JSON. A date or a time becomes an empty object, which no setting is either. -/
def Value.toJson : Value → Json.Value
  | .string s => .ofString s
  | .int n => .int n
  | .float x => .float x
  | .bool b => .bool b
  | .moment _ => .object []
  | .array items => .array (itemsToJson items)
  | .table entries => .object (entriesToJson entries)

/-- The items of an array as JSON. -/
def itemsToJson : List Value → List Json.Value
  | [] => []
  | v :: rest => v.toJson :: itemsToJson rest

/-- The entries of a table as the entries of an object. -/
def entriesToJson : List (String × Value) → List (Json.CodePoints × Json.Value)
  | [] => []
  | (k, v) :: rest => (Json.CodePoints.ofString k, v.toJson) :: entriesToJson rest

end

mutual

/-- The first date or time in a value. -/
def Value.moment? : Value → Option Moment
  | .moment kind => some kind
  | .array items => momentOfItems? items
  | .table entries => momentOfEntries? entries
  | _ => none

/-- The first date or time in the items of an array. -/
def momentOfItems? : List Value → Option Moment
  | [] => none
  | v :: rest => v.moment?.or (momentOfItems? rest)

/-- The first date or time in the entries of a table. -/
def momentOfEntries? : List (String × Value) → Option Moment
  | [] => none
  | (_, v) :: rest => v.moment?.or (momentOfEntries? rest)

end

end LintBridge.Toml
