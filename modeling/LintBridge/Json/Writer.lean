import LintBridge.Binary64.Text
import LintBridge.Json.Value

/-!
# Writing JSON

A value is written in printable ASCII: every other character becomes an escape, as two escapes for a
character beyond the first plane. There is one writer for the two layouts in use, on one line and
with every item on a line of its own; an empty array or object is written without a break in both.

* `LintBridge.Json.Layout` – what is written between the items;
* `LintBridge.Json.write` – a value as text;
* `LintBridge.Json.compact`, `LintBridge.Json.indented` – the two forms as strings.
-/

namespace LintBridge.Json

/-- Four lower-case hexadecimal digits. -/
def hex4 (n : Nat) : List Char :=
  let ds := Nat.toDigits 16 n
  List.replicate (4 - ds.length) '0' ++ ds

/-- An escape by number. -/
def numericEscape (n : Nat) : List Char :=
  '\\' :: 'u' :: hex4 n

/-- A code point as it is written inside a string. -/
def escape : CodePoint → List Char
  | .surrogate n => numericEscape (0xD800 + n.val)
  | .scalar c =>
    let n := c.val.toNat
    if c == '"' then ['\\', '"']
    else if c == '\\' then ['\\', '\\']
    else if c == '\n' then ['\\', 'n']
    else if c == '\r' then ['\\', 'r']
    else if c == '\t' then ['\\', 't']
    else if n == 8 then ['\\', 'b']
    else if n == 12 then ['\\', 'f']
    else if n < 32 then numericEscape n
    else if n < 127 then [c]
    else if n < 0x10000 then numericEscape n
    else
      numericEscape (0xD800 + (n - 0x10000) / 1024) ++ numericEscape (0xDC00 + (n - 0x10000) % 1024)

/-- A text between quotation marks. -/
def writeText (t : CodePoints) : List Char :=
  '"' :: t.flatMap escape ++ ['"']

/-- A number with a fraction or an exponent, or the word for a special value. -/
def writeFloat (x : Binary64) : List Char :=
  (x.textWith ⟨"NaN", "Infinity"⟩).toList

/-- What is written before the first, between two, and after the last of the items at a given depth.
-/
structure Layout where
  /-- Written before the first item. -/
  before : Nat → List Char
  /-- Written between two items. -/
  between : Nat → List Char
  /-- Written after the last item. -/
  after : Nat → List Char

/-- Everything on one line. -/
def Layout.oneLine : Layout where
  before _ := []
  between _ := [',', ' ']
  after _ := []

/-- The start of a line at a given depth, two spaces for each level. -/
def lineStart (depth : Nat) : List Char :=
  '\n' :: List.replicate (2 * depth) ' '

/-- Every item on a line of its own. -/
def Layout.lines : Layout where
  before depth := lineStart (depth + 1)
  between depth := ',' :: lineStart (depth + 1)
  after depth := lineStart depth

mutual

/-- A value as text, at the given depth of nesting. -/
def write (layout : Layout) (depth : Nat) : Value → List Char
  | .null => "null".toList
  | .bool true => "true".toList
  | .bool false => "false".toList
  | .int n => (toString n).toList
  | .float x => writeFloat x
  | .string t => writeText t
  | .array [] => ['[', ']']
  | .array items =>
    '[' :: layout.before depth ++ writeItems layout depth items ++ layout.after depth ++ [']']
  | .object [] => ['{', '}']
  | .object entries =>
    '{' :: layout.before depth ++ writeEntries layout depth entries ++ layout.after depth ++ ['}']

/-- The items of an array as text. -/
def writeItems (layout : Layout) (depth : Nat) : List Value → List Char
  | [] => []
  | [v] => write layout (depth + 1) v
  | v :: rest => write layout (depth + 1) v ++ layout.between depth ++ writeItems layout depth rest

/-- The entries of an object as text. -/
def writeEntries (layout : Layout) (depth : Nat) : List (CodePoints × Value) → List Char
  | [] => []
  | [(k, v)] => writeText k ++ ':' :: ' ' :: write layout (depth + 1) v
  | (k, v) :: rest =>
    writeText k ++ ':' :: ' ' :: write layout (depth + 1) v ++ layout.between depth ++
      writeEntries layout depth rest

end

/-- A value on one line. -/
def compact (v : Value) : String :=
  String.ofList (write .oneLine 0 v)

/-- A value with every item on a line of its own. -/
def indented (v : Value) : String :=
  String.ofList (write .lines 0 v)

end LintBridge.Json
