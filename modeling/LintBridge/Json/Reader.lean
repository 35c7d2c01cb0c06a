import LintBridge.Json.Value
import LintBridge.Text.Digit

/-!
# Reading JSON

A document is one value with blanks around it. The reader accepts the words `NaN`, `Infinity` and
`-Infinity` as numbers and refuses raw control characters in strings; it reports what it expected
and where, counted in characters from the start of the document.

A step of the reader takes the characters still to be read and returns the rest. A fault is recorded
by the number of characters that remained, which needs no position to be carried along; the place is
worked out once, when the fault is reported. Arrays and objects are nested at most `maxDepth` deep,
and the depth still allowed is what the reader recurses on. How strings are read is left to the
caller.

* `LintBridge.Json.readString`, `LintBridge.Json.readNumber`, `LintBridge.Json.readValue` – the
  steps;
* `LintBridge.Json.read` – a document;
* `LintBridge.Json.readText` – a document that is itself the text of a document, and **keeps the
  surrogates** in its strings;
* `LintBridge.Json.Error` – why a text is no document, with `LintBridge.Json.Error.message`.
-/

namespace LintBridge.Json

open Text (hexValue? decimalValue maxDigits)

/-- What is wrong at a place of a document. -/
inductive Problem where
  /-- No value stands where one is due. -/
  | expectingValue
  /-- Something follows the value. -/
  | extraData
  /-- Neither a comma nor the end of the array or object. -/
  | expectingComma
  /-- No colon after a name. -/
  | expectingColon
  /-- No name where an entry is due. -/
  | expectingName
  /-- A string without an end. -/
  | unterminatedString
  /-- A control character inside a string. -/
  | controlCharacter
  /-- A backslash before a character that cannot be escaped. -/
  | badEscape
  /-- An escape by number without its four digits. -/
  | badUnicodeEscape
  /-- A byte order mark before the document. -/
  | byteOrderMark
  deriving DecidableEq, Repr

/-- The words for a problem. -/
def Problem.message : Problem → String
  | .expectingValue => "Expecting value"
  | .extraData => "Extra data"
  | .expectingComma => "Expecting ',' delimiter"
  | .expectingColon => "Expecting ':' delimiter"
  | .expectingName => "Expecting property name enclosed in double quotes"
  | .unterminatedString => "Unterminated string starting at"
  | .controlCharacter => "Invalid control character at"
  | .badEscape => "Invalid \\escape"
  | .badUnicodeEscape => "Invalid \\uXXXX escape"
  | .byteOrderMark => "Unexpected UTF-8 BOM (decode using utf-8-sig)"

/-- The two kinds of value that hold others. -/
inductive Container where
  /-- An array. -/
  | array
  /-- An object. -/
  | object
  deriving DecidableEq, Repr

/-- Why a step failed. -/
inductive Fault where
  /-- A problem with `remaining` characters, its own included, still to be read. -/
  | malformed (problem : Problem) (remaining : Nat)
  /-- An array or object nested too deeply. -/
  | tooDeep (container : Container)
  /-- An integer with too many digits. -/
  | tooManyDigits (count : Nat)

/-- How deeply arrays and objects may be nested. -/
def maxDepth : Nat := 990

/-- The blanks between the tokens of a document. -/
def isJsonBlank (c : Char) : Bool :=
  c == ' ' || c == '\t' || c == '\n' || c == '\r'

/-- The characters after the blanks at the front. -/
def skipBlanks (s : List Char) : List Char :=
  s.dropWhile isJsonBlank

/-- The value of four hexadecimal digits. -/
def hexValue4? (a b c d : Char) : Option Nat := do
  let w ← hexValue? a
  let x ← hexValue? b
  let y ← hexValue? c
  let z ← hexValue? d
  some (((w * 16 + x) * 16 + y) * 16 + z)

/-- The code point of an escape by number. -/
def codePoint (n : Nat) : CodePoint :=
  if 0xD800 ≤ n && n < 0xE000 then .surrogate (Fin.ofNat 2048 (n - 0xD800))
  else .scalar (Char.ofNat n)

/-- The character that a backslash and the given character stand for. -/
def simpleEscape? (c : Char) : Option Char :=
  match c with
  | '"' => some '"'
  | '\\' => some '\\'
  | '/' => some '/'
  | 'b' => some '\x08'
  | 'f' => some '\x0c'
  | 'n' => some '\n'
  | 'r' => some '\r'
  | 't' => some '\t'
  | _ => none

/-- Reads the inside of a string up to its closing quotation mark; `opening` characters remained at
the opening one. An escape by number must be followed by at least one more character. -/
def readUnits (opening : Nat) : List Char → Except Fault (CodePoints × List Char)
  | [] => .error (.malformed .unterminatedString opening)
  | '"' :: rest => .ok ([], rest)
  | ['\\'] => .error (.malformed .unterminatedString opening)
  | '\\' :: 'u' :: a :: b :: c :: d :: rest =>
    match rest, hexValue4? a b c d with
    | _ :: _, some n => do
      let (t, rest) ← readUnits opening rest
      .ok (codePoint n :: t, rest)
    | _, _ => .error (.malformed .badUnicodeEscape (rest.length + 5))
  | '\\' :: c :: rest =>
    if c == 'u' then .error (.malformed .badUnicodeEscape (rest.length + 1))
    else
      match simpleEscape? c with
      | some e => do
        let (t, rest) ← readUnits opening rest
        .ok (.scalar e :: t, rest)
      | none => .error (.malformed .badEscape (rest.length + 2))
  | c :: rest =>
    if c.val < 32 then .error (.malformed .controlCharacter (rest.length + 1))
    else do
      let (t, rest) ← readUnits opening rest
      .ok (.scalar c :: t, rest)

/-- A text in which each high surrogate followed by a low one has become the character of the pair.
-/
def joinSurrogates : CodePoints → CodePoints
  | [] => []
  | .surrogate high :: .surrogate low :: rest =>
    if high.val < 1024 && 1024 ≤ low.val then
      .scalar (Char.ofNat (0x10000 + high.val * 1024 + (low.val - 1024))) :: joinSurrogates rest
    else
      .surrogate high :: joinSurrogates (.surrogate low :: rest)
  | p :: rest => p :: joinSurrogates rest

/-- Reads a string after its opening quotation mark. -/
def readString (rest : List Char) : Except Fault (CodePoints × List Char) := do
  let (t, rest) ← readUnits (rest.length + 1) rest
  .ok (joinSurrogates t, rest)

/-- Splits the digits at the front off. -/
def splitDigits (s : List Char) : List Char × List Char :=
  (s.takeWhile Char.isDigit, s.dropWhile Char.isDigit)

/-- Splits the whole part of a number off: a zero, or digits that do not begin with one. -/
def splitWhole : List Char → List Char × List Char
  | '0' :: rest => (['0'], rest)
  | s => splitDigits s

/-- Splits a fraction off, which is a point with digits after it. -/
def splitFraction : List Char → List Char × List Char
  | '.' :: rest =>
    match splitDigits rest with
    | ([], _) => ([], '.' :: rest)
    | found => found
  | s => ([], s)

/-- Splits an exponent off, which is an `e` with an optional sign and digits after it. -/
def splitExponent (s : List Char) : Option Int × List Char :=
  match s with
  | e :: rest =>
    if e == 'e' || e == 'E' then
      let (negative, body) : Bool × List Char :=
        match rest with
        | '-' :: r => (true, r)
        | '+' :: r => (false, r)
        | r => (false, r)
      match splitDigits body with
      | ([], _) => (none, s)
      | (ds, r) =>
        let n : Int := decimalValue ds
        (some (if negative then -n else n), r)
    else (none, s)
  | [] => (none, [])

/-- Reads a number. Without fraction and exponent it is an integer. -/
def readNumber (s : List Char) : Except Fault (Value × List Char) :=
  let (negative, body) : Bool × List Char :=
    match s with
    | '-' :: rest => (true, rest)
    | _ => (false, s)
  match splitWhole body with
  | ([], _) => .error (.malformed .expectingValue s.length)
  | (whole, rest) =>
    match splitFraction rest with
    | (fraction, rest) =>
      match fraction, splitExponent rest with
      | [], (none, rest) =>
        if whole.length > maxDigits then .error (.tooManyDigits whole.length)
        else
          let n : Int := decimalValue whole
          .ok (.int (if negative then -n else n), rest)
      | _, (exponent, rest) =>
        let digits := decimalValue (whole ++ fraction)
        .ok (.float (Binary64.ofDecimal negative digits (exponent.getD 0 - fraction.length)), rest)

/-- A step of the reader. -/
abbrev Step (α : Type) := List Char → Except Fault (α × List Char)

/-- Reads the items of an array that is not empty, and its end. -/
def readItems (item : Step Value) : (fuel : Nat) → Step (List Value)
  | 0, s => .error (.malformed .expectingValue s.length)
  | fuel + 1, s => do
    let (v, rest) ← item s
    match skipBlanks rest with
    | ']' :: rest => .ok ([v], rest)
    | ',' :: rest => do
      let (vs, rest) ← readItems item fuel (skipBlanks rest)
      .ok (v :: vs, rest)
    | rest => .error (.malformed .expectingComma rest.length)

/-- Reads a name and its value. -/
def readEntry (string : Step CodePoints) (item : Step Value) : Step (CodePoints × Value)
  | '"' :: rest => do
    let (key, rest) ← string rest
    match skipBlanks rest with
    | ':' :: rest => do
      let (v, rest) ← item (skipBlanks rest)
      .ok ((key, v), rest)
    | rest => .error (.malformed .expectingColon rest.length)
  | s => .error (.malformed .expectingName s.length)

/-- Reads the entries of an object that is not empty, and its end. -/
def readEntries (string : Step CodePoints) (item : Step Value) :
    (fuel : Nat) → Step (List (CodePoints × Value))
  | 0, s => .error (.malformed .expectingName s.length)
  | fuel + 1, s => do
    let (entry, rest) ← readEntry string item s
    match skipBlanks rest with
    | '}' :: rest => .ok ([entry], rest)
    | ',' :: rest => do
      let (entries, rest) ← readEntries string item fuel (skipBlanks rest)
      .ok (entry :: entries, rest)
    | rest => .error (.malformed .expectingComma rest.length)

/-- Reads an array after its opening bracket. -/
def readArray (item : Step Value) : Step Value := fun s =>
  match skipBlanks s with
  | ']' :: rest => .ok (.array [], rest)
  | rest => do
    let (items, rest) ← readItems item rest.length.succ rest
    .ok (.array items, rest)

/-- Reads an object after its opening brace. -/
def readObject (string : Step CodePoints) (item : Step Value) : Step Value := fun s =>
  match skipBlanks s with
  | '}' :: rest => .ok (.object [], rest)
  | rest => do
    let (entries, rest) ← readEntries string item rest.length.succ rest
    .ok (.object (ofEntries entries), rest)

/-- Reads a value that holds no others. -/
def readScalar (string : Step CodePoints) : Step Value
  | '"' :: rest => do
    let (t, rest) ← string rest
    .ok (.string t, rest)
  | 'n' :: 'u' :: 'l' :: 'l' :: rest => .ok (.null, rest)
  | 't' :: 'r' :: 'u' :: 'e' :: rest => .ok (.bool true, rest)
  | 'f' :: 'a' :: 'l' :: 's' :: 'e' :: rest => .ok (.bool false, rest)
  | 'N' :: 'a' :: 'N' :: rest => .ok (.float .nan, rest)
  | 'I' :: 'n' :: 'f' :: 'i' :: 'n' :: 'i' :: 't' :: 'y' :: rest =>
    .ok (.float (.infinity false), rest)
  | '-' :: 'I' :: 'n' :: 'f' :: 'i' :: 'n' :: 'i' :: 't' :: 'y' :: rest =>
    .ok (.float (.infinity true), rest)
  | s => readNumber s

/-- Reads a value in which arrays and objects are nested at most `depth` deep. -/
def readValue (string : Step CodePoints) : (depth : Nat) → Step Value
  | 0 => fun s =>
    match s with
    | '[' :: _ => .error (.tooDeep .array)
    | '{' :: _ => .error (.tooDeep .object)
    | s => readScalar string s
  | depth + 1 => fun s =>
    match s with
    | '[' :: rest => readArray (readValue string depth) rest
    | '{' :: rest => readObject string (readValue string depth) rest
    | s => readScalar string s

/-- A place in a document. -/
structure Place where
  /-- The line, counted from one. -/
  line : Nat
  /-- The column, counted from one. -/
  column : Nat
  /-- The number of characters before the place. -/
  offset : Nat

/-- The place before which the given characters stand. -/
def Place.after (before : List Char) : Place where
  line := 1 + before.count '\n'
  column := 1 + (before.reverse.takeWhile (· != '\n')).length
  offset := before.length

/-- Why a text is no document. -/
inductive Error where
  /-- Something is wrong at a place. -/
  | malformed (problem : Problem) (place : Place)
  /-- An array or object is nested too deeply. -/
  | tooDeep (container : Container)
  /-- An integer has too many digits. -/
  | tooManyDigits (count : Nat)

/-- The error a fault in a document is reported as. -/
def Fault.toError (document : List Char) : Fault → Error
  | .malformed problem remaining =>
    .malformed problem (.after (document.take (document.length - remaining)))
  | .tooDeep container => .tooDeep container
  | .tooManyDigits count => .tooManyDigits count

/-- The words for an error. -/
def Error.message : Error → String
  | .malformed problem place =>
    s!"{problem.message}: line {place.line} column {place.column} (char {place.offset})"
  | .tooDeep container =>
    let kind := match container with
      | .array => "array"
      | .object => "object"
    s!"maximum recursion depth exceeded while decoding a JSON {kind} from a unicode string"
  | .tooManyDigits count =>
    s!"Exceeds the limit ({maxDigits} digits) for integer string conversion: " ++
      s!"value has {count} digits; " ++
      "use sys.set_int_max_str_digits() to increase the limit"

/-- Reads a document up to its end. -/
def readDocument (string : Step CodePoints) (s : List Char) : Except Fault Value :=
  match s with
  | '\uFEFF' :: _ => .error (.malformed .byteOrderMark s.length)
  | _ => do
    let (v, rest) ← readValue string maxDepth (skipBlanks s)
    match skipBlanks rest with
    | [] => .ok v
    | rest => .error (.malformed .extraData rest.length)

/-- The value a document holds. -/
def read (document : String) : Except Error Value :=
  (readDocument readString document.toList).mapError (Fault.toError document.toList)

/-! ### Documents with surrogates in them -/

/-- The text that the inside of a string stands for. A surrogate stands for itself, and is not
joined with what an escape beside it stands for; `stretch` holds the characters since the last one.
-/
def respell (stretch : List Char) : CodePoints → CodePoints
  | [] => spelled stretch
  | .scalar c :: rest => respell (stretch ++ [c]) rest
  | .surrogate n :: rest => spelled stretch ++ .surrogate n :: respell [] rest
where
  /-- The text that characters without a quotation mark stand for. -/
  spelled (stretch : List Char) : CodePoints :=
    match readString (stretch ++ ['"']) with
    | .ok (t, _) => t
    | .error _ => []

/-- Reads a string of a document that may hold surrogates, and of which the given characters are the
last ones, with other characters in the place of surrogates. -/
def readStringOf (document : CodePoints) : Step CodePoints := fun s => do
  let (t, rest) ← readString s
  let inside := (document.drop (document.length - s.length)).take (s.length - rest.length - 1)
  .ok (if inside.any (·.isSurrogate) then respell [] inside else t, rest)

/-- The value that a document holds that may itself hold surrogates. They are read like characters
that are not part of any token but a string. -/
def readText (document : CodePoints) : Except Error Value :=
  let s := document.toString.toList
  (readDocument (readStringOf document) s).mapError (Fault.toError s)

end LintBridge.Json
