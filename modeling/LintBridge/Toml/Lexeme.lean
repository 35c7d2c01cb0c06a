import LintBridge.Text.Digit
import LintBridge.Toml.Value

/-!
# Strings, numbers, dates and keys of a settings file

The parts of a settings file that hold no others. Each is read from the front of the text, and the
rest is returned. A text that is not well formed is refused without a reason: all that is told of
such a file is that it cannot be read.

* `LintBridge.Toml.readString` – the four kinds of strings;
* `LintBridge.Toml.readNumber`, `LintBridge.Toml.readMoment` – numbers, dates and times;
* `LintBridge.Toml.readKey` – a key, which may be a path.
-/

namespace LintBridge.Toml

/-- Why a settings file cannot be read. -/
inductive Error where
  /-- It is not well formed. -/
  | malformed
  /-- An integer has too many digits. -/
  | tooManyDigits (count : Nat)
  /-- Arrays and tables are nested too deeply. -/
  | tooDeep
  deriving DecidableEq, Repr

/-- A step of the reader. -/
abbrev Step (α : Type) := List Char → Except Error (α × List Char)

/-- The blanks inside a line. -/
def isInlineBlank (c : Char) : Bool :=
  c == ' ' || c == '\t'

/-- The characters after the blanks at the front. -/
def skipInline (s : List Char) : List Char :=
  s.dropWhile isInlineBlank

/-- The blanks and line ends. -/
def isBlankOrNewline (c : Char) : Bool :=
  isInlineBlank c || c == '\n'

/-- Control characters that may stand nowhere inside a line. -/
def isIllegal (c : Char) : Bool :=
  (c.val < 32 && c != '\t') || c.val == 127

/-! ### Strings -/

/-- The character that a backslash and the given character stand for. -/
def simpleEscape? (c : Char) : Option Char :=
  match c with
  | 'b' => some '\x08'
  | 't' => some '\t'
  | 'n' => some '\n'
  | 'f' => some '\x0c'
  | 'r' => some '\r'
  | '"' => some '"'
  | '\\' => some '\\'
  | _ => none

/-- The character with the number given by hexadecimal digits, which must not be a surrogate. -/
def numbered? (digits : List Char) : Option Char := do
  let ds ← digits.mapM Text.hexValue?
  let n := ds.foldl (fun n d => 16 * n + d) 0
  if n < 0xD800 || (0xDFFF < n && n < 0x110000) then some (Char.ofNat n) else none

/-- What follows a backslash at the end of a line: the next character that is neither blank nor the
end of a line. -/
def continueLine? (s : List Char) : Option (List Char) :=
  match skipInline s with
  | [] => some []
  | '\n' :: rest => some (rest.dropWhile isBlankOrNewline)
  | _ => none

/-- Reads the inside of a string with escapes up to its end. Over several lines the end is three
quotation marks. -/
def readEscaped (multiline : Bool) : (fuel : Nat) → Step (List Char)
  | 0, _ => .error .malformed
  | fuel + 1, s =>
    match s with
    | [] => .error .malformed
    | '"' :: rest =>
      if !multiline then .ok ([], rest)
      else
        match rest with
        | '"' :: '"' :: rest => .ok ([], rest)
        | rest => prepend '"' (readEscaped multiline fuel rest)
    | '\\' :: c :: rest =>
      if multiline && isBlankOrNewline c then
        match continueLine? (c :: rest) with
        | some rest => readEscaped multiline fuel rest
        | none => .error .malformed
      else
        match c, simpleEscape? c with
        | _, some e => prepend e (readEscaped multiline fuel rest)
        | 'u', _ => numbered 4 rest fuel
        | 'U', _ => numbered 8 rest fuel
        | _, _ => .error .malformed
    | c :: rest =>
      if c == '\\' || (isIllegal c && !(multiline && c == '\n')) then .error .malformed
      else prepend c (readEscaped multiline fuel rest)
where
  /-- Puts a character in front of what is read after it. -/
  prepend (c : Char) (x : Except Error (List Char × List Char)) :
      Except Error (List Char × List Char) :=
    x.map fun (cs, rest) => (c :: cs, rest)
  /-- Reads an escape by number. -/
  numbered (width : Nat) (rest : List Char) (fuel : Nat) : Except Error (List Char × List Char) :=
    let digits := rest.take width
    match numbered? digits with
    | some c =>
      if digits.length == width then prepend c (readEscaped multiline fuel (rest.drop width))
      else .error .malformed
    | none => .error .malformed

/-- Reads the inside of a string without escapes on one line. -/
def readLiteral : Step (List Char)
  | [] => .error .malformed
  | '\'' :: rest => .ok ([], rest)
  | c :: rest =>
    if isIllegal c then .error .malformed
    else (readLiteral rest).map fun (cs, rest) => (c :: cs, rest)

/-- Reads the inside of a string without escapes over several lines. -/
def readLongLiteral : Step (List Char)
  | [] => .error .malformed
  | '\'' :: '\'' :: '\'' :: rest => .ok ([], rest)
  | c :: rest =>
    if isIllegal c && c != '\n' then .error .malformed
    else (readLongLiteral rest).map fun (cs, rest) => (c :: cs, rest)

/-- Adds the one or two quotation marks that may stand before the closing three. -/
def withTrailing (mark : Char) (found : List Char × List Char) : String × List Char :=
  match found with
  | (cs, rest) =>
    let extra := (rest.takeWhile (· == mark)).take 2
    (String.ofList (cs ++ extra), rest.drop extra.length)

/-- The text after a line end at its front, if there is one. -/
def skipNewline : List Char → List Char
  | '\n' :: rest => rest
  | rest => rest

/-- Reads a string that stands on one line. -/
def readLineString : Step String
  | '"' :: rest =>
    (readEscaped false (rest.length + 1) rest).map fun (cs, rest) => (String.ofList cs, rest)
  | '\'' :: rest => (readLiteral rest).map fun (cs, rest) => (String.ofList cs, rest)
  | _ => .error .malformed

/-- Reads a string. -/
def readString : Step String
  | '"' :: '"' :: '"' :: rest =>
    (readEscaped true (rest.length + 1) (skipNewline rest)).map (withTrailing '"')
  | '\'' :: '\'' :: '\'' :: rest => (readLongLiteral (skipNewline rest)).map (withTrailing '\'')
  | s => readLineString s

/-! ### Numbers -/

/-- Splits digits off that may have single underscores between them; the underscores are dropped. -/
def splitDigits (isDigit : Char → Bool) : List Char → List Char × List Char
  | '_' :: c :: rest =>
    if isDigit c then
      let (ds, rest) := splitDigits isDigit rest
      (c :: ds, rest)
    else ([], '_' :: c :: rest)
  | c :: rest =>
    if isDigit c then
      let (ds, rest) := splitDigits isDigit rest
      (c :: ds, rest)
    else ([], c :: rest)
  | [] => ([], [])

/-- Splits digits off of which the first must stand at the front. -/
def splitNumeral (isDigit : Char → Bool) (s : List Char) : List Char × List Char :=
  match s with
  | c :: _ => if isDigit c then splitDigits isDigit s else ([], s)
  | [] => ([], [])

/-- The digits of the bases other than ten, by the letter that names the base. -/
def base? (c : Char) : Option (Nat × (Char → Bool)) :=
  match c with
  | 'x' => some (16, fun c => (Text.hexValue? c).isSome)
  | 'o' => some (8, fun c => '0' ≤ c && c ≤ '7')
  | 'b' => some (2, fun c => c == '0' || c == '1')
  | _ => none

/-- Reads an integer in a base other than ten. -/
def readBased? : List Char → Option (Value × List Char)
  | '0' :: c :: rest => do
    let (base, isDigit) ← base? c
    match splitNumeral isDigit rest with
    | ([], _) => none
    | (ds, rest) =>
      let n := ds.foldl (fun n d => base * n + (Text.hexValue? d).getD 0) 0
      some (.int n, rest)
  | _ => none

/-- Splits a fraction off. -/
def splitFraction (s : List Char) : List Char × List Char :=
  match s with
  | '.' :: rest =>
    match splitNumeral Char.isDigit rest with
    | ([], _) => ([], s)
    | found => found
  | _ => ([], s)

/-- Splits an exponent off. -/
def splitExponent (s : List Char) : Option Int × List Char :=
  match s with
  | e :: rest =>
    if e == 'e' || e == 'E' then
      let (negative, body) := Text.readSign rest
      match splitNumeral Char.isDigit body with
      | ([], _) => (none, s)
      | (ds, rest) =>
        let n : Int := Text.decimalValue ds
        (some (if negative then -n else n), rest)
    else (none, s)
  | [] => (none, [])

/-- Splits a whole part off: a zero, or digits that do not begin with one. -/
def splitWhole : List Char → List Char × List Char
  | '0' :: rest => (['0'], rest)
  | s => splitNumeral Char.isDigit s

/-- Reads a number in base ten, an infinity or no number. -/
def readDecimal (s : List Char) : Except Error (Value × List Char) :=
  let (negative, body) := Text.readSign s
  match splitWhole body with
  | ([], _) =>
    match body with
    | 'i' :: 'n' :: 'f' :: rest => .ok (.float (.infinity negative), rest)
    | 'n' :: 'a' :: 'n' :: rest => .ok (.float .nan, rest)
    | _ => .error .malformed
  | (whole, rest) =>
    let (fraction, rest) := splitFraction rest
    match fraction, splitExponent rest with
    | [], (none, rest) =>
      if whole.length > Text.maxDigits then .error (.tooManyDigits whole.length)
      else
        let n : Int := Text.decimalValue whole
        .ok (.int (if negative then -n else n), rest)
    | _, (exponent, rest) =>
      .ok (.float (Binary64.ofDecimal negative (Text.decimalValue (whole ++ fraction))
        (exponent.getD 0 - fraction.length)), rest)

/-- Reads a number. -/
def readNumber (s : List Char) : Except Error (Value × List Char) :=
  match readBased? s with
  | some found => .ok found
  | none => readDecimal s

/-! ### Dates and times -/

/-- The number given by `width` digits at the front, if it lies in the range. -/
def readField? (width low high : Nat) (s : List Char) : Option (Nat × List Char) :=
  let ds := s.take width
  if ds.length == width && ds.all Char.isDigit then
    let n := Text.decimalValue ds
    if low ≤ n && n ≤ high then some (n, s.drop width) else none
  else none

/-- The text after the given character at its front. -/
def skipMark? (c : Char) : List Char → Option (List Char)
  | d :: rest => if d == c then some rest else none
  | [] => none

/-- The text after a time of day at its front. -/
def skipTime? (s : List Char) : Option (List Char) := do
  let (_, s) ← readField? 2 0 23 s
  let (_, s) ← readField? 2 0 59 (← skipMark? ':' s)
  let (_, s) ← readField? 2 0 59 (← skipMark? ':' s)
  match s with
  | '.' :: rest =>
    let ds := rest.takeWhile Char.isDigit
    some (if ds.isEmpty then s else rest.drop ds.length)
  | s => some s

/-- The text after an offset from universal time at its front, all of it where there is none. -/
def skipOffset (s : List Char) : List Char :=
  match s with
  | 'Z' :: rest => rest
  | 'z' :: rest => rest
  | c :: rest =>
    if c == '+' || c == '-' then
      let found : Option (List Char) := do
        let (_, rest) ← readField? 2 0 23 rest
        let (_, rest) ← readField? 2 0 59 (← skipMark? ':' rest)
        some rest
      found.getD s
    else s
  | [] => []

/-- The number of days of a month. -/
def daysOf (year month : Nat) : Nat :=
  if month == 2 then
    if year % 4 == 0 && (year % 100 != 0 || year % 400 == 0) then 29 else 28
  else if [4, 6, 9, 11].contains month then 30
  else 31

/-- Reads a date at the front: its year, month and day. -/
def readDate? (s : List Char) : Option ((Nat × Nat × Nat) × List Char) := do
  let (year, s) ← readField? 4 0 9999 s
  let (month, s) ← readField? 2 1 12 (← skipMark? '-' s)
  let (day, s) ← readField? 2 1 31 (← skipMark? '-' s)
  some ((year, month, day), s)

/-- Reads a date or a time at the front, if there is one; a date that the calendar does not have is
refused. -/
def readMoment (s : List Char) : Except Error (Option (Value × List Char)) :=
  match readDate? s with
  | some ((year, month, day), rest) =>
    if year == 0 || daysOf year month < day then .error .malformed
    else
      let timed : Option (List Char) :=
        match rest with
        | c :: r => if c == 'T' || c == 't' || c == ' ' then skipTime? r else none
        | [] => none
      match timed with
      | some rest => .ok (some (.moment .datetime, skipOffset rest))
      | none => .ok (some (.moment .date, rest))
  | none => .ok ((skipTime? s).map fun rest => (.moment .time, rest))

/-! ### Keys -/

/-- The characters of a key without quotation marks. -/
def isBareKeyChar (c : Char) : Bool :=
  c.isAlphanum || c == '-' || c == '_'

/-- Reads one part of a key. -/
def readKeyPart (s : List Char) : Except Error (String × List Char) :=
  match s.takeWhile isBareKeyChar with
  | [] => readLineString s
  | part => .ok (String.ofList part, s.drop part.length)

/-- Reads the parts of a key. -/
def readKeyParts : (fuel : Nat) → Step (List String)
  | 0, _ => .error .malformed
  | fuel + 1, s => do
    let (part, rest) ← readKeyPart s
    match skipInline rest with
    | '.' :: rest => do
      let (parts, rest) ← readKeyParts fuel (skipInline rest)
      .ok (part :: parts, rest)
    | rest => .ok ([part], rest)

/-- Reads a key. -/
def readKey (s : List Char) : Except Error (List String × List Char) :=
  readKeyParts (s.length + 1) s

end LintBridge.Toml
