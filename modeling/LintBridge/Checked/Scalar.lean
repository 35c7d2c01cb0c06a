import LintBridge.Checked
import LintBridge.Json.Value
import LintBridge.Text.Blank
import LintBridge.Text.Digit

/-!
# Lenient checks of single values

A setting is taken as meant: a truth value may be written as a word or as a number, an integer as a
text or as a number without fraction, a number as a text. What cannot be meant is refused with the
cause.

* `LintBridge.Checked.text`, `LintBridge.Checked.bool`, `LintBridge.Checked.int`,
  `LintBridge.Checked.float` – the four kinds;
* `LintBridge.Checked.listOf`, `LintBridge.Checked.tupleOf`, `LintBridge.Checked.optional` – lists
  and values that may be `null`;
* `LintBridge.Checked.required`, `LintBridge.Checked.defaulted` – fields of an object.
-/

namespace LintBridge

open Json (Value CodePoints)

/-- The integers of a float have magnitudes below this bound. -/
def maxMagnitude : Nat := 9223372036854775808

/-- Whether an integer has more digits than an integer may be written with, leading zeros not
counted. -/
def isOversized (n : Int) : Bool :=
  Nat.pow 10 Text.maxDigits ≤ n.natAbs

/-- Words for true and false, in lower case. -/
def boolWord? (word : String) : Option Bool :=
  if ["1", "on", "t", "true", "y", "yes"].contains word then some true
  else if ["0", "off", "f", "false", "n", "no"].contains word then some false
  else none

/-- Splits a numeral at its decimal point. -/
def splitPoint (s : List Char) : List Char × Option (List Char) :=
  let whole := s.takeWhile (· != '.')
  match s.drop whole.length with
  | _ :: fraction => (whole, some fraction)
  | [] => (whole, none)

/-- The integer a text stands for: ASCII digits with single underscores between them, a sign before
them and a fraction of zeros after them, and spaces around it all. -/
def lenientInt? (s : String) : Option Int := do
  let (negative, body) := Text.readSign (Text.stripList Text.isSpace s.toList)
  let (whole, fraction) := splitPoint body
  guard ((fraction.getD []).all (· == '0'))
  let digits ← Text.readDigits? Text.asciiDigit? whole
  let n : Int := Text.ofDigits digits
  some (if negative then -n else n)

/-- A text with its underscores dropped, if there is one, and none stands at an end or beside
another. -/
def dropUnderscores? (s : List Char) : Option (List Char) :=
  let doubled := (s.zip (s.drop 1)).contains ('_', '_')
  if s.head? == some '_' || s.getLast? == some '_' || doubled || !s.contains '_' then none
  else some (s.filter (· != '_'))

/-- The exponent of a numeral, with the value zero where there is none. -/
def exponent? : List Char → Option Int
  | [] => some 0
  | e :: rest =>
    if e.toLower == 'e' then
      let (negative, digits) := Text.readSign rest
      if digits.isEmpty || !digits.all Char.isDigit then none
      else
        let n : Int := Text.decimalValue digits
        some (if negative then -n else n)
    else none

/-- The number an unsigned numeral stands for: digits with a point before, between or after them,
and an exponent; or one of the words for infinity and for no number. -/
def unsignedFloat? (negative : Bool) (s : List Char) : Option Binary64 :=
  let word := String.ofList (s.map Char.toLower)
  if word == "inf" || word == "infinity" then some (.infinity negative)
  else if word == "nan" then some .nan
  else
    let whole := s.takeWhile Char.isDigit
    let rest := s.drop whole.length
    let (fraction, rest) : List Char × List Char :=
      match rest with
      | '.' :: r => (r.takeWhile Char.isDigit, r.dropWhile Char.isDigit)
      | r => ([], r)
    if whole.isEmpty && fraction.isEmpty then none
    else
      (exponent? rest).map fun e =>
        Binary64.ofDecimal negative (Text.decimalValue (whole ++ fraction)) (e - fraction.length)

/-- The number a numeral stands for. -/
def signedFloat? (s : List Char) : Option Binary64 :=
  let (negative, body) := Text.readSign s
  unsignedFloat? negative body

/-- The number a text stands for: a numeral with white space around it, or one with underscores
inside and nothing around it. -/
def lenientFloat? (s : String) : Option Binary64 :=
  (signedFloat? (Text.stripList Text.isSpace s.toList)).or
    ((dropUnderscores? s.toList).bind signedFloat?)

namespace Checked

/-- A text. -/
def text : Value → Checked CodePoints
  | .string t => .valid t
  | _ => refuse .notString

/-- A text as a string. The texts that are checked like this have been decoded from octets, so that
there are no surrogates in them. -/
def string (v : Value) : Checked String :=
  (text v).map CodePoints.toString

/-- What the characters of a text stand for, if it can be encoded. -/
def spelled {α : Type} (t : CodePoints) (check : String → Checked α) : Checked α :=
  match t.encode? with
  | .ok s => check s
  | .error _ => refuse .notUnicode

/-- A truth value, as such, as a number or as a word in any case. -/
def bool : Value → Checked Bool
  | .bool b => .valid b
  | .int n => ofInt n
  | .float x =>
    match x.toInt? with
    | some n => if n.natAbs < maxMagnitude then ofInt n else refuse .notBool
    | none => refuse .notBool
  | .string t => spelled t fun s =>
    match boolWord? (String.ofList (s.toList.map Char.toLower)) with
    | some b => .valid b
    | none => refuse .unclearBool
  | _ => refuse .notBool
where
  /-- A number as a truth value. -/
  ofInt (n : Int) : Checked Bool :=
    if n == 0 then .valid false else if n == 1 then .valid true else refuse .unclearBool

/-- An integer, as such, as a truth value, as a number without fraction or as a text. -/
def int : Value → Checked Int
  | .int n => .valid n
  | .bool b => .valid (if b then 1 else 0)
  | .float x =>
    match x with
    | .finite .. =>
      match x.toInt? with
      | some n => if n.natAbs < maxMagnitude then .valid n else refuse .oversizedInt
      | none => refuse .fractionalInt
    | _ => refuse .notFinite
  | .string t => spelled t fun s =>
    match lenientInt? s with
    | some n => if isOversized n then refuse .oversizedInt else .valid n
    | none => refuse .unclearInt
  | _ => refuse .notInt

/-- A number, as such, as a truth value or as a text; an integer becomes the nearest number. -/
def float : Value → Checked Binary64
  | .float x => .valid x
  | .int n =>
    match Binary64.ofInt n with
    | .infinity _ => refuse .notNumber
    | x => .valid x
  | .bool b => .valid (Binary64.ofInt (if b then 1 else 0))
  | .string t => spelled t fun s =>
    match lenientFloat? s with
    | some x => .valid x
    | none => refuse .unclearNumber
  | _ => refuse .notNumber

/-- An integer that is not less than a bound. -/
def atLeast (bound : Nat) (v : Value) : Checked Nat :=
  (int v).andThen fun n => if (bound : Int) ≤ n then .valid n.toNat else refuse (.below bound)

/-- A list. -/
def listOf {α : Type} (check : Value → Checked α) : Value → Checked (List α)
  | .array vs => items check 0 vs
  | _ => refuse .notList

/-- A list whose length is fixed once it is read. -/
def tupleOf {α : Type} (check : Value → Checked α) : Value → Checked (List α)
  | .array vs => items check 0 vs
  | _ => refuse .notTuple

/-- A value that may be `null`. -/
def optional {α : Type} (check : Value → Checked α) : Value → Checked (Option α)
  | .null => .valid none
  | v => (check v).map some

/-- The entries of an object, where the named structure is due. -/
def entries (structure_ : String) : Value → Checked (List (CodePoints × Value))
  | .object entries => .valid entries
  | _ => refuse (.notObject structure_)

/-- A field that has to be there. -/
def required {α : Type} (name : String) (check : Value → Checked α)
    (fields : List (CodePoints × Value)) : Checked α :=
  match Json.get? fields name with
  | some v => (check v).under (.field name)
  | none => (refuse .missing : Checked α).under (.field name)

/-- A field that has a default. -/
def defaulted {α : Type} (name : String) (default : α) (check : Value → Checked α)
    (fields : List (CodePoints × Value)) : Checked α :=
  match Json.get? fields name with
  | some v => (check v).under (.field name)
  | none => .valid default

end Checked

end LintBridge
