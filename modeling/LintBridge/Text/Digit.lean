import LintBridge.Text.Blank

/-!
# Decimal digits and integers written in a text

An integer may be written with the decimal digits of any script, mixed at will, with an optional
sign and with single underscores between digits. Superscripts, circled numbers and the ideographic
zero are no decimal digits.

* `LintBridge.Text.digitValue?` – the value of a decimal digit;
* `LintBridge.Text.readDigits?` – the digits of an unsigned numeral with its underscores dropped;
* `LintBridge.Text.readInt?` – the integer a trimmed text stands for.
-/

namespace LintBridge.Text

/-- The zeros of the scripts that have decimal digits; each is followed by the nine others. -/
def zeroDigits : List Nat :=
  [0x30, 0x660, 0x6F0, 0x7C0, 0x966, 0x9E6, 0xA66, 0xAE6, 0xB66, 0xBE6, 0xC66, 0xCE6, 0xD66, 0xDE6,
   0xE50, 0xED0, 0xF20, 0x1040, 0x1090, 0x17E0, 0x1810, 0x1946, 0x19D0, 0x1A80, 0x1A90, 0x1B50,
   0x1BB0, 0x1C40, 0x1C50, 0xA620, 0xA8D0, 0xA900, 0xA9D0, 0xA9F0, 0xAA50, 0xABF0, 0xFF10, 0x104A0,
   0x10D30, 0x11066, 0x110F0, 0x11136, 0x111D0, 0x112F0, 0x11450, 0x114D0, 0x11650, 0x116C0,
   0x11730, 0x118E0, 0x11950, 0x11C50, 0x11D50, 0x11DA0, 0x16A60, 0x16AC0, 0x16B50, 0x1D7CE,
   0x1D7D8, 0x1D7E2, 0x1D7EC, 0x1D7F6, 0x1E140, 0x1E2F0, 0x1E950, 0x1FBF0]

/-- The value of a decimal digit of any script. -/
def digitValue? (c : Char) : Option Nat :=
  let n := c.val.toNat
  (zeroDigits.find? fun z => z ≤ n && n < z + 10).map (n - ·)

/-- The value of an ASCII digit. -/
def asciiDigit? (c : Char) : Option Nat :=
  if c.isDigit then some (c.val.toNat - 48) else none

/-- The value of a hexadecimal digit in either case. -/
def hexValue? (c : Char) : Option Nat :=
  let n := c.val.toNat
  if c.isDigit then some (n - 48)
  else if 97 ≤ n && n ≤ 102 then some (n - 87)
  else if 65 ≤ n && n ≤ 70 then some (n - 55)
  else none

/-- The number that a list of ASCII digits stands for, most significant digit first. -/
def decimalValue (ds : List Char) : Nat :=
  ds.foldl (fun n c => 10 * n + (c.val.toNat - 48)) 0

/-- The number that a list of decimal digits stands for, most significant digit first. -/
def ofDigits (ds : List Nat) : Nat :=
  ds.foldl (fun n d => 10 * n + d) 0

/-- The digits of a numeral whose digits are recognised by `digit?`. Between two digits a single
underscore may stand. -/
def readDigits? (digit? : Char → Option Nat) : List Char → Option (List Nat)
  | [] => none
  | [c] => (digit? c).map ([·])
  | c :: '_' :: rest => do
    let d ← digit? c
    let ds ← readDigits? digit? rest
    some (d :: ds)
  | c :: rest => do
    let d ← digit? c
    let ds ← readDigits? digit? rest
    some (d :: ds)

/-- Splits an optional sign off; the flag says whether it was a minus. -/
def readSign : List Char → Bool × List Char
  | '-' :: rest => (true, rest)
  | '+' :: rest => (false, rest)
  | rest => (false, rest)

/-- The greatest number of digits an integer may be written with, leading zeros included. -/
def maxDigits : Nat := 4300

/-- The integer that a text stands for once it is trimmed, if it is a numeral of at most `maxDigits`
digits. -/
def readInt? (s : String) : Option Int :=
  let (negative, body) := readSign (stripList isBlank s.toList)
  match readDigits? digitValue? body with
  | none => none
  | some ds =>
    if ds.length > maxDigits then none
    else if negative then some (-(ofDigits ds : Int)) else some (ofDigits ds)

end LintBridge.Text
