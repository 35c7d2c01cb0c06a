import LintBridge.Text.Digit
import LintBridge.Text.Utf8

/-!
# Percent-encoding

In a URI an octet may be written as `%` and two hexadecimal digits. Encoding writes every octet so
that is not a letter, a digit or one of the marks below; decoding reads each stretch of ASCII text
as octets of UTF-8, leaves a `%` without two digits alone, and puts `U+FFFD` for what is not a
character.

* `LintBridge.Text.Percent.encode` – upper-case digits, marks and slashes kept;
* `LintBridge.Text.Percent.decode` – its inverse on encoded text, total on all others.
-/

namespace LintBridge.Text.Percent

/-- The octets that stand for themselves. -/
def isPlain (b : UInt8) : Bool :=
  let c := Char.ofNat b.toNat
  c.isAlphanum || c == '_' || c == '.' || c == '-' || c == '~' || c == '/'

/-- An upper-case hexadecimal digit. -/
def hexDigit (n : Nat) : Char :=
  if n < 10 then Char.ofNat (48 + n) else Char.ofNat (55 + n)

/-- An octet as it is written. -/
def encodeOctet (b : UInt8) : List Char :=
  if isPlain b then [Char.ofNat b.toNat]
  else ['%', hexDigit (b.toNat / 16), hexDigit (b.toNat % 16)]

/-- A text with its octets written out. -/
def encode (s : String) : String :=
  String.ofList ((Utf8.encode s).flatMap encodeOctet)

/-- The octets that a stretch of ASCII text stands for. -/
def octets : List Char → List UInt8
  | [] => []
  | '%' :: a :: b :: rest =>
    match hexValue? a, hexValue? b with
    | some x, some y => UInt8.ofNat (16 * x + y) :: octets rest
    | _, _ => UInt8.ofNat '%'.val.toNat :: octets (a :: b :: rest)
  | c :: rest => UInt8.ofNat c.val.toNat :: octets rest

/-- Decodes a text, where `pending` is the stretch of ASCII text before it, held nearest first. -/
def decodeAfter (pending : List Char) : List Char → List Char
  | [] => Utf8.decodeReplacing (octets pending.reverse)
  | c :: rest =>
    if c.val < 128 then decodeAfter (c :: pending) rest
    else Utf8.decodeReplacing (octets pending.reverse) ++ c :: decodeAfter [] rest

/-- A text with its written-out octets read back. -/
def decode (s : String) : String :=
  String.ofList (decodeAfter [] s.toList)

end LintBridge.Text.Percent
