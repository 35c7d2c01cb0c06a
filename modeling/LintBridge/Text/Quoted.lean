/-!
# Quoted texts

Messages of the operating system show a file name between quotation marks, so that its ends and its
control characters can be seen. Single marks are used unless the text holds one and no double mark.

* `LintBridge.Text.quoted` – a text between quotation marks.
-/

namespace LintBridge.Text

/-- The last `width` hexadecimal digits of a number, in lower case. -/
def hexDigits (width n : Nat) : List Char :=
  let ds := Nat.toDigits 16 n
  List.replicate (width - ds.length) '0' ++ ds

/-- Ranges of characters beyond ASCII that are not shown as they are: controls, separators, formats
and those for private use. -/
def hiddenRanges : List (Nat × Nat) :=
  [(0x7F, 0xA0), (0xAD, 0xAD), (0x600, 0x605), (0x61C, 0x61C), (0x6DD, 0x6DD), (0x70F, 0x70F),
   (0x890, 0x891), (0x8E2, 0x8E2), (0x1680, 0x1680), (0x180E, 0x180E), (0x2000, 0x200F),
   (0x2028, 0x202F), (0x205F, 0x206F), (0x3000, 0x3000), (0xE000, 0xF8FF), (0xFEFF, 0xFEFF),
   (0xFFF0, 0xFFFB), (0xFFFE, 0xFFFF), (0x110BD, 0x110BD), (0x110CD, 0x110CD), (0x13430, 0x1343F),
   (0x1BCA0, 0x1BCA3), (0x1D173, 0x1D17A), (0xE0000, 0xE00FF), (0xE01F0, 0x10FFFF)]

/-- Whether a character beyond ASCII is not shown as it is. -/
def isHidden (n : Nat) : Bool :=
  hiddenRanges.any fun r => r.1 ≤ n && n ≤ r.2

/-- A character as it is shown between the given marks. -/
def showChar (mark c : Char) : List Char :=
  let n := c.val.toNat
  if c == mark || c == '\\' then ['\\', c]
  else if c == '\n' then ['\\', 'n']
  else if c == '\r' then ['\\', 'r']
  else if c == '\t' then ['\\', 't']
  else if n < 32 || (n < 256 && isHidden n) then '\\' :: 'x' :: hexDigits 2 n
  else if isHidden n then
    if n < 0x10000 then '\\' :: 'u' :: hexDigits 4 n else '\\' :: 'U' :: hexDigits 8 n
  else [c]

/-- A text between quotation marks. -/
def quoted (s : String) : String :=
  let mark := if s.toList.contains '\'' && !s.toList.contains '"' then '"' else '\''
  String.ofList (mark :: s.toList.flatMap (showChar mark) ++ [mark])

end LintBridge.Text
