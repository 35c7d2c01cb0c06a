/-!
# Splitting a text into lines

A line ends at a line feed, a carriage return, the pair of the two, or at any of the other
characters that Unicode and the control-character standards use to end one. The character is
dropped, and a text that ends in one has no empty line after it.

* `LintBridge.Text.isLineBreak` – the characters that end a line;
* `LintBridge.Text.lines` – the lines of a text.
-/

namespace LintBridge.Text

/-- The characters that end a line. -/
def isLineBreak (c : Char) : Bool :=
  let n := c.val.toNat
  (10 ≤ n && n ≤ 13) || (28 ≤ n && n ≤ 30) || n == 0x85 || n == 0x2028 || n == 0x2029

/-- Puts a character in front of the first line, opening one where there is none. -/
def extendFirst (c : Char) : List (List Char) → List (List Char)
  | [] => [[c]]
  | line :: rest => (c :: line) :: rest

/-- The lines of a text, without the characters that end them. -/
def lines : List Char → List (List Char)
  | [] => []
  | '\r' :: '\n' :: rest => [] :: lines rest
  | c :: rest => if isLineBreak c then [] :: lines rest else extendFirst c (lines rest)

/-- A text in which every way of ending a line with carriage returns has become one line feed. -/
def unifyNewlines : List Char → List Char
  | [] => []
  | '\r' :: '\n' :: rest => '\n' :: unifyNewlines rest
  | '\r' :: rest => '\n' :: unifyNewlines rest
  | c :: rest => c :: unifyNewlines rest

end LintBridge.Text
