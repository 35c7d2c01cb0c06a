/-!
# Blank characters and trimming

Text from a linter, from an editor and from a settings file is trimmed in many places, always with
the same set of characters: the control characters that separate lines, fields and records, and
everything Unicode calls a space. The zero-width characters `U+200B` and `U+FEFF` are not blank.

* `LintBridge.Text.isBlank` – membership in that set;
* `LintBridge.Text.strip` – a text without the blank characters at its two ends;
* `LintBridge.Text.isAllBlank` – a text with nothing else in it, which is one that strips to
  nothing.
-/

namespace LintBridge.Text

/-- The blank characters: tab, the line and paragraph controls, the four separators `U+001C` to
`U+001F`, and the Unicode spaces. -/
def isBlank (c : Char) : Bool :=
  let n := c.val.toNat
  (9 ≤ n && n ≤ 13) || (28 ≤ n && n ≤ 32) || n == 0x85 || n == 0xA0 || n == 0x1680 ||
    (0x2000 ≤ n && n ≤ 0x200A) || n == 0x2028 || n == 0x2029 || n == 0x202F || n == 0x205F ||
    n == 0x3000

/-- The blank characters that are white space of the Unicode character database, which leaves out
the separators `U+001C` to `U+001F`. -/
def isSpace (c : Char) : Bool :=
  isBlank c && !(28 ≤ c.val.toNat && c.val.toNat ≤ 31)

/-- A list without the elements satisfying `p` at its two ends. -/
def stripList {α : Type} (p : α → Bool) (xs : List α) : List α :=
  ((xs.dropWhile p).reverse.dropWhile p).reverse

/-- A text without the blank characters at its two ends. -/
def strip (s : String) : String :=
  String.ofList (stripList isBlank s.toList)

/-- A text that holds only blank characters. -/
def isAllBlank (s : String) : Bool :=
  s.toList.all isBlank

end LintBridge.Text
