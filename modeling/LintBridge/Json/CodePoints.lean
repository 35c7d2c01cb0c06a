import LintBridge.Text.Blank
import LintBridge.Text.Quoted

/-!
# Texts of code points

A string of a JSON document may hold surrogate code points that are not half of a pair. No `String`
can hold them, and no octets stand for them: **a text with a surrogate in it cannot be encoded**,
and whatever has to write it as octets fails. Whatever only compares texts treats a surrogate as a
character that is like no other.

* `LintBridge.Json.CodePoint`, `LintBridge.Json.CodePoints` – code points and the texts made of
  them, with `CodePoints.ofString` from strings;
* `LintBridge.Json.CodePoints.fault?` – the first stretch of surrogates in a text, with
  `LintBridge.Json.Unencodable.message`;
* `LintBridge.Json.CodePoints.encode?` – a text as a string, if it can be encoded;
* `LintBridge.Json.CodePoints.fill` – a text as a string, with a character for each surrogate.
-/

namespace LintBridge.Json

/-- A code point of a text. -/
inductive CodePoint where
  /-- A character. -/
  | scalar (c : Char)
  /-- The surrogate code point `U+D800 + n`. -/
  | surrogate (n : Fin 2048)
  deriving DecidableEq, Repr

namespace CodePoint

/-- A code point as a character, with the given one for a surrogate. -/
def fill (filler : Char) : CodePoint → Char
  | .scalar c => c
  | .surrogate _ => filler

/-- A code point as a character, `U+FFFD` for a surrogate. -/
def toChar (p : CodePoint) : Char :=
  p.fill '\uFFFD'

/-- Whether a code point is a surrogate. -/
def isSurrogate : CodePoint → Bool
  | .scalar _ => false
  | .surrogate _ => true

end CodePoint

/-- A text of code points. -/
abbrev CodePoints := List CodePoint

/-- Why a text cannot be encoded: where its first surrogates stand. -/
structure Unencodable where
  /-- How many code points stand before them. -/
  before : Nat
  /-- The first of them. -/
  first : Fin 2048
  /-- How many more there are without a character between them. -/
  more : Nat
  deriving DecidableEq, Repr

/-- The words for a text that cannot be encoded. -/
def Unencodable.message (u : Unencodable) : String :=
  let what :=
    if u.more = 0 then
      s!"character '\\u{String.ofList (Text.hexDigits 4 (0xD800 + u.first.val))}' in position " ++
        s!"{u.before}"
    else s!"characters in position {u.before}-{u.before + u.more}"
  s!"'utf-8' codec can't encode {what}: surrogates not allowed"

namespace CodePoints

/-- A string as a text. -/
def ofString (s : String) : CodePoints :=
  s.toList.map .scalar

/-- A text as a string, with the given character in the place of each surrogate. -/
def fill (filler : Char) (t : CodePoints) : String :=
  String.ofList (t.map (CodePoint.fill filler))

/-- A text as a string, with `U+FFFD` in the place of each surrogate. -/
def toString (t : CodePoints) : String :=
  String.ofList (t.map CodePoint.toChar)

/-- The first surrogates of a text. -/
def fault? (t : CodePoints) : Option Unencodable :=
  match t.dropWhile (!·.isSurrogate) with
  | .surrogate first :: rest =>
    some ⟨(t.takeWhile (!·.isSurrogate)).length, first, (rest.takeWhile (·.isSurrogate)).length⟩
  | _ => none

/-- A text as a string, or why it cannot be encoded. -/
def encode? (t : CodePoints) : Except Unencodable String :=
  match t.fault? with
  | some fault => .error fault
  | none => .ok t.toString

/-- A text without the blank characters at its two ends. -/
def strip (t : CodePoints) : CodePoints :=
  Text.stripList (Text.isBlank ·.toChar) t

/-- A text that holds only blank characters. -/
def isAllBlank (t : CodePoints) : Bool :=
  t.all (Text.isBlank ·.toChar)

end CodePoints

end LintBridge.Json
