import LintBridge.Shell.Script

/-!
# Patterns of the shell

A pattern matches a text as a whole: an asterisk stands for any characters, a question mark for one,
and a set in square brackets for one of its members.

* `LintBridge.Shell.Glob` – the parts of a pattern; `LintBridge.Shell.Glob.ofText` – a pattern read;
* `LintBridge.Shell.Glob.matchesText` – whether a pattern matches a text;
* `LintBridge.Shell.Glob.trim` – a text without the shortest or **longest match** at one of its
  ends.
-/

namespace LintBridge.Shell

/-- A part of a pattern. -/
inductive Glob where
  /-- A character. -/
  | char (c : Char)
  /-- Any character. -/
  | one
  /-- Any characters. -/
  | many
  /-- A character in one of the ranges, or in none of them. -/
  | set (negated : Bool) (ranges : List (Char × Char))
  deriving DecidableEq, Repr

namespace Glob

/-- The ranges of a set. -/
def rangesOf : Octets → List (Char × Char)
  | a :: '-' :: b :: rest => (a, b) :: rangesOf rest
  | a :: rest => (a, a) :: rangesOf rest
  | [] => []

/-- The inside of a set after its opening bracket, and the rest after the closing one. -/
def setInside? (t : Octets) : Option (Octets × Octets) :=
  match t with
  | [] => none
  | first :: more =>
    let inside := first :: more.takeWhile (· != ']')
    if inside.length < t.length then some (inside, t.drop (inside.length + 1)) else none

/-- A pattern read from characters, each of them with a flag that is set if it stands for itself. -/
def ofMarked (fuel : Nat) (t : List (Char × Bool)) : List Glob :=
  match fuel with
  | 0 => []
  | fuel + 1 =>
    match t with
    | [] => []
    | ('*', false) :: rest => .many :: ofMarked fuel rest
    | ('?', false) :: rest => .one :: ofMarked fuel rest
    | ('[', false) :: rest =>
      let negated := rest.head? == some ('!', false)
      let body := if negated then rest.drop 1 else rest
      match setInside? (body.map (·.1)) with
      | some (inside, _) =>
        .set negated (rangesOf inside) :: ofMarked fuel (body.drop (inside.length + 1))
      | none => .char '[' :: ofMarked fuel rest
    | (c, _) :: rest => .char c :: ofMarked fuel rest

/-- A pattern read from characters with flags. -/
def ofText (t : List (Char × Bool)) : List Glob :=
  ofMarked t.length t

/-- Whether a single character matches a part. -/
def matchesChar : Glob → Char → Bool
  | .char d, c => c == d
  | .one, _ => true
  | .many, _ => true
  | .set negated ranges, c => (ranges.any fun r => r.1 ≤ c && c ≤ r.2) != negated

/-- Whether a pattern matches a text. -/
def matchesText (pattern : List Glob) (t : Octets) : Bool :=
  match pattern, t with
  | [], [] => true
  | [], _ :: _ => false
  | .many :: more, [] => matchesText more []
  | .many :: more, c :: rest => matchesText more (c :: rest) || matchesText (.many :: more) rest
  | _ :: _, [] => false
  | g :: more, c :: rest => g.matchesChar c && matchesText more rest
  termination_by (t.length, pattern.length)

/-- A text without what a pattern matches at one of its ends; nothing is cut off where it matches
nothing. -/
def trim (side : Side) (longest : Bool) (pattern : List Glob) (t : Octets) : Octets :=
  let lengths := List.range (t.length + 1)
  let lengths := if longest then lengths.reverse else lengths
  match side with
  | .front => ((lengths.find? fun n => matchesText pattern (t.take n)).map t.drop).getD t
  | .back =>
    ((lengths.find? fun n => matchesText pattern (t.drop (t.length - n))).map fun n =>
      t.take (t.length - n)).getD t

end Glob

end LintBridge.Shell
