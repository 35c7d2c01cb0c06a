import LintBridge.Shell.Script
import LintBridge.Text.Digit

/-!
# Arithmetic of the shell

An expression has integers, names, the usual operators and parentheses. **Division goes toward
zero**, and a comparison has the value one or zero.

* `LintBridge.Shell.Token` – the symbols of an expression;
* `LintBridge.Shell.evaluate` – the value of an expression, or what is wrong with it.
-/

namespace LintBridge.Shell

/-- A symbol of an expression. -/
inductive Token where
  /-- A number. -/
  | number (n : Int)
  /-- A name. -/
  | name (t : Octets)
  /-- An operator or a parenthesis. -/
  | mark (t : String)
  deriving DecidableEq, Repr

/-- The operators of two characters. -/
def longMarks : List String := ["<=", ">=", "==", "!=", "&&", "||"]

/-- The symbols of an expression. -/
def tokens? (fuel : Nat) (t : Octets) : Option (List Token) :=
  match fuel with
  | 0 => none
  | fuel + 1 =>
    match t with
    | [] => some []
    | c :: rest =>
      if c == ' ' || c == '\t' || c == '\n' then tokens? fuel rest
      else if c.isDigit then
        let ds := t.takeWhile Char.isDigit
        (tokens? fuel (t.drop ds.length)).map (.number (Text.decimalValue ds) :: ·)
      else if c.isAlpha || c == '_' then
        let name := t.takeWhile fun c => c.isAlphanum || c == '_'
        (tokens? fuel (t.drop name.length)).map (.name name :: ·)
      else
        let two := String.ofList (t.take 2)
        if longMarks.contains two then (tokens? fuel (t.drop 2)).map (.mark two :: ·)
        else if "+-*/%()<>!".toList.contains c then (tokens? fuel rest).map (.mark c.toString :: ·)
        else none

/-- The levels of the operators between two values, those that bind least first. -/
def levels : List (List String) :=
  [["||"], ["&&"], ["==", "!="], ["<", "<=", ">", ">="], ["+", "-"], ["*", "/", "%"]]

/-- The integer of a truth value. -/
def ofTruth (b : Bool) : Int :=
  if b then 1 else 0

/-- The value of two values with an operator between them; nothing is divided by zero. -/
def combine (mark : String) (a b : Int) : Except String Int :=
  match mark with
  | "||" => .ok (ofTruth (a != 0 || b != 0))
  | "&&" => .ok (ofTruth (a != 0 && b != 0))
  | "==" => .ok (ofTruth (a == b))
  | "!=" => .ok (ofTruth (a != b))
  | "<" => .ok (ofTruth (a < b))
  | "<=" => .ok (ofTruth (a ≤ b))
  | ">" => .ok (ofTruth (b < a))
  | ">=" => .ok (ofTruth (b ≤ a))
  | "+" => .ok (a + b)
  | "-" => .ok (a - b)
  | "*" => .ok (a * b)
  | "/" => if b == 0 then .error "division by zero" else .ok (a.tdiv b)
  | _ => if b == 0 then .error "division by zero" else .ok (a.tmod b)

/-- What is wrong where a value is missing. -/
def missingValue : String := "expecting primary"

mutual

/-- The value of the operators of a level and all that bind more, and the rest. -/
def evaluateLevel (fuel : Nat) (value : Octets → Int) (ls : List (List String)) (ts : List Token) :
    Except String (Int × List Token) :=
  match fuel with
  | 0 => .error missingValue
  | fuel + 1 =>
    match ls with
    | [] => evaluateAtom fuel value ts
    | marks :: more => do
      let (a, rest) ← evaluateLevel fuel value more ts
      evaluateRest fuel value marks more a rest

/-- The value of the operators of one level after a first value, from left to right, and the rest.
-/
def evaluateRest (fuel : Nat) (value : Octets → Int) (marks : List String)
    (more : List (List String))
    (a : Int) (ts : List Token) : Except String (Int × List Token) :=
  match fuel with
  | 0 => .error missingValue
  | fuel + 1 =>
    match ts with
    | .mark m :: rest =>
      if marks.contains m then do
        let (b, rest) ← evaluateLevel fuel value more rest
        evaluateRest fuel value marks more (← combine m a b) rest
      else .ok (a, ts)
    | ts => .ok (a, ts)

/-- The value of a number, a name, a sign with what follows, or parentheses, and the rest. -/
def evaluateAtom (fuel : Nat) (value : Octets → Int) (ts : List Token) :
    Except String (Int × List Token) :=
  match fuel with
  | 0 => .error missingValue
  | fuel + 1 =>
    match ts with
    | .number n :: rest => .ok (n, rest)
    | .name t :: rest => .ok (value t, rest)
    | .mark "-" :: rest => (evaluateAtom fuel value rest).map fun (n, rest) => (-n, rest)
    | .mark "+" :: rest => evaluateAtom fuel value rest
    | .mark "!" :: rest =>
    (evaluateAtom fuel value rest).map fun (n, rest) => (ofTruth (n == 0), rest)
    | .mark "(" :: rest => do
      match ← evaluateLevel fuel value levels rest with
      | (n, .mark ")" :: rest) => return (n, rest)
      | _ => throw "expecting ')'"
    | _ => .error missingValue

end

/-- The value of an expression, or what is wrong with it; an empty one is zero. -/
def evaluate (value : Octets → Int) (t : Octets) : Except String Int :=
  match tokens? (t.length + 1) t with
  | none => .error missingValue
  | some [] => .ok 0
  | some ts => do
    match ← evaluateLevel (16 * ts.length + 16) value levels ts with
    | (n, []) => return n
    | _ => throw "expecting EOF"

end LintBridge.Shell
