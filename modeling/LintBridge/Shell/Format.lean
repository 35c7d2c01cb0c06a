import LintBridge.Shell.Script
import LintBridge.Text.Digit

/-!
# Formatted output of the shell

* `LintBridge.Shell.escapes` – a text with its backslash escapes carried out;
* `LintBridge.Shell.echo` – arguments as `echo` writes them;
* `LintBridge.Shell.integerIn` – the number that an argument stands for;
* `LintBridge.Shell.printf` – arguments as `printf` writes them: **the format is used again** as
  long as there are arguments left, and what is missing counts as empty or zero.
-/

namespace LintBridge.Shell

/-- The octal digits at the front of a text, at most so many, and the rest. -/
def octalDigits (count : Nat) (t : Octets) : Octets × Octets :=
  let isOctal := fun (c : Char) => '0' ≤ c && c ≤ '7'
  let ds := (t.take count).takeWhile isOctal
  (ds, t.drop ds.length)

/-- The octet that octal digits stand for. -/
def octalChar (ds : Octets) : Char :=
  Char.ofNat (ds.foldl (fun n d => 8 * n + (d.toNat - 48)) 0 % 256)

/-- The octet that a letter after a backslash stands for. -/
def letterEscape? (c : Char) : Option Char :=
  match c with
  | 'a' => some '\x07'
  | 'b' => some '\x08'
  | 'f' => some '\x0c'
  | 'n' => some '\n'
  | 'r' => some '\r'
  | 't' => some '\t'
  | 'v' => some '\x0b'
  | '\\' => some '\\'
  | _ => none

/-- The octet of the octal number after a backslash, if there is one, and the rest. In an argument
the number may have a zero at the front that does not count. -/
def octalEscape? (isArgument : Bool) (c : Char) (rest : Octets) : Option (Char × Octets) :=
  if c == '0' && isArgument then
    let (ds, rest) := octalDigits 3 rest
    some (octalChar ds, rest)
  else
    match octalDigits 3 (c :: rest) with
    | ([], _) => none
    | (ds, rest) => some (octalChar ds, rest)

/-- A text with its backslash escapes carried out, and whether an escape asks to stop there, as only
those in arguments do; the bound is the length of the text. -/
def escapesWithin (isArgument : Bool) (fuel : Nat) (t : Octets) : Octets × Bool :=
  match fuel with
  | 0 => ([], false)
  | fuel + 1 =>
    match t with
    | [] => ([], false)
    | '\\' :: c :: rest =>
      if isArgument && c == 'c' then ([], true)
      else
        let (out, rest) := match letterEscape? c, octalEscape? isArgument c rest with
          | some e, _ => ([e], rest)
          | none, some (e, rest) => ([e], rest)
          | none, none => (['\\', c], rest)
        let (t, stop) := escapesWithin isArgument fuel rest
        (out ++ t, stop)
    | c :: rest =>
      let (t, stop) := escapesWithin isArgument fuel rest
      (c :: t, stop)

/-- A text with its backslash escapes carried out, and whether an escape asks to stop there. -/
def escapes (isArgument : Bool) (t : Octets) : Octets × Bool :=
  escapesWithin isArgument t.length t

/-- Texts with a separator between them. -/
def joinWith (sep : Char) (ts : List Octets) : Octets :=
  [sep].intercalate ts

/-- Arguments as `echo` writes them. -/
def echo (args : List Octets) : Octets :=
  let (args, newline) := match args with
    | ['-', 'n'] :: rest => (rest, false)
    | args => (args, true)
  let (t, stop) := escapes true (joinWith ' ' args)
  if stop || !newline then t else t ++ ['\n']

/-! ### Numbers -/

/-- The number in a text, zero where there is none. -/
def numberIn (t : Octets) : Int :=
  match t with
  | '-' :: ds => -(Text.decimalValue (ds.takeWhile Char.isDigit) : Int)
  | '+' :: ds => Text.decimalValue (ds.takeWhile Char.isDigit)
  | ds => Text.decimalValue (ds.takeWhile Char.isDigit)

/-- The digits at the front of a text in a base, as a number, and the rest. -/
def digitsIn (base : Nat) (t : Octets) : Option Nat × Octets :=
  let values := t.map fun c => (Text.hexValue? c).filter (· < base)
  let ds := (values.takeWhile Option.isSome).filterMap id
  (if ds.isEmpty then none else some (ds.foldl (fun n d => base * n + d) 0), t.drop ds.length)

/-- The number at the front of a text without a sign, in hexadecimal, octal or decimal digits, and
the rest. -/
def naturalIn (t : Octets) : Option Nat × Octets :=
  match t with
  | '0' :: x :: rest =>
    if x == 'x' || x == 'X' then
      match digitsIn 16 rest with
      | (some n, rest) => (some n, rest)
      | (none, _) => (some 0, x :: rest)
    else digitsIn 8 t
  | t => digitsIn 10 t

/-- The number that an argument stands for, and what is wrong with it if anything is. -/
def integerIn (t : Octets) : Int × Option String :=
  match t with
  | '"' :: rest => ((rest.headD '\x00').toNat, none)
  | '\'' :: rest => ((rest.headD '\x00').toNat, none)
  | t =>
    let trimmed := t.dropWhile fun c => c == ' ' || c == '\t' || c == '\n'
    let (negative, body) := match trimmed with
      | '-' :: rest => (true, rest)
      | '+' :: rest => (false, rest)
      | rest => (false, rest)
    match naturalIn body with
    | (none, _) => (0, if t.isEmpty then none else some "expected numeric value")
    | (some n, rest) =>
      (if negative then -(n : Int) else n,
      if rest.isEmpty then none else some "not completely converted")

/-! ### Formats -/

/-- A number in a directive. -/
inductive Amount where
  /-- It is given. -/
  | given (n : Nat)
  /-- It is the next argument. -/
  | argument
  deriving DecidableEq, Repr

/-- How an argument is written. -/
structure Conversion where
  /-- The characters that say how. -/
  flags : Octets := []
  /-- The least number of characters. -/
  width : Option Amount := none
  /-- The least number of digits, or the greatest number of characters. -/
  precision : Option Amount := none
  /-- The kind. -/
  kind : Char
  deriving DecidableEq, Repr

/-- One part of a format. -/
inductive Directive where
  /-- Characters that stand for themselves. -/
  | text (t : Octets)
  /-- An argument. -/
  | argument (c : Conversion)
  /-- A fault, with the words for it. -/
  | bad (what : Octets)
  deriving DecidableEq, Repr

/-- The number in a directive, if there is one, and the rest. -/
def amount? (t : Octets) : Option Amount × Octets :=
  match t with
  | '*' :: rest => (some .argument, rest)
  | t =>
    let ds := t.takeWhile Char.isDigit
    (if ds.isEmpty then none else some (.given (Text.decimalValue ds)), t.drop ds.length)

/-- The directive after a percent sign, and the rest. -/
def directive (t : Octets) : Directive × Octets :=
  let flags := t.takeWhile fun c => "-+ 0#".toList.contains c
  let (width, rest) := amount? (t.drop flags.length)
  let (precision, rest) := match rest with
    | '.' :: rest => ((amount? rest).1.or (some (.given 0)), (amount? rest).2)
    | rest => (none, rest)
  match rest with
  | '%' :: rest => (.text ['%'], rest)
  | kind :: rest =>
    if "sbcdiuxXo".toList.contains kind then (.argument { flags, width, precision, kind }, rest)
    else (.bad ('%' :: t.take (t.length - rest.length) ++ ": invalid directive".toList), rest)
  | [] => (.bad "missing format character".toList, [])

/-- The directives of a format; the bound is greater than the length of the format. -/
def directives (fuel : Nat) (t : Octets) : List Directive :=
  match fuel with
  | 0 => []
  | fuel + 1 =>
    match t with
    | [] => []
    | '%' :: rest =>
      let (d, rest) := directive rest
      d :: directives fuel rest
    | t =>
      let plain := t.takeWhile (· != '%')
      .text (escapes false plain).1 :: directives fuel (t.drop plain.length)

/-- A text filled up with blanks to a width. -/
def fillTo (left : Bool) (width : Nat) (t : Octets) : Octets :=
  let blanks := List.replicate (width - t.length) ' '
  if left then t ++ blanks else blanks ++ t

/-- The digits of a number in a kind of conversion, without a sign. -/
def digitsFor (kind : Char) (n : Int) : Octets :=
  let word := (n % 18446744073709551616).toNat
  match kind with
  | 'x' => Nat.toDigits 16 word
  | 'X' => (Nat.toDigits 16 word).map Char.toUpper
  | 'o' => Nat.toDigits 8 word
  | 'u' => Nat.toDigits 10 word
  | _ => Nat.toDigits 10 n.natAbs

/-- The sign of a number in a kind of conversion. -/
def signFor (flags : Octets) (kind : Char) (n : Int) : Octets :=
  if kind != 'd' && kind != 'i' then []
  else if n < 0 then ['-']
  else if flags.contains '+' then ['+']
  else if flags.contains ' ' then [' ']
  else []

/-- A number as a conversion writes it. -/
def writeNumber (c : Conversion) (width : Nat) (precision : Option Nat) (n : Int) : Octets :=
  let sign := signFor c.flags c.kind n
  let digits := digitsFor c.kind n
  let left := c.flags.contains '-'
  let least := match precision with
    | some p => p
    | none => if c.flags.contains '0' && !left then width - sign.length else 0
  fillTo left width (sign ++ List.replicate (least - digits.length) '0' ++ digits)

/-- What has been written by a format. -/
structure Printing where
  /-- The text. -/
  out : Octets := []
  /-- What was wrong, each on a line of its own. -/
  err : Octets := []
  /-- The status. -/
  status : Nat := 0
  /-- The arguments that are left. -/
  args : List Octets
  /-- Whether nothing more is to be written. -/
  isStopped : Bool := false

namespace Printing

/-- Takes the next argument, empty where there is none. -/
def next (p : Printing) : Printing × Octets :=
  ({ p with args := p.args.tail }, p.args.headD [])

/-- Takes note of what is wrong with an argument. -/
def note (p : Printing) (t : Octets) : Option String → Printing
  | none => p
  | some what =>
    { p with err := p.err ++ "printf: ".toList ++ t ++ s!": {what}\n".toList, status := 1 }

/-- Takes the number of a directive. -/
def take (p : Printing) : Option Amount → Printing × Option Nat
  | none => (p, none)
  | some (.given n) => (p, some n)
  | some .argument =>
    let (p, t) := p.next
    let (n, what) := integerIn t
    (p.note t what, some n.toNat)

/-- Writes an argument. -/
def convert (p : Printing) (c : Conversion) : Printing :=
  let (p, width) := p.take c.width
  let (p, precision) := p.take c.precision
  let (p, t) := p.next
  let left := c.flags.contains '-'
  let cut := fun (t : Octets) => fillTo left (width.getD 0) (t.take (precision.getD t.length))
  match c.kind with
  | 's' => { p with out := p.out ++ cut t }
  | 'c' => { p with out := p.out ++ fillTo left (width.getD 0) [t.headD '\x00'] }
  | 'b' =>
    let (t, stop) := escapes true t
    { p with out := p.out ++ cut t, isStopped := stop }
  | _ =>
    let (n, what) := integerIn t
    { p.note t what with out := p.out ++ writeNumber c (width.getD 0) precision n }

/-- Carries a directive out. -/
def step (p : Printing) (d : Directive) : Printing :=
  if p.isStopped then p
  else
    match d with
    | .text t => { p with out := p.out ++ t }
    | .argument c => p.convert c
    | .bad what =>
      { p with err := p.err ++ "printf: ".toList ++ what ++ ['\n'], status := 2, isStopped := true }

end Printing

/-- The directives carried out as often as there are arguments for them. -/
def carryOut (ds : List Directive) : Nat → Printing → Printing
  | 0, p => p
  | fuel + 1, p =>
    let q := ds.foldl Printing.step p
    if q.isStopped || q.args.isEmpty || q.args.length == p.args.length then q
    else carryOut ds fuel q

/-- What `printf` does with its arguments, of which the first is the format. -/
def printf : List Octets → Printing
  | [] => { err := "printf: usage: printf format [arg ...]\n".toList, status := 2, args := [] }
  | format :: args => carryOut (directives (format.length + 1) format) (args.length + 1) { args }

end LintBridge.Shell
