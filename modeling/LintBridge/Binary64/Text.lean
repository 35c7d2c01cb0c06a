import LintBridge.Binary64.Basic

/-!
# Double-precision numbers as text

A number is written with the **fewest digits that read back** as that number, and of those with the
ones nearest to it. Whether they read back is decided by reading: `LintBridge.Binary64.ofDecimal` is
asked about the two neighbours of the number on each decimal grid, coarsest grid first.

* `LintBridge.Binary64.shortest` – those digits and where the decimal point stands among them;
* `LintBridge.Binary64.text` – the default form: positional from `1e-4` up to `1e16`, with an
  exponent beyond;
* `LintBridge.Binary64.oneDecimal` – rounded to one place after the point.
-/

namespace LintBridge.Binary64

/-- A positive decimal numeral `0.d₁d₂… * 10 ^ point`. -/
structure Decimal where
  /-- The digits, the first and the last of which are not zero. -/
  digits : List Char
  /-- The place of the decimal point, counted from before the first digit. -/
  point : Int

/-- Whether the quotient `num / den` is less than `10 ^ k`. -/
def belowPower (num den : Nat) (k : Int) : Bool :=
  if 0 ≤ k then num < den * Nat.pow 10 k.toNat else num * Nat.pow 10 (-k).toNat < den

/-- The number of places before the decimal point of a positive magnitude: the least `k` with
`m * 2 ^ e < 10 ^ k`. -/
def pointOf (m : Nat) (e : Int) : Int :=
  let (num, den) := magnitude m e
  let guess := Int.fdiv (((m.log2 : Int) + e) * 30103) 100000
  if belowPower num den guess then guess
  else if belowPower num den (guess + 1) then guess + 1
  else guess + 2

/-- The quotient `num / (den * 10 ^ x)` as a numerator and a denominator. -/
def onGrid (num den : Nat) (x : Int) : Nat × Nat :=
  if 0 ≤ x then (num, den * Nat.pow 10 x.toNat) else (num * Nat.pow 10 (-x).toNat, den)

/-- The point of the grid of multiples of `10 ^ x` that reads back as `m * 2 ^ e`, the nearer one
where both neighbours do. -/
def gridPoint? (m : Nat) (e x : Int) : Option Nat :=
  let (num, den) := magnitude m e
  let (n, d) := onGrid num den x
  let low := n / d
  let readsBack := fun p => p != 0 && ofDecimal false p x == .finite false m e
  match readsBack low, readsBack (low + 1) with
  | true, true => some (roundQuotient n d)
  | true, false => some low
  | false, true => some (low + 1)
  | false, false => none

/-- The digits of a number without the zeros at its end. -/
def significantDigits (n : Nat) : List Char :=
  ((Nat.toDigits 10 n).reverse.dropWhile (· == '0')).reverse

/-- The fewest digits that read back as the positive magnitude `m * 2 ^ e`. -/
def shortest (m : Nat) (e : Int) : Decimal :=
  let point := pointOf m e
  let found := (List.range 17).findSome? fun i =>
    let x := point - (i + 1 : Nat)
    (gridPoint? m e x).map fun p => (p, x)
  match found with
  | some (p, x) => ⟨significantDigits p, ((Nat.toDigits 10 p).length : Int) + x⟩
  | none => ⟨['0'], 1⟩

/-- A list of digits filled up with zeros to `n` places. -/
def padZeros (n : Nat) (ds : List Char) : List Char :=
  ds ++ List.replicate (n - ds.length) '0'

/-- The exponent part: a sign and at least two digits. -/
def exponentText (e : Int) : List Char :=
  let ds := Nat.toDigits 10 e.natAbs
  'e' :: (if e < 0 then '-' else '+') :: (if ds.length < 2 then '0' :: ds else ds)

/-- A numeral written out: positional with at least one place after the point while the first digit
stands for `10 ^ -4` to `10 ^ 15`, with an exponent otherwise. -/
def Decimal.text (d : Decimal) : List Char :=
  if 0 < d.point && d.point ≤ 16 then
    let whole := padZeros d.point.toNat (d.digits.take d.point.toNat)
    let rest := d.digits.drop d.point.toNat
    whole ++ '.' :: padZeros 1 rest
  else if -4 < d.point && d.point ≤ 0 then
    '0' :: '.' :: List.replicate (-d.point).toNat '0' ++ d.digits
  else
    match d.digits with
    | [] => []
    | [c] => c :: exponentText (d.point - 1)
    | c :: rest => c :: '.' :: rest ++ exponentText (d.point - 1)

/-- The texts of the three values that have no digits. -/
structure Words where
  /-- Not a number. -/
  nan : String
  /-- Infinity. -/
  infinity : String

/-- A number as text, with the given words for the values that have no digits. -/
def textWith (words : Words) : Binary64 → String
  | .nan => words.nan
  | .infinity negative => (if negative then "-" else "") ++ words.infinity
  | .finite negative m e =>
    let body := if m == 0 then ['0', '.', '0'] else (shortest m e).text
    (if negative then "-" else "") ++ String.ofList body

/-- A number as text, the way settings and reports write it. -/
def text : Binary64 → String :=
  textWith ⟨"nan", "inf"⟩

/-- A number rounded to one place after the decimal point; a half goes to the even neighbour. -/
def oneDecimal : Binary64 → String
  | .finite negative m e =>
    let (num, den) := magnitude m e
    let t := roundQuotient (10 * num) den
    (if negative then "-" else "") ++ s!"{t / 10}.{t % 10}"
  | other => text other

end LintBridge.Binary64
