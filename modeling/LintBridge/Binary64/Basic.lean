/-!
# Double-precision numbers, exactly

A number with a fraction or an exponent in JSON or TOML is a double-precision number. It is held
here as what it is, a sign and an integer times a power of two, so that rounding, printing and the
tests below are computed with integers alone and can be reasoned about.

* `LintBridge.Binary64` – the numbers, with `nan` and the infinities;
* `LintBridge.Binary64.ofRatio` – the nearest number to a quotient, **ties to even**;
* `LintBridge.Binary64.ofInt`, `LintBridge.Binary64.ofDecimal` – the nearest number to an integer
  and to a decimal numeral;
* `LintBridge.Binary64.toInt?` – the integer a number is equal to;
* `LintBridge.Binary64.isPositive`, `LintBridge.Binary64.isNonnegative` – order against zero, under
  which `nan` is neither.
-/

namespace LintBridge

/-- A double-precision number. -/
inductive Binary64 where
  /-- Not a number. -/
  | nan
  /-- An infinity. -/
  | infinity (negative : Bool)
  /-- The number `mantissa * 2 ^ exponent`, negated where `negative`. -/
  | finite (negative : Bool) (mantissa : Nat) (exponent : Int)
  deriving DecidableEq, Repr

namespace Binary64

/-- The least exponent of a double. -/
def minExponent : Int := -1074

/-- The greatest exponent of a double. -/
def maxExponent : Int := 971

/-- The first number that has 53 significant bits. -/
def leastFull : Nat := 4503599627370496

/-- The first number that has more of them. -/
def pastFull : Nat := 9007199254740992

/-- The integer nearest to a quotient; a half goes to the even neighbour. -/
def roundQuotient (num den : Nat) : Nat :=
  let q := num / den
  let twice := 2 * (num % den)
  if twice < den then q
  else if den < twice then q + 1
  else if q % 2 == 0 then q else q + 1

/-- The quotient `num / (den * 2 ^ e)` as a numerator and a denominator. -/
def shiftRatio (num den : Nat) (e : Int) : Nat × Nat :=
  if 0 ≤ e then (num, den * Nat.pow 2 e.toNat) else (num * Nat.pow 2 (-e).toNat, den)

/-- The exponent at which the quotient of two positive numbers has 53 significant bits, or the least
one for quotients too small for that. -/
def exponentOf (num den : Nat) : Int :=
  let guess := (num.log2 : Int) - (den.log2 : Int) - 52
  let (n, d) := shiftRatio num den guess
  max (if n / d < leastFull then guess - 1 else guess) minExponent

/-- The number nearest to `num / den`, negated where `negative`. -/
def ofRatio (negative : Bool) (num den : Nat) : Binary64 :=
  if num == 0 then .finite negative 0 minExponent
  else
    let e := exponentOf num den
    let (n, d) := shiftRatio num den e
    let m := roundQuotient n d
    let (m, e) := if m == pastFull then (leastFull, e + 1) else (m, e)
    if maxExponent < e then .infinity negative else .finite negative m e

/-- The number nearest to an integer. -/
def ofInt (n : Int) : Binary64 :=
  ofRatio (n < 0) n.natAbs 1

/-- The number nearest to `digits * 10 ^ exponent`, negated where `negative`. Numerals beyond the
range of doubles are told by their exponent before any power of ten is formed. -/
def ofDecimal (negative : Bool) (digits : Nat) (exponent : Int) : Binary64 :=
  if digits == 0 then .finite negative 0 minExponent
  else if 400 < exponent then .infinity negative
  else if exponent + digits.log2 / 3 + 1 < -400 then .finite negative 0 minExponent
  else if 0 ≤ exponent then ofRatio negative (digits * Nat.pow 10 exponent.toNat) 1
  else ofRatio negative digits (Nat.pow 10 (-exponent).toNat)

/-- A finite magnitude as a numerator and a denominator. -/
def magnitude (mantissa : Nat) (exponent : Int) : Nat × Nat :=
  shiftRatio mantissa 1 (-exponent)

/-- The integer a number is equal to. -/
def toInt? : Binary64 → Option Int
  | .finite negative m e =>
    let (num, den) := magnitude m e
    if num % den == 0 then
      let n : Int := (num / den : Nat)
      some (if negative then -n else n)
    else none
  | _ => none

/-- Greater than zero. -/
def isPositive : Binary64 → Bool
  | .nan => false
  | .infinity negative => !negative
  | .finite negative m _ => !negative && m != 0

/-- Greater than or equal to zero; both zeros are. -/
def isNonnegative : Binary64 → Bool
  | .nan => false
  | .infinity negative => !negative
  | .finite negative m _ => !negative || m == 0

/-- The integer nearest to a thousand times the number: seconds as whole milliseconds. -/
def thousandths? : Binary64 → Option Int
  | .finite negative m e =>
    let (num, den) := magnitude m e
    let n : Int := roundQuotient (1000 * num) den
    some (if negative then -n else n)
  | _ => none

end Binary64

end LintBridge
