import LintBridge.Binary64.Basic
import LintBridge.Text.Digit
import Mathlib.Tactic.Ring
import Mathlib.Algebra.Order.Ring.Nat

/-!
# The range of doubles

Rounding a quotient leaves a significand of 53 bits: the exponent is first guessed from the lengths
of the two numbers, which is one too much at most (`LintBridge.Binary64.shiftRatio_lt`), and put
right where it is (`LintBridge.Binary64.shiftRatio_pred_lt`). An exponent that is too large makes an
infinity. **So an integer that a numeral with a fraction or an exponent is equal to is not too
long** (`LintBridge.Binary64.natAbs_toInt?_lt`).
-/

namespace LintBridge.Binary64

variable {num den : Nat} {e : Int}

/-- A significand and an exponent are within bounds. -/
def InRange : Binary64 → Prop
  | .finite _ m e => m ≤ pastFull ∧ e ≤ maxExponent
  | _ => True

theorem roundQuotient_le (num den : Nat) : roundQuotient num den ≤ num / den + 1 := by
  unfold roundQuotient
  dsimp only
  split_ifs <;> omega

theorem le_roundQuotient (num den : Nat) : num / den ≤ roundQuotient num den := by
  unfold roundQuotient
  dsimp only
  split_ifs <;> omega

theorem shiftRatio_snd_pos (hden : den ≠ 0) (e : Int) : 0 < (shiftRatio num den e).2 := by
  unfold shiftRatio
  split
  · exact Nat.mul_pos (Nat.pos_of_ne_zero hden) (Nat.pow_pos (by decide))
  · exact Nat.pos_of_ne_zero hden

/-- From the guess on, a quotient has no more than 53 bits. -/
theorem shiftRatio_lt (hden : den ≠ 0) (he : (num.log2 : Int) - den.log2 - 52 ≤ e) :
    (shiftRatio num den e).1 < pastFull * (shiftRatio num den e).2 := by
  have hnum : num < 2 ^ (num.log2 + 1) := Nat.lt_log2_self
  have hlow : 2 ^ den.log2 ≤ den := Nat.log2_self_le hden
  have hfull : pastFull = 2 ^ 53 := by decide
  unfold shiftRatio
  rw [hfull]
  split
  · calc num
        < 2 ^ (num.log2 + 1) := hnum
      _ ≤ 2 ^ (53 + (den.log2 + e.toNat)) := Nat.pow_le_pow_right (by decide) (by omega)
      _ = 2 ^ 53 * (2 ^ den.log2 * 2 ^ e.toNat) := by ring
      _ ≤ 2 ^ 53 * (den * 2 ^ e.toNat) := by gcongr
  · calc num * 2 ^ (-e).toNat
        < 2 ^ (num.log2 + 1) * 2 ^ (-e).toNat :=
          Nat.mul_lt_mul_of_pos_right hnum (Nat.pow_pos (by decide))
      _ = 2 ^ (num.log2 + 1 + (-e).toNat) := by ring
      _ ≤ 2 ^ (53 + den.log2) := Nat.pow_le_pow_right (by decide) (by omega)
      _ = 2 ^ 53 * 2 ^ den.log2 := by ring
      _ ≤ 2 ^ 53 * den := by gcongr

/-- Lowering the exponent by one doubles the quotient. -/
theorem shiftRatio_pred_lt (h : (shiftRatio num den e).1 < leastFull * (shiftRatio num den e).2) :
    (shiftRatio num den (e - 1)).1 < pastFull * (shiftRatio num den (e - 1)).2 := by
  have hfull : pastFull = 2 * leastFull := by decide
  have hexpand : ∀ {d d' : Nat}, d = 2 * d' → leastFull * d = pastFull * d' := by
    rintro d d' rfl
    rw [hfull]
    ring
  rcases Int.lt_or_le 0 e with hpositive | hnonpositive
  · have hden : den * 2 ^ e.toNat = 2 * (den * 2 ^ (e - 1).toNat) := by
      rw [show e.toNat = (e - 1).toNat + 1 by omega]
      ring
    simp only [shiftRatio, hpositive.le, show 0 ≤ e - 1 by omega, if_true, Nat.pow_eq] at h ⊢
    rwa [← hexpand hden]
  · have hnum : (shiftRatio num den (e - 1)).1 = 2 * (shiftRatio num den e).1 ∧
        (shiftRatio num den (e - 1)).2 = (shiftRatio num den e).2 := by
      unfold shiftRatio
      rw [if_neg (show ¬ 0 ≤ e - 1 by omega), show (-(e - 1)).toNat = (-e).toNat + 1 by omega]
      split
      · rw [show e = 0 by omega]
        exact ⟨by simp [Nat.mul_comm], by simp⟩
      · exact ⟨by simp only [Nat.pow_eq]; ring, rfl⟩
    rw [hnum.1, hnum.2, hfull, Nat.mul_assoc]
    exact Nat.mul_lt_mul_of_pos_left h (by decide)

/-- At the exponent that is chosen a quotient has no more than 53 bits. -/
theorem exponentOf_lt (hden : den ≠ 0) :
    (shiftRatio num den (exponentOf num den)).1 <
      pastFull * (shiftRatio num den (exponentOf num den)).2 := by
  unfold exponentOf
  dsimp only
  rcases Int.lt_or_le minExponent ((num.log2 : Int) - den.log2 - 52) with hmin | hmin
  · split
    · rename_i hsmall
      rw [max_eq_left (by omega)]
      exact shiftRatio_pred_lt ((Nat.div_lt_iff_lt_mul (shiftRatio_snd_pos hden _)).mp hsmall)
    · rw [max_eq_left hmin.le]
      exact shiftRatio_lt hden le_rfl
  · refine shiftRatio_lt hden ?_
    split <;> omega

theorem inRange_ofRatio (negative : Bool) (hden : den ≠ 0) :
    (ofRatio negative num den).InRange := by
  have hquotient : (shiftRatio num den (exponentOf num den)).1 /
      (shiftRatio num den (exponentOf num den)).2 < pastFull :=
    (Nat.div_lt_iff_lt_mul (shiftRatio_snd_pos hden _)).mpr (exponentOf_lt hden)
  have hround := roundQuotient_le (shiftRatio num den (exponentOf num den)).1
    (shiftRatio num den (exponentOf num den)).2
  unfold ofRatio
  split_ifs with hzero
  · exact ⟨by decide, by decide⟩
  · dsimp only
    split_ifs with hcarry hlarge hlarge
    · trivial
    · have hfull : leastFull ≤ pastFull := by decide
      exact ⟨hfull, Int.not_lt.mp hlarge⟩
    · trivial
    · exact ⟨by omega, Int.not_lt.mp hlarge⟩

/-- **A decimal numeral stands for a number within bounds.** -/
theorem inRange_ofDecimal (negative : Bool) (digits : Nat) (exponent : Int) :
    (ofDecimal negative digits exponent).InRange := by
  have hzero : InRange (.finite negative 0 minExponent) := ⟨by decide, by decide⟩
  unfold ofDecimal
  split_ifs
  · exact hzero
  · trivial
  · exact hzero
  · exact inRange_ofRatio negative (by decide)
  · exact inRange_ofRatio negative (Nat.pow_pos (by decide)).ne'

/-- **An integer within bounds is not too long.** -/
theorem natAbs_toInt?_lt {x : Binary64} (hx : x.InRange) {n : Int} (h : x.toInt? = some n) :
    n.natAbs < 10 ^ Text.maxDigits := by
  cases x with
  | nan => cases h
  | infinity negative => cases h
  | finite negative m e =>
    obtain ⟨hm, he⟩ := hx
    have hquotient : (magnitude m e).1 / (magnitude m e).2 ≤ pastFull * 2 ^ maxExponent.toNat := by
      unfold magnitude shiftRatio
      split
      · calc m / (1 * 2 ^ (-e).toNat)
            ≤ m := Nat.div_le_self _ _
          _ ≤ pastFull := hm
          _ ≤ pastFull * 2 ^ maxExponent.toNat :=
            Nat.le_mul_of_pos_right _ (Nat.pow_pos (by decide))
      · calc m * 2 ^ (- -e).toNat / 1
            = m * 2 ^ (- -e).toNat := Nat.div_one _
          _ ≤ pastFull * 2 ^ maxExponent.toNat :=
            Nat.mul_le_mul hm (Nat.pow_le_pow_right (by decide) (by omega))
    have hbound : ∀ k ≤ 971, pastFull * 2 ^ k < 10 ^ Text.maxDigits := by
      intro k hk
      have hmax : Text.maxDigits = 4300 := rfl
      calc pastFull * 2 ^ k
          < 10 ^ 16 * 10 ^ k :=
            Nat.mul_lt_mul_of_lt_of_le (by decide) (Nat.pow_le_pow_left (by decide) k)
              (Nat.pow_pos (by decide))
        _ = 10 ^ (16 + k) := (Nat.pow_add 10 16 k).symm
        _ ≤ 10 ^ Text.maxDigits := Nat.pow_le_pow_right (by decide) (by omega)
    have hlt := Nat.lt_of_le_of_lt hquotient (hbound _ (by decide))
    unfold toInt? at h
    dsimp only at h
    split at h
    · cases h
      split
      · rw [Int.natAbs_neg]
        exact hlt
      · exact hlt
    · cases h

end LintBridge.Binary64
