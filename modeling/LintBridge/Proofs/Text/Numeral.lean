import LintBridge.Text.Digit
import Mathlib.Data.List.Basic
import Mathlib.Data.List.Induction
import Mathlib.Data.Nat.Digits.Defs
import Mathlib.Tactic.IntervalCases

/-!
# Decimal numerals

An integer is written with a sign if it is negative, and with the digits that its magnitude takes.
**The digits have the magnitude for their value** (`LintBridge.Text.decimalValue_toDigits`), and the
value of so many digits is less than that power of ten (`LintBridge.Text.decimalValue_lt`), in
whichever script they are (`LintBridge.Text.natAbs_readInt?_lt`). **An integer that is not too long
is read back from its text** (`LintBridge.Text.readInt?_of_stripList`).
-/

namespace LintBridge.Text

/-- The text of an integer. -/
theorem toList_toString (n : Int) : (toString n).toList =
    if n < 0 then '-' :: Nat.toDigits 10 n.natAbs else Nat.toDigits 10 n.natAbs := by
  cases n with
  | ofNat m => exact Nat.toList_repr
  | negSucc m =>
    have hrepr : toString (Int.negSucc m) = "-" ++ (m + 1).repr := rfl
    rw [hrepr, String.toList_append, Nat.toList_repr, if_pos (Int.negSucc_lt_zero m)]
    rfl

theorem decimalValue_eq_ofDigitChars (ds : List Char) :
    decimalValue ds = Nat.ofDigitChars 10 ds 0 :=
  Nat.ofDigitChars_eq_foldl.symm

/-- **The digits of a number have it for their value.** -/
theorem decimalValue_toDigits (n : Nat) : decimalValue (Nat.toDigits 10 n) = n := by
  rw [decimalValue_eq_ofDigitChars, Nat.ofDigitChars_ten_toDigits]

/-- So many digits have a value below that power of ten. -/
theorem ofDigits_lt {ds : List Nat} (h : ∀ d ∈ ds, d < 10) : ofDigits ds < 10 ^ ds.length := by
  induction ds using List.reverseRecOn with
  | nil => decide
  | append_singleton ds d ih =>
    obtain ⟨hds, hd⟩ := List.forall_mem_append.mp h
    have hlast : d < 10 := hd d List.mem_cons_self
    have hvalue : ofDigits (ds ++ [d]) = 10 * ofDigits ds + d := by
      unfold ofDigits
      rw [List.foldl_append]
      rfl
    have hlt := ih hds
    rw [hvalue, List.length_append, List.length_singleton, Nat.pow_succ]
    omega

/-- ASCII digits have the value of the numbers they stand for. -/
theorem decimalValue_eq_ofDigits (ds : List Char) :
    decimalValue ds = ofDigits (ds.map fun c => c.val.toNat - 48) := by
  unfold decimalValue ofDigits
  rw [List.foldl_map]

theorem decimalValue_lt {ds : List Char} (h : ∀ c ∈ ds, c.isDigit = true) :
    decimalValue ds < 10 ^ ds.length := by
  have hdigits : ∀ d ∈ ds.map fun c => c.val.toNat - 48, d < 10 := by
    intro d hd
    obtain ⟨c, hc, rfl⟩ := List.mem_map.mp hd
    have hdigit := h c hc
    simp only [Char.isDigit, Bool.and_eq_true, decide_eq_true_eq, UInt32.le_iff_toNat_le] at hdigit
    have hhigh : c.val.toNat ≤ 57 := hdigit.2
    omega
  have hlt := ofDigits_lt hdigits
  rwa [← decimalValue_eq_ofDigits, List.length_map] at hlt

/-- The digits that a numeral is read as are below ten. -/
theorem lt_ten_of_mem_readDigits? {digit? : Char → Option Nat}
    (hdigit : ∀ c d, digit? c = some d → d < 10) {s : List Char} {ds : List Nat}
    (h : readDigits? digit? s = some ds) : ∀ d ∈ ds, d < 10 := by
  have hcons : ∀ {c : Char} {rest : List Char} {ds : List Nat},
      (∀ ds, readDigits? digit? rest = some ds → ∀ d ∈ ds, d < 10) →
      (do
        let d ← digit? c
        let ds ← readDigits? digit? rest
        some (d :: ds)) = some ds → ∀ d ∈ ds, d < 10 := by
    intro c rest ds ih h
    simp only [Option.bind_eq_bind, Option.bind_eq_some_iff] at h
    obtain ⟨d, hd, ds', hds', h⟩ := h
    cases h
    exact List.forall_mem_cons.mpr ⟨hdigit c d hd, ih ds' hds'⟩
  fun_induction readDigits? digit? s generalizing ds with
  | case1 => cases h
  | case2 c =>
    obtain ⟨d, hd, rfl⟩ := Option.map_eq_some_iff.mp h
    exact List.forall_mem_singleton.mpr (hdigit c d hd)
  | case3 c rest ih => exact hcons (fun _ => ih) h
  | case4 c rest _ _ ih => exact hcons (fun _ => ih) h

/-- **An integer that is read off a text is not too long.** -/
theorem natAbs_readInt?_lt {s : String} {n : Int} (h : readInt? s = some n) :
    n.natAbs < 10 ^ maxDigits := by
  have hdigit : ∀ c d, digitValue? c = some d → d < 10 := by
    intro c d hd
    obtain ⟨z, hz, rfl⟩ := Option.map_eq_some_iff.mp hd
    have hrange := List.find?_some hz
    simp only [Bool.and_eq_true, decide_eq_true_eq] at hrange
    omega
  unfold readInt? at h
  dsimp only at h
  split at h
  · cases h
  · rename_i ds hds
    split at h
    · cases h
    · rename_i hshort
      have hlt : ofDigits ds < 10 ^ maxDigits :=
        (ofDigits_lt (lt_ten_of_mem_readDigits? hdigit hds)).trans_le
          (Nat.pow_le_pow_right (by decide) (Nat.not_lt.mp hshort))
      split at h
      · cases h
        rw [Int.natAbs_neg]
        exact hlt
      · cases h
        exact hlt

/-! ### Reading back what is written -/

theorem digitValue?_of_isDigit {c : Char} (h : c.isDigit = true) :
    digitValue? c = some (c.val.toNat - 48) := by
  simp only [Char.isDigit, Bool.and_eq_true, decide_eq_true_eq, UInt32.le_iff_toNat_le] at h
  obtain ⟨hlow, hhigh⟩ := h
  have hzero : zeroDigits.find? (fun z => z ≤ c.val.toNat && c.val.toNat < z + 10) = some 0x30 := by
    refine List.find?_cons_of_pos ?_
    simp only [Bool.and_eq_true, decide_eq_true_eq]
    exact ⟨hlow, Nat.lt_succ_of_le hhigh⟩
  unfold digitValue?
  dsimp only
  rw [hzero]
  rfl

/-- Where there is no underscore, the digits are read one by one. -/
theorem readDigits?_of_isDigit {s : List Char} (hne : s ≠ []) (h : ∀ c ∈ s, c.isDigit = true) :
    readDigits? digitValue? s = some (s.map fun c => c.val.toNat - 48) := by
  fun_induction readDigits? digitValue? s with
  | case1 => exact absurd rfl hne
  | case2 c => rw [digitValue?_of_isDigit (h c (List.mem_singleton_self c))]; rfl
  | case3 c rest ih => exact absurd (h '_' (by simp)) (by decide)
  | case4 c rest hsome _ ih =>
    obtain ⟨hc, hrest⟩ := List.forall_mem_cons.mp h
    rw [digitValue?_of_isDigit hc, ih (by simpa using hsome) hrest]
    rfl

/-- **The digits of a number are read back as they are.** -/
theorem readDigits?_toDigits (n : Nat) : ∃ ds,
    readDigits? digitValue? (Nat.toDigits 10 n) = some ds ∧
      ds.length = (Nat.toDigits 10 n).length ∧ ofDigits ds = n := by
  have hdigits : ∀ c ∈ Nat.toDigits 10 n, c.isDigit = true := fun _ hc =>
    Nat.isDigit_of_mem_toDigits (by decide) (by decide) hc
  refine ⟨_, readDigits?_of_isDigit Nat.toDigits_ne_nil hdigits, List.length_map _, ?_⟩
  rw [← decimalValue_eq_ofDigits, decimalValue_toDigits]

/-- There is no sign before a digit. -/
theorem readSign_toDigits (n : Nat) :
    readSign (Nat.toDigits 10 n) = (false, Nat.toDigits 10 n) := by
  have hdigits : ∀ c ∈ Nat.toDigits 10 n, c.isDigit = true := fun _ hc =>
    Nat.isDigit_of_mem_toDigits (by decide) (by decide) hc
  unfold readSign
  split
  · rename_i rest hs
    exact absurd (hdigits '-' (hs ▸ List.mem_cons_self)) (by decide)
  · rename_i rest hs
    exact absurd (hdigits '+' (hs ▸ List.mem_cons_self)) (by decide)
  · rfl

/-- **An integer that is not too long is read back from its text.** -/
theorem readInt?_of_stripList {s : String} {n : Int} (hshort : n.natAbs < 10 ^ maxDigits)
    (hs : stripList isBlank s.toList = (toString n).toList) : readInt? s = some n := by
  obtain ⟨ds, hds, hlength, hvalue⟩ := readDigits?_toDigits n.natAbs
  have hfew : ¬ ds.length > maxDigits := by
    rw [hlength]
    exact Nat.not_lt.mpr (Nat.toDigits_length 10 _ maxDigits (by decide) hshort)
  unfold readInt?
  rw [hs, toList_toString]
  by_cases hneg : n < 0
  · have hsign : readSign ('-' :: Nat.toDigits 10 n.natAbs) = (true, Nat.toDigits 10 n.natAbs) :=
      rfl
    rw [if_pos hneg, hsign]
    dsimp only
    rw [hds]
    dsimp only
    rw [if_neg hfew, if_pos rfl, hvalue]
    congr 1
    omega
  · rw [if_neg hneg, readSign_toDigits]
    dsimp only
    rw [hds]
    dsimp only
    rw [if_neg hfew, if_neg Bool.false_ne_true, hvalue]
    congr 1
    omega

/-- The digits of a number other than zero do not begin with a zero. -/
theorem head?_toDigits_ne_zero {n : Nat} (h : n ≠ 0) : (Nat.toDigits 10 n).head? ≠ some '0' := by
  induction n using Nat.strong_induction_on with
  | _ n ih =>
    by_cases hsmall : n < 10
    · rw [Nat.toDigits_of_lt_base hsmall]
      interval_cases n
      · exact absurd rfl h
      all_goals decide
    · have hle : 10 ≤ n := Nat.not_lt.mp hsmall
      rw [Nat.toDigits_of_base_le (by decide) hle,
        List.head?_append_of_ne_nil _ Nat.toDigits_ne_nil]
      exact ih (n / 10) (Nat.div_lt_self (by omega) (by decide)) (by omega)

end LintBridge.Text
