import LintBridge.Text.CaseMap
import Mathlib.Data.List.Basic

/-!
# Texts in lower case

Lowering has nothing left to do once it is done: **there is nothing in a lowered text that lowering
would change** (`LintBridge.Text.isLowered_of_mem_lowerList`), and a text of such characters stays
as it is (`LintBridge.Text.lowerList_of_isLowered`). For a character this is a fact about the table
of lower-case forms: no stretch of it sends a member to a member of another
(`LintBridge.Text.CaseRun.avoids`), which is looked up for every two stretches and not for every two
characters.

Lowering does not bring in a hyphen either (`LintBridge.Text.mem_of_hyphen_mem_lowerList`), which is
what the spelling of keys needs of it.
-/

namespace LintBridge.Text

/-- **A character that lowering leaves as it is.** -/
def IsLowered (c : Char) : Prop :=
  lowerChar c = [c]

instance (c : Char) : Decidable (IsLowered c) :=
  inferInstanceAs (Decidable (lowerChar c = [c]))

/-- Capital sigma is none of them. -/
theorem IsLowered.ne_sigma {c : Char} (h : IsLowered c) : c ≠ 'Σ' := by
  rintro rfl
  exact absurd h (by decide +kernel)

/-! ### Stretches of the table -/

namespace CaseRun

/-- Where the first member of a stretch is sent. -/
def low (run : CaseRun) : Nat :=
  ((run.first : Int) + run.shift).toNat

/-- Where the last member of a stretch is sent. -/
def high (run : CaseRun) : Nat :=
  ((run.last : Int) + run.shift).toNat

/-- A stretch sends no member to a member of the other: its image lies outside the other, or
between the members of the other. -/
def avoids (run other : CaseRun) : Bool :=
  Nat.blt run.high other.first || Nat.blt other.last run.low ||
    (Nat.beq run.step 2 || Nat.beq run.first run.last) && Nat.beq other.step 2 &&
      Nat.beq ((run.low + other.first) % 2) 1

variable {run other : CaseRun} {n m : Nat}

theorem shift?_eq_some (h : run.shift? n = some m) :
    run.first ≤ n ∧ n ≤ run.last ∧ (n - run.first) % run.step = 0 ∧
      m = ((n : Int) + run.shift).toNat := by
  unfold shift? at h
  split at h
  · rename_i hmember
    simp only [Bool.and_eq_true, decide_eq_true_eq, beq_iff_eq] at hmember
    exact ⟨hmember.1.1, hmember.1.2, hmember.2, (Option.some.inj h).symm⟩
  · cases h

theorem le_of_shift?_eq_some (h : run.shift? n = some m) : run.low ≤ m ∧ m ≤ run.high := by
  obtain ⟨hfirst, hlast, -, rfl⟩ := shift?_eq_some h
  unfold low high
  omega

theorem shift?_eq_none_of_avoids (havoids : run.avoids other = true)
    (hsound : 0 ≤ (run.first : Int) + run.shift) (h : run.shift? n = some m) :
    other.shift? m = none := by
  obtain ⟨hlow, hhigh⟩ := le_of_shift?_eq_some h
  obtain ⟨hfirst, hlast, hstep, hm⟩ := shift?_eq_some h
  cases hother : other.shift? m with
  | none => rfl
  | some k =>
    exfalso
    obtain ⟨hfirst', hlast', hstep', -⟩ := shift?_eq_some hother
    simp only [avoids, Bool.or_eq_true, Bool.and_eq_true, Nat.blt_eq, Nat.beq_eq] at havoids
    rcases havoids with (hbelow | habove) | ⟨⟨hsame, htwo⟩, hparity⟩
    · omega
    · omega
    · -- The members of both are two apart, and those of one are odd where the others are even.
      rw [htwo] at hstep'
      unfold low at hparity
      rcases hsame with hsame | hsame
      · rw [hsame] at hstep
        omega
      · omega

end CaseRun

/-! ### The table -/

/-- No stretch sends a member to a member of another. -/
theorem lowerRuns_avoid : (lowerRuns.all fun run => lowerRuns.all run.avoids) = true := by
  decide +kernel

/-- The stretches send their members beyond ASCII, to code points that are characters and that are
not listed as special. The one exception is the Kelvin sign. -/
theorem lowerRuns_range : ∀ run ∈ lowerRuns, 0 ≤ (run.first : Int) + run.shift ∧
    (run.low = 'k'.toNat ∧ run.high = 'k'.toNat ∨
      128 ≤ run.low ∧ (run.high < 0xD800 ∨ 0xDFFF < run.low ∧ run.high < 0x110000) ∧
        ∀ entry ∈ lowerSpecials, entry.1 < run.low ∨ run.high < entry.1) := by
  decide +kernel

theorem isLowered_special : ∀ entry ∈ lowerSpecials, ∀ m ∈ entry.2,
    IsLowered (Char.ofNat m) ∧ Char.ofNat m ≠ '-' := by
  decide +kernel

theorem isLowered_toLower_of_ascii : ∀ n < 128, IsLowered (Char.ofNat n).toLower ∧
    ((Char.ofNat n).toLower = '-' → Char.ofNat n = '-') := by
  decide +kernel

/-- **Where a stretch sends a character nothing is left to do.** -/
theorem isLowered_of_shift? {run : CaseRun} {n m : Nat} (hrun : run ∈ lowerRuns)
    (h : run.shift? n = some m) : IsLowered (Char.ofNat m) ∧ Char.ofNat m ≠ '-' := by
  obtain ⟨hlow, hhigh⟩ := CaseRun.le_of_shift?_eq_some h
  obtain ⟨hsound, hkelvin | ⟨hbeyond, hvalid, hspecials⟩⟩ := lowerRuns_range run hrun
  · obtain rfl : m = 'k'.toNat := by omega
    decide +kernel
  · have hvalue : (Char.ofNat m).val.toNat = m := by
      have hm : m.isValidChar := by
        rcases hvalid with hvalid | ⟨hvalid, hlimit⟩
        · exact .inl (by omega)
        · exact .inr ⟨by omega, by omega⟩
      exact congrArg Char.toNat (dif_pos hm)
    have hascii : ¬ (Char.ofNat m).val < 128 := fun hlt => by
      have hlt : (Char.ofNat m).val.toNat < 128 := UInt32.lt_iff_toNat_lt.mp hlt
      omega
    have hspecial : lowerSpecials.find? (·.1 == m) = none := by
      refine List.find?_eq_none.mpr fun entry hentry => ?_
      have hapart := hspecials entry hentry
      simp only [beq_iff_eq]
      omega
    have hrest : lowerRuns.findSome? (·.shift? m) = none := by
      refine List.findSome?_eq_none_iff.mpr fun other hother => ?_
      have havoids := List.all_eq_true.mp (List.all_eq_true.mp lowerRuns_avoid run hrun)
      exact CaseRun.shift?_eq_none_of_avoids (havoids other hother) hsound h
    refine ⟨?_, fun hhyphen => ?_⟩
    · rw [IsLowered, lowerChar, if_neg hascii]
      simp only [mapCase, hvalue, hspecial, hrest]
    · rw [hhyphen] at hvalue
      have hhyphen : '-'.val.toNat = 45 := rfl
      omega

/-! ### Characters -/

/-- What holds of the characters of ASCII one by one holds of all of them. -/
theorem of_ascii {P : Char → Prop} (h : ∀ n < 128, P (Char.ofNat n)) {c : Char}
    (hc : c.toNat < 128) : P c := by
  have hlisted := h c.toNat hc
  rwa [Char.ofNat_toNat] at hlisted

/-- **Lowering leaves what it makes of a character as it is**, and makes a hyphen of nothing else.
-/
theorem isLowered_of_mem_lowerChar {c d : Char} (h : d ∈ lowerChar c) :
    IsLowered d ∧ (d = '-' → c = '-') := by
  by_cases hascii : c.val < 128
  · rw [lowerChar, if_pos hascii] at h
    obtain rfl := List.mem_singleton.mp h
    exact of_ascii (P := fun c => IsLowered c.toLower ∧ (c.toLower = '-' → c = '-'))
      isLowered_toLower_of_ascii (UInt32.lt_iff_toNat_lt.mp hascii)
  · have hsame : lowerChar c = mapCase lowerRuns lowerSpecials c := if_neg hascii
    rw [hsame] at h
    unfold mapCase at h hsame
    dsimp only at h hsame
    split at h
    · rename_i entry ns hspecial
      obtain ⟨m, hm, rfl⟩ := List.mem_map.mp h
      obtain ⟨hlow, hne⟩ := isLowered_special _ (List.mem_of_find?_eq_some hspecial) m hm
      exact ⟨hlow, fun heq => absurd heq hne⟩
    · rename_i hspecial
      split at h
      · rename_i m hshift
        obtain rfl := List.mem_singleton.mp h
        obtain ⟨run, hrun, hm⟩ := List.exists_of_findSome?_eq_some hshift
        obtain ⟨hlow, hne⟩ := isLowered_of_shift? hrun hm
        exact ⟨hlow, fun heq => absurd heq hne⟩
      · rename_i hshift
        obtain rfl := List.mem_singleton.mp h
        simp only [hspecial, hshift] at hsame
        exact ⟨hsame, id⟩

/-! ### Texts -/

section Texts

variable {before cs : List Char} {d : Char}

theorem isLowered_of_mem_lowerAfter (h : d ∈ lowerAfter before cs) :
    IsLowered d ∧ (d = '-' → '-' ∈ cs) := by
  have hsigma : IsLowered 'ς' ∧ IsLowered 'σ' := by decide +kernel
  induction cs generalizing before with
  | nil => cases h
  | cons c rest ih =>
    simp only [lowerAfter, List.mem_append] at h
    rcases h with h | h
    · split at h
      · -- The two forms of sigma are lower-case letters.
        split at h
        · obtain rfl := List.mem_singleton.mp h
          exact ⟨hsigma.1, fun heq => absurd heq (by decide)⟩
        · obtain rfl := List.mem_singleton.mp h
          exact ⟨hsigma.2, fun heq => absurd heq (by decide)⟩
      · obtain ⟨hlow, hhyphen⟩ := isLowered_of_mem_lowerChar h
        exact ⟨hlow, fun heq => hhyphen heq ▸ List.mem_cons_self⟩
    · obtain ⟨hlow, hhyphen⟩ := ih h
      exact ⟨hlow, fun heq => List.mem_cons_of_mem _ (hhyphen heq)⟩

theorem lowerAfter_of_isLowered (h : ∀ c ∈ cs, IsLowered c) : lowerAfter before cs = cs := by
  induction cs generalizing before with
  | nil => rfl
  | cons c rest ih =>
    obtain ⟨hc, hrest⟩ := List.forall_mem_cons.mp h
    have hlow : lowerChar c = [c] := hc
    have hsigma : (c == 'Σ') = false := by simpa using hc.ne_sigma
    simp only [lowerAfter, hsigma, hlow, ih hrest, Bool.false_eq_true, if_false,
      List.singleton_append]

/-- What a text is lowered to holds nothing that lowering would change. -/
theorem isLowered_of_mem_lowerList (h : d ∈ lowerList cs) : IsLowered d :=
  (isLowered_of_mem_lowerAfter h).1

theorem mem_of_hyphen_mem_lowerList (h : '-' ∈ lowerList cs) : '-' ∈ cs :=
  (isLowered_of_mem_lowerAfter h).2 rfl

/-- A text of lower-case letters stays as it is. -/
theorem lowerList_of_isLowered (h : ∀ c ∈ cs, IsLowered c) : lowerList cs = cs :=
  lowerAfter_of_isLowered h

end Texts

end LintBridge.Text
