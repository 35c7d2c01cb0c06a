import LintBridge.Binary64.Text
import LintBridge.Proofs.Binary64.Range
import LintBridge.Proofs.Text.Lines
import LintBridge.Proofs.Text.Numeral
import Mathlib.Data.List.DropRight

/-!
# Trimmed texts

A text is trimmed when trimming leaves it as it is. What trimming yields is trimmed
(`LintBridge.Text.stripList_stripList`), and so is **every number that is written out**, whichever
of its many forms is taken: no character of it is blank (`LintBridge.Text.isTrimmed_of_int`,
`LintBridge.Text.isTrimmed_of_float`), and there is something in it
(`LintBridge.Text.isWord_of_int`, `LintBridge.Text.isWord_of_float`).
-/

namespace LintBridge.Text

/-! ### Trimming twice -/

section Strip

variable {α : Type} {p : α → Bool}

/-- What begins like a list without blanks at its front has none there either. -/
theorem dropWhile_of_isPrefix {s t : List α} (hbegin : t <+: s) (h : s.dropWhile p = s) :
    t.dropWhile p = t := by
  refine dropWhile_of_head fun c hc => ?_
  obtain ⟨rest, rfl⟩ := hbegin
  cases t with
  | nil => cases hc
  | cons d t =>
    obtain rfl : d = c := by simpa using hc
    have hhead := List.head?_dropWhile_not p (d :: t ++ rest)
    rw [h] at hhead
    exact hhead

/-- **Trimming a second time changes nothing.** -/
theorem stripList_stripList (s : List α) : stripList p (stripList p s) = stripList p s := by
  -- Trimming the end leaves the beginning as it is, and that has been trimmed already.
  have hbegin := List.rdropWhile_prefix p (s.dropWhile p)
  have hfront : (stripList p s).dropWhile p = stripList p s :=
    dropWhile_of_isPrefix hbegin (List.dropWhile_idempotent p s)
  calc stripList p (stripList p s)
      = ((stripList p s).dropWhile p).rdropWhile p := rfl
    _ = (stripList p s).rdropWhile p := by rw [hfront]
    _ = stripList p s := List.rdropWhile_idempotent p _

end Strip

/-- **A text that trimming leaves as it is.** -/
def IsTrimmed (s : String) : Prop :=
  strip s = s

instance (s : String) : Decidable (IsTrimmed s) :=
  inferInstanceAs (Decidable (strip s = s))

/-- A text is trimmed, and there is something in it. -/
structure IsWord (s : String) : Prop where
  /-- It is not empty. -/
  ne_empty : s ≠ ""
  /-- It has no blanks around it. -/
  trimmed : IsTrimmed s

/-- A text that trimming leaves nothing of is blank. -/
theorem isAllBlank_of_strip {s : String} (h : strip s = "") : isAllBlank s = true := by
  have hstrip : (s.toList.dropWhile isBlank).rdropWhile isBlank = [] := String.ofList_injective h
  have hrest := List.rdropWhile_eq_nil_iff.mp hstrip
  refine List.all_eq_true.mpr fun c hc => ?_
  rw [← List.takeWhile_append_dropWhile (p := isBlank) (l := s.toList), List.mem_append] at hc
  exact hc.elim List.mem_takeWhile_imp (hrest c)

theorem strip_eq_empty_iff {s : String} : strip s = "" ↔ isAllBlank s = true := by
  refine ⟨isAllBlank_of_strip, fun h => ?_⟩
  have hnil : s.toList.dropWhile isBlank = [] :=
    List.dropWhile_eq_nil_iff.mpr (List.all_eq_true.mp h)
  unfold strip stripList
  rw [hnil]
  rfl

/-- A text without blank characters is trimmed. -/
theorem isTrimmed_of_not_blank {s : String} (h : ∀ c ∈ s.toList, isBlank c = false) :
    IsTrimmed s := by
  have hends : stripList isBlank s.toList = s.toList :=
    stripList_of_ends (fun c hc => h c (List.mem_of_mem_head? hc))
      fun c hc => h c (List.mem_of_mem_getLast? hc)
  unfold IsTrimmed strip
  rw [hends, String.ofList_toList]

section Padded

variable {before s after : String}

/-- Blanks around a text are trimmed off. -/
theorem stripList_padded (hbefore : isAllBlank before = true) (hafter : isAllBlank after = true) :
    stripList isBlank (before ++ s ++ after).toList = stripList isBlank s.toList := by
  rw [String.toList_append, String.toList_append,
    stripList_append_right (List.all_eq_true.mp hafter),
    stripList_append_left (List.all_eq_true.mp hbefore)]

theorem strip_padded (hbefore : isAllBlank before = true) (hafter : isAllBlank after = true) :
    strip (before ++ s ++ after) = strip s :=
  congrArg String.ofList (stripList_padded hbefore hafter)

end Padded

/-! ### Numbers -/

/-- The characters of a text are not blank. -/
def Unblank (s : List Char) : Prop :=
  ∀ c ∈ s, isBlank c = false

instance (s : List Char) : Decidable (Unblank s) :=
  List.decidableBAll (fun c => isBlank c = false) s

section Unblank

variable {s t : List Char}

theorem Unblank.append (hs : Unblank s) (ht : Unblank t) : Unblank (s ++ t) := by
  intro c hc
  exact (List.mem_append.mp hc).elim (hs c) (ht c)

theorem Unblank.cons {c : Char} (hc : isBlank c = false) (hs : Unblank s) : Unblank (c :: s) :=
  List.forall_mem_cons.mpr ⟨hc, hs⟩

theorem unblank_nil : Unblank [] := by
  decide

theorem Unblank.mono (hs : Unblank s) (h : ∀ c ∈ t, c ∈ s) : Unblank t :=
  fun c hc => hs c (h c hc)

/-- A digit is not blank. -/
theorem isBlank_of_isDigit {c : Char} (h : c.isDigit = true) : isBlank c = false := by
  simp only [Char.isDigit, Bool.and_eq_true, decide_eq_true_eq, ge_iff_le, UInt32.le_iff_toNat_le]
    at h
  obtain ⟨hlow, hhigh⟩ := h
  have hlow : 48 ≤ c.val.toNat := hlow
  have hhigh : c.val.toNat ≤ 57 := hhigh
  rw [← Bool.not_eq_true]
  simp only [isBlank, Bool.or_eq_true, Bool.and_eq_true, decide_eq_true_eq, beq_iff_eq]
  omega

theorem unblank_toDigits (n : Nat) : Unblank (Nat.toDigits 10 n) :=
  fun _ hc => isBlank_of_isDigit (Nat.isDigit_of_mem_toDigits (by decide) (by decide) hc)

theorem unblank_zeros (n : Nat) : Unblank (List.replicate n '0') := by
  intro c hc
  rw [List.eq_of_mem_replicate hc]
  decide

theorem isTrimmed_of_int (n : Int) : IsTrimmed (toString n) := by
  refine isTrimmed_of_not_blank ?_
  rw [toList_toString]
  split
  · exact Unblank.cons (by decide) (unblank_toDigits _)
  · exact unblank_toDigits _

open Binary64 in
theorem unblank_padZeros {n : Nat} (hs : Unblank s) : Unblank (padZeros n s) :=
  hs.append (unblank_zeros _)

open Binary64 in
theorem unblank_exponentText (e : Int) : Unblank (exponentText e) := by
  unfold exponentText
  dsimp only
  refine .cons (by decide) (.cons ?_ ?_)
  · split <;> decide
  · split
    · exact .cons (by decide) (unblank_toDigits _)
    · exact unblank_toDigits _

/-- A decimal numeral has digits, a point, signs and the letter of the exponent. -/
theorem unblank_decimal {d : Binary64.Decimal} (h : Unblank d.digits) : Unblank d.text := by
  -- The point stands among the digits, or before them all, or the numeral has an exponent.
  unfold Binary64.Decimal.text
  split
  · have hwhole := h.mono fun c hc => List.mem_of_mem_take (i := d.point.toNat) hc
    have hrest := h.mono fun c hc => List.mem_of_mem_drop (i := d.point.toNat) hc
    exact (unblank_padZeros hwhole).append (.cons (by decide) (unblank_padZeros hrest))
  · split
    · exact .cons (by decide) (.cons (by decide) ((unblank_zeros _).append h))
    · split
      · exact unblank_nil
      · rename_i c hdigits
        rw [hdigits] at h
        exact .cons (h c List.mem_cons_self) (unblank_exponentText _)
      · rename_i c rest _ hdigits
        rw [hdigits] at h
        obtain ⟨hc, hrest⟩ := List.forall_mem_cons.mp h
        exact .cons hc (.cons (by decide) (Unblank.append hrest (unblank_exponentText _)))

theorem unblank_shortest (m : Nat) (e : Int) : Unblank (Binary64.shortest m e).digits := by
  unfold Binary64.shortest
  dsimp only
  split
  · rename_i p x _
    refine (unblank_toDigits p).mono fun c hc => ?_
    have hmem := (List.dropWhile_sublist _).subset (List.mem_reverse.mp hc)
    exact List.mem_reverse.mp hmem
  · exact .cons (by decide) unblank_nil

theorem isTrimmed_of_float (x : Binary64) : IsTrimmed x.text := by
  cases x with
  | nan => decide
  | infinity negative => cases negative <;> decide
  | finite negative m e =>
    refine isTrimmed_of_not_blank ?_
    have hbody : Unblank (if m == 0 then ['0', '.', '0'] else (Binary64.shortest m e).text) := by
      split
      · decide
      · exact unblank_decimal (unblank_shortest m e)
    have hsign : Unblank (if negative then "-" else "").toList := by
      cases negative <;> decide
    simp only [Binary64.text, Binary64.textWith, String.toList_append, String.toList_ofList]
    exact hsign.append hbody

end Unblank

/-! A number that is written out leaves something to see. -/

section Word

open Binary64

theorem significantDigits_ne_nil {n : Nat} (h : n ≠ 0) : significantDigits n ≠ [] := by
  intro hnil
  have hzeros : ∀ c ∈ (Nat.toDigits 10 n).reverse, (c == '0') = true :=
    List.dropWhile_eq_nil_iff.mp (List.reverse_eq_nil_iff.mp hnil)
  cases hdigits : Nat.toDigits 10 n with
  | nil => exact Nat.toDigits_ne_nil hdigits
  | cons c rest =>
    have hc : c = '0' := by simpa [hdigits] using hzeros c
    exact head?_toDigits_ne_zero h (by rw [hdigits, hc, List.head?_cons])

/-- Zero does not read back as a positive magnitude. -/
theorem gridPoint?_ne_zero {m p : Nat} {e x : Int} (h : gridPoint? m e x = some p) : p ≠ 0 := by
  unfold gridPoint? at h
  dsimp only at h
  have hpos : ∀ q : Nat, (q != 0 && ofDecimal false q x == .finite false m e) = true → q ≠ 0 := by
    intro q hq
    simpa using (Bool.and_eq_true_iff.mp hq).1
  split at h
  · rename_i hlow _
    cases h
    exact Nat.pos_iff_ne_zero.mp ((Nat.pos_of_ne_zero (hpos _ hlow)).trans_le (le_roundQuotient _ _))
  · rename_i hlow _
    cases h
    exact hpos _ hlow
  · rename_i hhigh
    cases h
    exact hpos _ hhigh
  · cases h

theorem digits_shortest_ne_nil (m : Nat) (e : Int) : (shortest m e).digits ≠ [] := by
  unfold shortest
  dsimp only
  split
  · rename_i p x hfound
    obtain ⟨i, -, hi⟩ := List.exists_of_findSome?_eq_some hfound
    obtain ⟨q, hq, hpair⟩ := Option.map_eq_some_iff.mp hi
    cases hpair
    exact significantDigits_ne_nil (gridPoint?_ne_zero hq)
  · nofun

theorem text_decimal_ne_nil {d : Decimal} (h : d.digits ≠ []) : d.text ≠ [] := by
  unfold Decimal.text
  split
  · simp
  · split
    · nofun
    · split
      · contradiction
      · nofun
      · nofun

theorem isWord_of_int (n : Int) : IsWord (toString n) := by
  refine ⟨fun hempty => ?_, isTrimmed_of_int n⟩
  have hnil := congrArg String.toList hempty
  rw [toList_toString] at hnil
  split at hnil
  · cases hnil
  · exact Nat.toDigits_ne_nil hnil

/-- **An integer that is not too long is read back from its text with blanks around it.** -/
theorem readInt?_padded {before after : String} {n : Int} (hshort : n.natAbs < 10 ^ maxDigits)
    (hbefore : isAllBlank before = true) (hafter : isAllBlank after = true) :
    readInt? (before ++ toString n ++ after) = some n := by
  refine readInt?_of_stripList hshort ?_
  rw [stripList_padded hbefore hafter]
  exact String.ofList_injective ((isTrimmed_of_int n).trans String.ofList_toList.symm)

theorem isWord_of_float (x : Binary64) : IsWord x.text := by
  refine ⟨?_, isTrimmed_of_float x⟩
  cases x with
  | nan => decide
  | infinity negative => cases negative <;> decide
  | finite negative m e =>
    have hbody : (if m == 0 then ['0', '.', '0'] else (shortest m e).text) ≠ [] := by
      split
      · nofun
      · exact text_decimal_ne_nil (digits_shortest_ne_nil m e)
    intro hempty
    have hnil := congrArg String.toList hempty
    simp only [text, textWith, String.toList_append, String.toList_ofList] at hnil
    exact hbody (List.append_eq_nil_iff.mp hnil).2

end Word

end LintBridge.Text
