import LintBridge.Json.Reader
import LintBridge.Proofs.Result
import Mathlib.Data.List.Basic

/-!
# Reading moves forward

Every step of the reader that succeeds hands back what is left of the text: an ending of it, and not
all of it (`LintBridge.Json.Left`). Spans of blanks may be empty, values and names may not. It is
what keeps the items of an array from being read for ever, and what shows that the bounds on the
number of items and entries, which are taken from the length of the text, are never reached.
-/

namespace LintBridge.Json

/-- **What is left of a text** after something of it has been read. -/
def Left (rest s : List Char) : Prop :=
  rest <:+ s ∧ rest.length < s.length

namespace Left

variable {r s t : List Char}

theorem of_cons {c : Char} (h : r <:+ s) : Left r (c :: s) := by
  refine ⟨h.trans (List.suffix_cons c s), ?_⟩
  have hle := h.length_le
  rw [List.length_cons]
  omega

theorem trans_suffix (h : Left r s) (hs : s <:+ t) : Left r t :=
  ⟨h.1.trans hs, Nat.lt_of_lt_of_le h.2 hs.length_le⟩

theorem of_suffix (hr : r <:+ s) (h : Left s t) : Left r t :=
  ⟨hr.trans h.1, Nat.lt_of_le_of_lt hr.length_le h.2⟩

theorem trans (h : Left r s) (h' : Left s t) : Left r t :=
  h.trans_suffix h'.1

theorem cons {c : Char} (h : Left r s) : Left r (c :: s) :=
  h.trans_suffix (List.suffix_cons c s)

end Left

theorem skipBlanks_suffix (s : List Char) : skipBlanks s <:+ s :=
  List.dropWhile_suffix _

/-! ### Strings and numbers -/

theorem readUnits_left {opening : Nat} {s rest : List Char} {t : CodePoints} :
    readUnits opening s = .ok (t, rest) → Left rest s := by
  fun_induction readUnits opening s generalizing t rest with
  | case2 rest' =>
    intro h
    cases h
    exact .of_cons (List.suffix_refl _)
  | case4 a b c d head tail n hn ih =>
    intro h
    obtain ⟨⟨t', rest'⟩, h', heq⟩ := bind_eq_ok.mp h
    cases heq
    exact (ih h').cons.cons.cons.cons.cons.cons
  | case7 c rest' hnot hu e he ih =>
    intro h
    obtain ⟨⟨t', rest'⟩, h', heq⟩ := bind_eq_ok.mp h
    cases heq
    exact (ih h').cons.cons
  | case10 c rest' h1 h2 h3 h4 hlt ih =>
    intro h
    obtain ⟨⟨t', rest'⟩, h', heq⟩ := bind_eq_ok.mp h
    cases heq
    exact (ih h').cons
  | case1 | case3 | case5 | case6 | case8 | case9 =>
    intro h
    cases h

theorem readString_left {s rest : List Char} {t : CodePoints}
    (h : readString s = .ok (t, rest)) : Left rest s := by
  obtain ⟨⟨t', rest'⟩, h', heq⟩ := bind_eq_ok.mp h
  cases heq
  exact readUnits_left h'

theorem splitDigits_append (s : List Char) : (splitDigits s).1 ++ (splitDigits s).2 = s :=
  List.takeWhile_append_dropWhile

theorem splitDigits_suffix (s : List Char) : (splitDigits s).2 <:+ s :=
  ⟨_, splitDigits_append s⟩

theorem splitWhole_append (s : List Char) : (splitWhole s).1 ++ (splitWhole s).2 = s := by
  unfold splitWhole
  split
  · rfl
  · exact splitDigits_append s

theorem splitFraction_suffix (s : List Char) : (splitFraction s).2 <:+ s := by
  unfold splitFraction
  split
  · rename_i rest
    split
    · exact List.suffix_refl _
    · exact (splitDigits_suffix rest).trans (List.suffix_cons _ _)
  · exact List.suffix_refl _

theorem splitExponent_suffix (s : List Char) : (splitExponent s).2 <:+ s := by
  unfold splitExponent
  split
  · rename_i e rest
    by_cases he : (e == 'e' || e == 'E') = true
    · rw [if_pos he]
      split
      rename_i negative body hsigned
      -- The sign, if there is one, is passed over with the letter.
      have hbody : body <:+ e :: rest := by
        split at hsigned
        · cases hsigned
          exact (List.suffix_cons _ _).trans (List.suffix_cons _ _)
        · cases hsigned
          exact (List.suffix_cons _ _).trans (List.suffix_cons _ _)
        · cases hsigned
          exact List.suffix_cons _ _
      have hr := (splitDigits_suffix body).trans hbody
      split
      · exact List.suffix_refl _
      · rename_i ds r _ hds
        rwa [hds] at hr
    · simp only [if_neg he, List.suffix_refl]
  · exact List.suffix_refl _

/-- Reads a number after its sign, `remaining` characters before the end. -/
def readMagnitude (negative : Bool) (remaining : Nat) (body : List Char) :
    Except Fault (Value × List Char) :=
  match splitWhole body with
  | ([], _) => .error (.malformed .expectingValue remaining)
  | (whole, rest) =>
    match splitFraction rest with
    | (fraction, rest) =>
      match fraction, splitExponent rest with
      | [], (none, rest) =>
        if whole.length > Text.maxDigits then .error (.tooManyDigits whole.length)
        else
          let n : Int := Text.decimalValue whole
          .ok (.int (if negative then -n else n), rest)
      | _, (exponent, rest) =>
        let digits := Text.decimalValue (whole ++ fraction)
        .ok (.float (Binary64.ofDecimal negative digits (exponent.getD 0 - fraction.length)), rest)

theorem readNumber_minus (rest : List Char) :
    readNumber ('-' :: rest) = readMagnitude true (rest.length + 1) rest := rfl

theorem readNumber_of_ne_minus {s : List Char} (h : ∀ rest, s ≠ '-' :: rest) :
    readNumber s = readMagnitude false s.length s := by
  unfold readNumber
  split
  rename_i negative body hsign
  split at hsign
  · exact absurd rfl (h _)
  · cases hsign
    rfl

/-- What follows the whole part of a number makes it no more than an integer: neither a fraction nor
an exponent. -/
def EndsWhole (rest : List Char) : Prop :=
  (splitFraction rest).1 = [] ∧ (splitExponent (splitFraction rest).2).1 = none

section Magnitude

variable (negative : Bool) (remaining : Nat) {body : List Char}

theorem readMagnitude_of_nil (hw : (splitWhole body).1 = []) :
    readMagnitude negative remaining body = .error (.malformed .expectingValue remaining) := by
  unfold readMagnitude
  cases h : splitWhole body with
  | mk whole rest =>
    rw [h] at hw
    obtain rfl : whole = [] := hw
    rfl

/-- A number that is an integer must not have too many digits. -/
theorem readMagnitude_of_whole (hw : (splitWhole body).1 ≠ [])
    (he : EndsWhole (splitWhole body).2) :
    readMagnitude negative remaining body =
      if (splitWhole body).1.length > Text.maxDigits then
        .error (.tooManyDigits (splitWhole body).1.length)
      else
        let n : Int := Text.decimalValue (splitWhole body).1
        .ok (.int (if negative then -n else n),
          (splitExponent (splitFraction (splitWhole body).2).2).2) := by
  unfold readMagnitude EndsWhole at *
  cases h : splitWhole body with
  | mk whole rest =>
    rw [h] at hw he
    cases hf : splitFraction rest with
    | mk fraction rest₂ =>
      rw [hf] at he
      cases hx : splitExponent rest₂ with
      | mk exponent rest₃ =>
        rw [hx] at he
        obtain ⟨rfl, rfl⟩ : fraction = [] ∧ exponent = none := he
        cases whole with
        | nil => exact absurd rfl hw
        | cons c whole => simp only [hf, hx]

/-- Any other number may have any number of digits. -/
theorem readMagnitude_of_not_whole (hw : (splitWhole body).1 ≠ [])
    (he : ¬ EndsWhole (splitWhole body).2) :
    ∃ x, readMagnitude negative remaining body =
      .ok (.float x, (splitExponent (splitFraction (splitWhole body).2).2).2) := by
  unfold readMagnitude EndsWhole at *
  cases h : splitWhole body with
  | mk whole rest =>
    rw [h] at hw he
    cases hf : splitFraction rest with
    | mk fraction rest₂ =>
      rw [hf] at he
      cases hx : splitExponent rest₂ with
      | mk exponent rest₃ =>
        rw [hx] at he
        cases whole with
        | nil => exact absurd rfl hw
        | cons c whole =>
          simp only [hf, hx]
          cases fraction with
          | cons d fraction => exact ⟨_, rfl⟩
          | nil =>
            cases exponent with
            | some n => exact ⟨_, rfl⟩
            | none => exact absurd ⟨rfl, rfl⟩ he

end Magnitude

theorem readMagnitude_left {negative : Bool} {remaining : Nat} {body rest : List Char} {v : Value}
    (h : readMagnitude negative remaining body = .ok (v, rest)) : Left rest body := by
  by_cases hw : (splitWhole body).1 = []
  · rw [readMagnitude_of_nil negative remaining hw] at h
    cases h
  · have hrest : rest = (splitExponent (splitFraction (splitWhole body).2).2).2 := by
      by_cases he : EndsWhole (splitWhole body).2
      · rw [readMagnitude_of_whole negative remaining hw he] at h
        split at h
        · cases h
        · cases h
          rfl
      · obtain ⟨x, hx⟩ := readMagnitude_of_not_whole negative remaining hw he
        rw [hx] at h
        cases h
        rfl
    have hleft : Left (splitWhole body).2 body := by
      refine ⟨⟨_, splitWhole_append body⟩, ?_⟩
      have hlength := congrArg List.length (splitWhole_append body)
      rw [List.length_append] at hlength
      have hpos := List.length_pos_iff.mpr hw
      omega
    rw [hrest]
    exact .of_suffix ((splitExponent_suffix _).trans (splitFraction_suffix _)) hleft

theorem readNumber_left {s rest : List Char} {v : Value}
    (h : readNumber s = .ok (v, rest)) : Left rest s := by
  by_cases hs : ∃ body, s = '-' :: body
  · obtain ⟨body, rfl⟩ := hs
    exact (readMagnitude_left h).cons
  · rw [readNumber_of_ne_minus fun body heq => hs ⟨body, heq⟩] at h
    exact readMagnitude_left h

/-! ### Values -/

theorem readScalar_left {s rest : List Char} {v : Value}
    (h : readScalar readString s = .ok (v, rest)) : Left rest s := by
  unfold readScalar at h
  split at h
  · obtain ⟨⟨t, rest'⟩, h', heq⟩ := bind_eq_ok.mp h
    cases heq
    exact (readString_left h').cons
  all_goals first
    | exact readNumber_left h
    | (cases h; exact .of_cons (by simp [List.suffix_cons_iff]))

/-- A step that moves forward whenever it succeeds. -/
def Forward {α : Type} (step : Step α) : Prop :=
  ∀ s a rest, step s = .ok (a, rest) → Left rest s

theorem readItems_left {item : Step Value} (hitem : Forward item) {fuel : Nat}
    {s rest : List Char} {vs : List Value} (h : readItems item fuel s = .ok (vs, rest)) :
    Left rest s := by
  induction fuel generalizing s vs rest with
  | zero => cases h
  | succ fuel ih =>
    obtain ⟨⟨v, after⟩, hv, h⟩ := bind_eq_ok.mp h
    have hafter := hitem s v after hv
    have hblanks := skipBlanks_suffix after
    simp only at h
    split at h
    · rename_i rest' heq
      cases h
      rw [heq] at hblanks
      exact .of_suffix ((List.suffix_cons _ _).trans hblanks) hafter
    · rename_i rest' heq
      obtain ⟨⟨vs', rest''⟩, hvs, h⟩ := bind_eq_ok.mp h
      cases h
      rw [heq] at hblanks
      have hrest := (skipBlanks_suffix rest').trans ((List.suffix_cons _ _).trans hblanks)
      exact ((ih hvs).trans_suffix hrest).trans hafter
    · cases h

theorem readEntry_left {item : Step Value} (hitem : Forward item) {s rest : List Char}
    {entry : CodePoints × Value} (h : readEntry readString item s = .ok (entry, rest)) :
    Left rest s := by
  unfold readEntry at h
  split at h
  · obtain ⟨⟨key, after⟩, hkey, h⟩ := bind_eq_ok.mp h
    have hafter := readString_left hkey
    have hblanks := skipBlanks_suffix after
    simp only at h
    split at h
    · rename_i rest' heq
      obtain ⟨⟨v, rest''⟩, hv, h⟩ := bind_eq_ok.mp h
      cases h
      rw [heq] at hblanks
      have hrest := (skipBlanks_suffix rest').trans ((List.suffix_cons _ _).trans hblanks)
      exact (((hitem _ v rest'' hv).trans_suffix hrest).trans hafter).cons
    · cases h
  · cases h

theorem readEntries_left {item : Step Value} (hitem : Forward item) {fuel : Nat}
    {s rest : List Char} {entries : List (CodePoints × Value)}
    (h : readEntries readString item fuel s = .ok (entries, rest)) : Left rest s := by
  induction fuel generalizing s entries rest with
  | zero => cases h
  | succ fuel ih =>
    obtain ⟨⟨entry, after⟩, hentry, h⟩ := bind_eq_ok.mp h
    have hafter := readEntry_left hitem hentry
    have hblanks := skipBlanks_suffix after
    simp only at h
    split at h
    · rename_i rest' heq
      cases h
      rw [heq] at hblanks
      exact .of_suffix ((List.suffix_cons _ _).trans hblanks) hafter
    · rename_i rest' heq
      obtain ⟨⟨entries', rest''⟩, hentries, h⟩ := bind_eq_ok.mp h
      cases h
      rw [heq] at hblanks
      have hrest := (skipBlanks_suffix rest').trans ((List.suffix_cons _ _).trans hblanks)
      exact ((ih hentries).trans_suffix hrest).trans hafter
    · cases h

theorem readArray_left {item : Step Value} (hitem : Forward item) : Forward (readArray item) := by
  intro s v rest h
  have hblanks := skipBlanks_suffix s
  unfold readArray at h
  split at h
  · rename_i rest' heq
    cases h
    rw [heq] at hblanks
    exact .trans_suffix (.of_cons (List.suffix_refl _)) hblanks
  · obtain ⟨⟨items, rest'⟩, hitems, h⟩ := bind_eq_ok.mp h
    cases h
    exact (readItems_left hitem hitems).trans_suffix hblanks

theorem readObject_left {item : Step Value} (hitem : Forward item) :
    Forward (readObject readString item) := by
  intro s v rest h
  have hblanks := skipBlanks_suffix s
  unfold readObject at h
  split at h
  · rename_i rest' heq
    cases h
    rw [heq] at hblanks
    exact .trans_suffix (.of_cons (List.suffix_refl _)) hblanks
  · obtain ⟨⟨entries, rest'⟩, hentries, h⟩ := bind_eq_ok.mp h
    cases h
    exact (readEntries_left hitem hentries).trans_suffix hblanks

/-- **Reading a value moves forward.** -/
theorem readValue_left (depth : Nat) : Forward (readValue readString depth) := by
  induction depth with
  | zero =>
    intro s v rest h
    unfold readValue at h
    split at h
    · cases h
    · cases h
    · exact readScalar_left h
  | succ depth ih =>
    intro s v rest h
    unfold readValue at h
    split at h
    · exact (readArray_left ih _ v rest h).cons
    · exact (readObject_left ih _ v rest h).cons
    · exact readScalar_left h

end LintBridge.Json
