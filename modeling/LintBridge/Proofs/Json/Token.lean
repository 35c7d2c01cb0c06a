import LintBridge.Proofs.Json.Overlong
import LintBridge.Proofs.Text.Lines

/-!
# How far strings and numbers extend

Reading takes a stretch of characters off the front of a text, and **how far it extends can be told
from the stretch alone**: in front of anything else that may follow, the same stretch is read as the
same (`LintBridge.Json.Extends`). Numbers are the reason why not everything may follow
(`LintBridge.Json.Stops`), since a digit after a number belongs to it.

The stretch neither begins nor ends with a blank, and holds no control character but the blanks that
the format allows (`LintBridge.Json.Solid`). Inside of a string it may hold any other character, and
so may hold characters that elsewhere count as blanks or end a line.

* `LintBridge.Json.readString_extends` – strings end at their closing quotation mark;
* `LintBridge.Json.readNumber_extends` – numbers end where nothing follows that belongs to one. Each
  of their three parts has its own condition on what follows, and the next part meets it.
-/

namespace LintBridge.Json

/-- **What may follow a value**: a blank, a comma or a closing bracket, or nothing. -/
def Stops (s : List Char) : Prop :=
  ∀ c ∈ s.head?, isJsonBlank c = true ∨ c = ',' ∨ c = ']' ∨ c = '\x7d'

/-- Whether a character is a blank of the format or no control character. -/
def isPlain (c : Char) : Bool :=
  32 ≤ c.val.toNat || isJsonBlank c

/-- **A stretch of a document without blanks at its ends** and without control characters but blanks
inside. -/
structure Solid (core : List Char) : Prop where
  /-- It is not empty. -/
  ne_nil : core ≠ []
  /-- It does not begin with a blank. -/
  head : ∀ c ∈ core.head?, Text.isBlank c = false
  /-- It does not end with a blank. -/
  last : ∀ c ∈ core.getLast?, Text.isBlank c = false
  /-- It holds no control character but blanks. -/
  plain : ∀ c ∈ core, isPlain c = true

/-- **How far a step reads can be told from what it reads.** -/
def Extends {α : Type} (step : Step α) : Prop :=
  ∀ s a rest, step s = .ok (a, rest) → ∃ core, s = core ++ rest ∧ Solid core ∧
    ∀ rest', Stops rest' → step (core ++ rest') = .ok (a, rest')

/-! ### Blanks and solid stretches -/

section Blanks

variable {s blanks : List Char} {c : Char}

theorem isBlank_of_isJsonBlank (h : isJsonBlank c = true) : Text.isBlank c = true := by
  simp only [isJsonBlank, Bool.or_eq_true, beq_iff_eq] at h
  obtain ((rfl | rfl) | rfl) | rfl := h <;> rfl

theorem isPlain_of_isJsonBlank (h : isJsonBlank c = true) : isPlain c = true := by
  rw [isPlain, h, Bool.or_true]

theorem isPlain_of_le (h : 32 ≤ c.val.toNat) : isPlain c = true := by
  rw [isPlain, decide_eq_true h, Bool.true_or]

/-- The blanks at the front of a text, and what comes after them. -/
theorem exists_blanks (s : List Char) :
    ∃ blanks, s = blanks ++ skipBlanks s ∧ ∀ c ∈ blanks, isJsonBlank c = true :=
  ⟨s.takeWhile isJsonBlank, List.takeWhile_append_dropWhile.symm,
    fun c hc => List.all_eq_true.mp List.all_takeWhile c hc⟩

theorem skipBlanks_append (h : ∀ c ∈ blanks, isJsonBlank c = true) (s : List Char) :
    skipBlanks (blanks ++ s) = skipBlanks s :=
  List.dropWhile_append_of_pos h

theorem skipBlanks_of_head (h : ∀ c ∈ s.head?, isJsonBlank c = false) : skipBlanks s = s :=
  Text.dropWhile_of_head h

/-- Blanks in front of what may follow a value may follow one. -/
theorem Stops.append (hs : Stops s) (h : ∀ c ∈ blanks, isJsonBlank c = true) :
    Stops (blanks ++ s) := by
  cases blanks with
  | nil => exact hs
  | cons b blanks =>
    rintro c ⟨⟩
    exact .inl (h b List.mem_cons_self)

theorem stops_nil : Stops [] := nofun

theorem stops_cons {s : List Char} (h : c = ',' ∨ c = ']' ∨ c = '\x7d') : Stops (c :: s) := by
  rintro _ ⟨⟩
  exact .inr h

/-- What may follow a value does not go on with a number. -/
theorem Stops.not_numeric (hs : Stops s) :
    ∀ c ∈ s.head?, c.isDigit = false ∧ c ≠ '.' ∧ c ≠ 'e' ∧ c ≠ 'E' := by
  intro c hc
  rcases hs c hc with h | rfl | rfl | rfl
  · simp only [isJsonBlank, Bool.or_eq_true, beq_iff_eq] at h
    obtain ((rfl | rfl) | rfl) | rfl := h <;> decide
  all_goals decide

end Blanks

namespace Solid

variable {a b mid core s : List Char}

/-- A stretch without any blanks. -/
theorem of_forall (hne : core ≠ [])
    (h : ∀ c ∈ core, Text.isBlank c = false ∧ isPlain c = true) : Solid core where
  ne_nil := hne
  head c hc := (h c (List.mem_of_mem_head? hc)).1
  last c hc := (h c (List.mem_of_mem_getLast? hc)).1
  plain c hc := (h c hc).2

/-- The same of a stretch that is given. -/
theorem of_all (hne : core ≠ [])
    (h : core.all (fun c => !Text.isBlank c && isPlain c) = true) : Solid core :=
  .of_forall hne fun c hc => by simpa using List.all_eq_true.mp h c hc

theorem singleton {c : Char} (h : c = '"' ∨ c = '[' ∨ c = ']' ∨ c = '\x7b' ∨ c = '\x7d') :
    Solid [c] := by
  refine .of_all (by simp) ?_
  obtain rfl | rfl | rfl | rfl | rfl := h <;> rfl

/-- Two stretches with anything between them that may stand in a document. -/
theorem append (ha : Solid a) (hb : Solid b) (hmid : ∀ c ∈ mid, isPlain c = true) :
    Solid (a ++ (mid ++ b)) where
  ne_nil := by simp [ha.ne_nil]
  head c hc := by
    rw [List.head?_append_of_ne_nil _ ha.ne_nil] at hc
    exact ha.head c hc
  last c hc := by
    rw [List.getLast?_append_of_ne_nil _ (by simp [hb.ne_nil]),
      List.getLast?_append_of_ne_nil _ hb.ne_nil] at hc
    exact hb.last c hc
  plain c hc := by
    rcases List.mem_append.mp hc with hc | hc
    · exact ha.plain c hc
    · rcases List.mem_append.mp hc with hc | hc
      · exact hmid c hc
      · exact hb.plain c hc

/-- A solid stretch begins with no blank of the format. -/
theorem skipBlanks_append (h : Solid core) (s : List Char) :
    skipBlanks (core ++ s) = core ++ s := by
  refine skipBlanks_of_head fun c hc => ?_
  rw [List.head?_append_of_ne_nil _ h.ne_nil] at hc
  refine Bool.eq_false_iff.mpr fun hblank => ?_
  have hnot := h.head c hc
  rw [isBlank_of_isJsonBlank hblank] at hnot
  cases hnot

end Solid

/-! ### Strings -/

theorem isPlain_of_hexValue? {c : Char} {n : Nat} (h : Text.hexValue? c = some n) :
    isPlain c = true := by
  simp only [Text.hexValue?] at h
  refine isPlain_of_le ?_
  split at h
  · rename_i hdigit
    simp only [Char.isDigit, Bool.and_eq_true, decide_eq_true_eq, UInt32.le_iff_toNat_le] at hdigit
    exact Nat.le_trans (by decide) hdigit.1
  · split at h
    · rename_i hlower
      simp only [Bool.and_eq_true, decide_eq_true_eq] at hlower
      omega
    · split at h
      · rename_i hupper
        simp only [Bool.and_eq_true, decide_eq_true_eq] at hupper
        omega
      · cases h

/-- The digits of an escape by number are no control characters. -/
theorem isPlain_of_hexValue4? {a b c d : Char} {n : Nat} (h : hexValue4? a b c d = some n) :
    ∀ x ∈ [a, b, c, d], isPlain x = true := by
  simp only [hexValue4?, Option.bind_eq_bind, Option.bind_eq_some_iff] at h
  obtain ⟨_, ha, _, hb, _, hc, _, hd, -⟩ := h
  simp [isPlain_of_hexValue? ha, isPlain_of_hexValue? hb, isPlain_of_hexValue? hc,
    isPlain_of_hexValue? hd]

theorem isPlain_of_simpleEscape? {c e : Char} (h : simpleEscape? c = some e) :
    isPlain c = true := by
  unfold simpleEscape? at h
  split at h
  all_goals first
    | rfl
    | cases h

/-- **The inside of a string ends at its closing quotation mark**, whatever comes after that. -/
theorem readUnits_extends {opening : Nat} {s rest : List Char} {t : CodePoints} :
    readUnits opening s = .ok (t, rest) → ∃ body, s = body ++ '"' :: rest ∧
      (∀ c ∈ body, isPlain c = true) ∧
      ∀ opening' rest', readUnits opening' (body ++ '"' :: rest') = .ok (t, rest') := by
  fun_induction readUnits opening s generalizing t rest with
  | case2 rest₀ =>
    intro h
    cases h
    exact ⟨[], rfl, List.forall_mem_nil _, fun _ _ => readUnits.eq_2 _ _⟩
  | case4 a b c d head tail n hn ih =>
    intro h
    obtain ⟨⟨t', rest₀⟩, h', heq⟩ := bind_eq_ok.mp h
    cases heq
    obtain ⟨body, hbody, hplain, hread⟩ := ih h'
    refine ⟨'\\' :: 'u' :: a :: b :: c :: d :: body, by simp [hbody], ?_, fun opening' rest' => ?_⟩
    · have hdigits := isPlain_of_hexValue4? hn
      simp only [List.mem_cons, List.not_mem_nil, or_false, forall_eq_or_imp,
        forall_eq] at hdigits ⊢
      exact ⟨rfl, rfl, hdigits.1, hdigits.2.1, hdigits.2.2.1, hdigits.2.2.2, hplain⟩
    · obtain ⟨x, xs, hx⟩ := List.exists_cons_of_ne_nil (l := body ++ '"' :: rest') (by simp)
      have hread' := hread opening' rest'
      simp only [List.cons_append, hx] at hread' ⊢
      rw [readUnits.eq_4 _ _ _ _ _ _ _ _ hn, hread']
      rfl
  | case7 c rest₀ hnot hu e he ih =>
    intro h
    obtain ⟨⟨t', rest₁⟩, h', heq⟩ := bind_eq_ok.mp h
    cases heq
    obtain ⟨body, rfl, hplain, hread⟩ := ih h'
    have hc : c ≠ 'u' := by simpa using hu
    refine ⟨'\\' :: c :: body, rfl, ?_, fun opening' rest' => ?_⟩
    · simp only [List.mem_cons, forall_eq_or_imp]
      exact ⟨rfl, isPlain_of_simpleEscape? he, hplain⟩
    · rw [List.cons_append, List.cons_append, readUnits.eq_6 _ _ _ fun _ _ _ _ _ h _ => hc h,
        if_neg hu, he]
      simp only [hread]
      rfl
  | case10 c rest₀ hquote h₁ h₂ h₃ hctrl ih =>
    intro h
    obtain ⟨⟨t', rest₁⟩, h', heq⟩ := bind_eq_ok.mp h
    cases heq
    obtain ⟨body, rfl, hplain, hread⟩ := ih h'
    -- A backslash would be followed by nothing or by something.
    have hescape : c ≠ '\\' := by
      intro hc
      cases hrest : body ++ '"' :: rest with
      | nil => exact h₁ hc hrest
      | cons x xs => exact h₃ x xs hc hrest
    refine ⟨c :: body, rfl, ?_, fun opening' rest' => ?_⟩
    · have hle : 32 ≤ c.val.toNat := by simpa [UInt32.lt_iff_toNat_lt] using hctrl
      simp only [List.mem_cons, forall_eq_or_imp]
      exact ⟨isPlain_of_le hle, hplain⟩
    · rw [List.cons_append, readUnits.eq_7 _ _ _ hquote (fun h _ => hescape h)
        (fun _ _ _ _ _ h _ => hescape h) (fun _ _ h _ => hescape h), if_neg hctrl, hread]
      rfl
  | case1 | case3 | case5 | case6 | case8 | case9 =>
    intro h
    cases h

theorem readString_extends {s rest : List Char} {t : CodePoints}
    (h : readString s = .ok (t, rest)) : ∃ core, s = core ++ rest ∧ Solid ('"' :: core) ∧
      ∀ rest', readString (core ++ rest') = .ok (t, rest') := by
  obtain ⟨⟨t', rest₀⟩, h', heq⟩ := bind_eq_ok.mp h
  cases heq
  obtain ⟨body, rfl, hplain, hread⟩ := readUnits_extends h'
  have hquote : Solid ['"'] := .singleton (.inl rfl)
  refine ⟨body ++ ['"'], by simp, hquote.append hquote hplain, fun rest' => ?_⟩
  rw [readString, List.append_assoc, List.singleton_append, hread]
  rfl

/-! ### Numbers -/

/-- The characters that numbers are made of. -/
def isNumeric (c : Char) : Bool :=
  c.isDigit || c == '.' || c == 'e' || c == 'E' || c == '+' || c == '-'

section Numbers

variable {s x ds : List Char}

theorem isNumeric_of_isDigit {c : Char} (h : c.isDigit = true) : isNumeric c = true := by
  simp [isNumeric, h]

theorem not_blank_of_isNumeric {c : Char} (h : isNumeric c = true) :
    Text.isBlank c = false ∧ isPlain c = true := by
  simp only [isNumeric, Bool.or_eq_true, beq_iff_eq] at h
  obtain ((((hdigit | rfl) | rfl) | rfl) | rfl) | rfl := h
  · simp only [Char.isDigit, Bool.and_eq_true, decide_eq_true_eq, UInt32.le_iff_toNat_le] at hdigit
    have hlow : 48 ≤ c.val.toNat := hdigit.1
    have hhigh : c.val.toNat ≤ 57 := hdigit.2
    refine ⟨?_, isPlain_of_le (by omega)⟩
    simp only [Text.isBlank, Bool.or_eq_false_iff, Bool.and_eq_false_iff, decide_eq_false_iff_not,
      beq_eq_false_iff_ne]
    omega
  all_goals decide

theorem splitDigits_fst (s : List Char) : ∀ c ∈ (splitDigits s).1, c.isDigit = true :=
  fun c hc => List.all_eq_true.mp List.all_takeWhile c hc

theorem splitWhole_fst (s : List Char) : ∀ c ∈ (splitWhole s).1, c.isDigit = true := by
  by_cases h : s.head? = some '0'
  · cases s with
    | nil => cases h
    | cons d s =>
      cases h
      simp [splitWhole]
  · rw [splitWhole_of_ne_zero h]
    exact splitDigits_fst s

/-- The whole part of a number ends where no digit follows. -/
theorem splitWhole_extends (s : List Char) (hx : ∀ c ∈ x.head?, c.isDigit = false) :
    splitWhole ((splitWhole s).1 ++ x) = ((splitWhole s).1, x) := by
  by_cases h : s.head? = some '0'
  · cases s with
    | nil => cases h
    | cons d s =>
      cases h
      rfl
  · have hzero : ((splitDigits s).1 ++ x).head? ≠ some '0' := by
      rw [List.head?_append]
      cases hds : (splitDigits s).1 with
      | nil =>
        intro hhead
        cases hx '0' hhead
      | cons d ds =>
        have hhead : s.head? = some d := by
          rw [← splitDigits_append s, hds]
          rfl
        rwa [hhead] at h
    rw [splitWhole_of_ne_zero h, splitWhole_of_ne_zero hzero]
    exact splitDigits_of_append (splitDigits_fst s) hx

theorem splitFraction_of_ne_point (hx : ∀ c ∈ x.head?, c ≠ '.') : splitFraction x = ([], x) := by
  unfold splitFraction
  split
  · exact absurd rfl (hx _ rfl)
  · rfl

theorem splitFraction_point (hds : ∀ c ∈ ds, c.isDigit = true) (hne : ds ≠ [])
    (hx : ∀ c ∈ x.head?, c.isDigit = false) : splitFraction ('.' :: (ds ++ x)) = (ds, x) := by
  cases ds with
  | nil => exact absurd rfl hne
  | cons d ds => simp only [splitFraction, splitDigits_of_append hds hx]

/-- The fraction of a number ends where neither a digit nor a point follows. -/
theorem splitFraction_extends (s : List Char) : ∃ core, s = core ++ (splitFraction s).2 ∧
    (∀ c ∈ core, isNumeric c = true) ∧ (∀ c ∈ core.head?, c.isDigit = false) ∧
    ∀ x, (∀ c ∈ x.head?, c.isDigit = false ∧ c ≠ '.') →
      splitFraction (core ++ x) = ((splitFraction s).1, x) := by
  have hnone : splitFraction s = ([], s) → ∃ core, s = core ++ (splitFraction s).2 ∧
      (∀ c ∈ core, isNumeric c = true) ∧ (∀ c ∈ core.head?, c.isDigit = false) ∧
      ∀ x, (∀ c ∈ x.head?, c.isDigit = false ∧ c ≠ '.') →
        splitFraction (core ++ x) = ((splitFraction s).1, x) := by
    intro h
    rw [h]
    exact ⟨[], rfl, nofun, nofun, fun x hx => splitFraction_of_ne_point fun c hc => (hx c hc).2⟩
  by_cases hpoint : ∃ rest, s = '.' :: rest ∧ (splitDigits rest).1 ≠ []
  · obtain ⟨rest, rfl, hne⟩ := hpoint
    have hrest := splitDigits_append rest
    have hfound : splitFraction ('.' :: rest) = ((splitDigits rest).1, (splitDigits rest).2) := by
      have := splitFraction_point (splitDigits_fst rest) hne (splitDigits_head rest)
      rwa [hrest] at this
    rw [hfound]
    refine ⟨'.' :: (splitDigits rest).1, by simp [hrest], ?_, by rintro _ ⟨⟩; rfl, fun x hx => ?_⟩
    · refine List.forall_mem_cons.mpr ⟨rfl, fun c hc => ?_⟩
      exact isNumeric_of_isDigit (splitDigits_fst rest c hc)
    · exact splitFraction_point (splitDigits_fst rest) hne fun c hc => (hx c hc).1
  · refine hnone ?_
    unfold splitFraction
    split
    · rename_i rest
      split
      · rfl
      · rename_i hnot
        refine absurd ⟨rest, rfl, fun hnil => ?_⟩ hpoint
        exact hnot (splitDigits rest).2 (Prod.ext hnil rfl)
    · rfl

/-- The sign of an exponent, negative or not, and what follows it. -/
def splitSign : List Char → Bool × List Char
  | '-' :: rest => (true, rest)
  | '+' :: rest => (false, rest)
  | s => (false, s)

/-- The sign in front of digits. -/
theorem splitSign_extends (s : List Char) : ∃ sign, s = sign ++ (splitSign s).2 ∧
    (∀ c ∈ sign, isNumeric c = true) ∧
    ∀ x, (∃ c ∈ x.head?, c.isDigit = true) → splitSign (sign ++ x) = ((splitSign s).1, x) := by
  unfold splitSign
  split
  · exact ⟨['-'], rfl, by simp [isNumeric], fun _ _ => rfl⟩
  · exact ⟨['+'], rfl, by simp [isNumeric], fun _ _ => rfl⟩
  · refine ⟨[], rfl, nofun, ?_⟩
    rintro x ⟨d, hd, hdigit⟩
    rw [List.nil_append]
    split
    · cases hd
      cases hdigit
    · cases hd
      cases hdigit
    · rfl

theorem splitExponent_letter {e : Char} (he : (e == 'e' || e == 'E') = true) (rest : List Char) :
    splitExponent (e :: rest) =
      match splitDigits (splitSign rest).2 with
      | ([], _) => (none, e :: rest)
      | (ds, r) =>
        (some (if (splitSign rest).1 then -(Text.decimalValue ds : Int)
          else Text.decimalValue ds), r) := by
  simp only [splitExponent, he, if_true]
  rfl

theorem splitExponent_of_ne_letter (hx : ∀ c ∈ x.head?, c ≠ 'e' ∧ c ≠ 'E') :
    splitExponent x = (none, x) := by
  cases x with
  | nil => rfl
  | cons c x =>
    have hc := hx c rfl
    have he : ¬ (c == 'e' || c == 'E') = true := by simp [hc]
    simp only [splitExponent, if_neg he]

/-- The exponent of a number ends where neither a digit nor its letter follows. -/
theorem splitExponent_extends (s : List Char) : ∃ core, s = core ++ (splitExponent s).2 ∧
    (∀ c ∈ core, isNumeric c = true) ∧ (∀ c ∈ core.head?, c.isDigit = false ∧ c ≠ '.') ∧
    ∀ x, (∀ c ∈ x.head?, c.isDigit = false ∧ c ≠ 'e' ∧ c ≠ 'E') →
      splitExponent (core ++ x) = ((splitExponent s).1, x) := by
  have hnone : splitExponent s = (none, s) → ∃ core, s = core ++ (splitExponent s).2 ∧
      (∀ c ∈ core, isNumeric c = true) ∧ (∀ c ∈ core.head?, c.isDigit = false ∧ c ≠ '.') ∧
      ∀ x, (∀ c ∈ x.head?, c.isDigit = false ∧ c ≠ 'e' ∧ c ≠ 'E') →
        splitExponent (core ++ x) = ((splitExponent s).1, x) := by
    intro h
    rw [h]
    exact ⟨[], rfl, nofun, nofun, fun x hx => splitExponent_of_ne_letter fun c hc => (hx c hc).2⟩
  cases s with
  | nil => exact hnone rfl
  | cons e rest =>
    by_cases he : (e == 'e' || e == 'E') = true
    · obtain ⟨sign, hsign, hnumeric, hread⟩ := splitSign_extends rest
      have hletter := splitExponent_letter he rest
      cases hds : splitDigits (splitSign rest).2 with
      | mk ds r =>
        rw [hds] at hletter
        cases ds with
        | nil => exact hnone hletter
        | cons d ds =>
          have hdigits := splitDigits_fst (splitSign rest).2
          have happend := splitDigits_append (splitSign rest).2
          rw [hds] at hdigits happend
          simp only at hdigits happend
          have hchars : isNumeric e = true ∧ e.isDigit = false ∧ e ≠ '.' := by
            simp only [Bool.or_eq_true, beq_iff_eq] at he
            obtain rfl | rfl := he <;> decide
          rw [hletter]
          refine ⟨e :: (sign ++ (d :: ds)), ?_, ?_, ?_, fun x hx => ?_⟩
          · rw [List.cons_append, List.append_assoc, happend, ← hsign]
          · refine List.forall_mem_cons.mpr ⟨hchars.1, fun c hc => ?_⟩
            rcases List.mem_append.mp hc with hc | hc
            · exact hnumeric c hc
            · exact isNumeric_of_isDigit (hdigits c hc)
          · rintro _ ⟨⟩
            exact hchars.2
          · have hsplit := splitDigits_of_append hdigits fun c hc => (hx c hc).1
            have hhead := hread (d :: ds ++ x) ⟨d, rfl, hdigits d List.mem_cons_self⟩
            rw [List.cons_append, List.append_assoc, splitExponent_letter he, hhead]
            simp only [hsplit]
    · refine hnone ?_
      simp only [splitExponent, if_neg he]

/-- A number without its sign depends on its three parts and on nothing that comes after them. -/
theorem readMagnitude_parts {negative : Bool} {remaining : Nat} {body rest : List Char} {v : Value}
    (h : readMagnitude negative remaining body = .ok (v, rest)) :
    ∃ d whole r₁ fraction r₂ exponent, splitWhole body = (d :: whole, r₁) ∧
      splitFraction r₁ = (fraction, r₂) ∧ splitExponent r₂ = (exponent, rest) ∧
      ∀ remaining' body' x₁ x₂ rest', splitWhole body' = (d :: whole, x₁) →
        splitFraction x₁ = (fraction, x₂) → splitExponent x₂ = (exponent, rest') →
        readMagnitude negative remaining' body' = .ok (v, rest') := by
  unfold readMagnitude at h
  cases hwhole : splitWhole body with
  | mk whole r₁ =>
    rw [hwhole] at h
    cases whole with
    | nil => cases h
    | cons d whole =>
      cases hfraction : splitFraction r₁ with
      | mk fraction r₂ =>
        cases hexponent : splitExponent r₂ with
        | mk exponent r₃ =>
          simp only [hfraction, hexponent] at h
          refine ⟨d, whole, r₁, fraction, r₂, exponent, rfl, hfraction, ?_, ?_⟩
          · cases fraction <;> cases exponent <;> simp only at h
            · split at h <;> cases h
              exact hexponent
            all_goals
              cases h
              exact hexponent
          · intro remaining' body' x₁ x₂ rest' hwhole' hfraction' hexponent'
            rw [readMagnitude, hwhole']
            simp only [hfraction', hexponent']
            -- Without fraction and exponent it is an integer, which has a bound on its digits.
            cases fraction <;> cases exponent <;> simp only at h ⊢
            · split at h <;> cases h
              rename_i hlong
              rw [if_neg hlong]
            all_goals
              cases h
              rfl

/-- What holds of the first character of two parts holds of that of both. -/
theorem forall_head_append {p : Char → Prop} {a b : List Char} (ha : ∀ c ∈ a.head?, p c)
    (hb : ∀ c ∈ b.head?, p c) : ∀ c ∈ (a ++ b).head?, p c := by
  cases a with
  | nil => exact hb
  | cons c a => exact ha

/-- **How far a number without its sign reads can be told from what it reads.** -/
theorem readMagnitude_extends {negative : Bool} {remaining : Nat} {body rest : List Char}
    {v : Value} (h : readMagnitude negative remaining body = .ok (v, rest)) :
    ∃ d core, body = d :: core ++ rest ∧ d.isDigit = true ∧ (∀ c ∈ core, isNumeric c = true) ∧
      ∀ remaining' rest', Stops rest' →
        readMagnitude negative remaining' (d :: core ++ rest') = .ok (v, rest') := by
  obtain ⟨d, whole, r₁, fraction, r₂, exponent, hwhole, hfraction, hexponent, hread⟩ :=
    readMagnitude_parts h
  have hbody := splitWhole_append body
  have hdigits := splitWhole_fst body
  have hwread := fun (x : List Char) (hx : ∀ c ∈ x.head?, c.isDigit = false) =>
    splitWhole_extends body hx
  obtain ⟨fcore, hfcore, hfnumeric, hfhead, hfread⟩ := splitFraction_extends r₁
  obtain ⟨ecore, hecore, henumeric, hehead, heread⟩ := splitExponent_extends r₂
  rw [hwhole] at hbody hdigits hwread
  rw [hfraction] at hfcore hfread
  rw [hexponent] at hecore heread
  simp only at hbody hdigits hwread hfcore hfread hecore heread
  obtain ⟨hd, hdigits⟩ := List.forall_mem_cons.mp hdigits
  refine ⟨d, whole ++ (fcore ++ ecore), ?_, hd, ?_, fun remaining' rest' hrest' => ?_⟩
  · rw [← hbody, hfcore, hecore]
    simp
  · intro c hc
    rcases List.mem_append.mp hc with hc | hc
    · exact isNumeric_of_isDigit (hdigits c hc)
    · exact (List.mem_append.mp hc).elim (hfnumeric c) (henumeric c)
  · -- What follows each part is the next part, or what follows the number.
    have hend := hrest'.not_numeric
    have hafter : ∀ c ∈ (ecore ++ rest').head?, c.isDigit = false ∧ c ≠ '.' :=
      forall_head_append hehead fun c hc => ⟨(hend c hc).1, (hend c hc).2.1⟩
    have hafter' : ∀ c ∈ (fcore ++ (ecore ++ rest')).head?, c.isDigit = false :=
      forall_head_append hfhead fun c hc => (hafter c hc).1
    have hsplit : d :: (whole ++ (fcore ++ ecore)) ++ rest' =
        d :: whole ++ (fcore ++ (ecore ++ rest')) := by simp
    rw [hsplit]
    exact hread _ _ _ _ _ (hwread _ hafter') (hfread _ hafter)
      (heread rest' fun c hc => ⟨(hend c hc).1, (hend c hc).2.2⟩)

/-- How far a number reads can be told from what it reads, which is read as a number there too. -/
theorem readNumber_extends {rest : List Char} {v : Value} (h : readNumber s = .ok (v, rest)) :
    ∃ core, s = core ++ rest ∧ Solid core ∧
      ∀ rest', Stops rest' → readScalar readString (core ++ rest') = .ok (v, rest') := by
  by_cases hs : ∃ body, s = '-' :: body
  · obtain ⟨body, rfl⟩ := hs
    rw [readNumber_minus] at h
    obtain ⟨d, core, rfl, hd, hnumeric, hread⟩ := readMagnitude_extends h
    refine ⟨'-' :: d :: core, rfl, .of_forall (by simp) ?_, fun rest' hrest' => ?_⟩
    · refine List.forall_mem_cons.mpr ⟨by decide, List.forall_mem_cons.mpr ⟨?_, fun c hc => ?_⟩⟩
      · exact not_blank_of_isNumeric (isNumeric_of_isDigit hd)
      · exact not_blank_of_isNumeric (hnumeric c hc)
    · exact (readScalar_of_minus hd (core ++ rest')).trans (hread _ rest' hrest')
  · rw [readNumber_of_ne_minus fun body heq => hs ⟨body, heq⟩] at h
    obtain ⟨d, core, rfl, hd, hnumeric, hread⟩ := readMagnitude_extends h
    refine ⟨d :: core, rfl, .of_forall (by simp) ?_, fun rest' hrest' => ?_⟩
    · refine List.forall_mem_cons.mpr ⟨?_, fun c hc => not_blank_of_isNumeric (hnumeric c hc)⟩
      exact not_blank_of_isNumeric (isNumeric_of_isDigit hd)
    · rw [List.cons_append, readScalar_of_isDigit hd, readNumber_of_ne_minus]
      · exact hread _ rest' hrest'
      · rintro rest'' ⟨⟩
        cases hd

end Numbers

end LintBridge.Json
