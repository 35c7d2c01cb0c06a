import LintBridge.Json.Writer
import LintBridge.Proofs.Json.Extent
import LintBridge.Proofs.Json.Lookup
import LintBridge.Proofs.Text.Numeral

/-!
# What is written is read back

**A value that is written is read back as it was**, in whichever layout
(`LintBridge.Json.read_compact`, `LintBridge.Json.read_indented`). For that its integers must have
no more digits than the reader takes, the keys of an object must be strings and differ, and it must
not be nested too deeply (`LintBridge.Json.Legible`). Numbers with a fraction are left out. One
thing does not survive: two surrogates that make a pair are written as the character that they make
is, and read as that character (`LintBridge.Json.Value.joined`).

The layout is of no importance because it adds nothing but blanks and commas
(`LintBridge.Json.Layout.IsBlank`). Every value is read in front of whatever may follow one, so that
the items of an array and the entries of an object are read one after the other.
-/

namespace LintBridge.Json

open Text (hexValue? decimalValue maxDigits)

/-! ### Strings -/

section Strings

variable {opening : Nat} {c : Char} {t : CodePoints} {s rest : List Char}

/-- Four hexadecimal digits are those of the four places. -/
theorem hex4_eq {n : Nat} (h : n < 0x10000) :
    hex4 n = [(n / 4096).digitChar, (n / 256 % 16).digitChar, (n / 16 % 16).digitChar,
      (n % 16).digitChar] := by
  unfold hex4
  -- The digits that the number does not take are zeros.
  rcases Nat.lt_or_ge n 16 with h₁ | h₁
  · rw [Nat.toDigits_of_lt_base h₁, Nat.div_eq_of_lt (by omega), Nat.div_eq_of_lt (by omega),
      Nat.div_eq_of_lt h₁, Nat.mod_eq_of_lt h₁]
    rfl
  · rw [Nat.toDigits_of_base_le (by decide) h₁]
    rcases Nat.lt_or_ge n 256 with h₂ | h₂
    · rw [Nat.toDigits_of_lt_base (by omega), Nat.div_eq_of_lt (show n < 4096 by omega),
        Nat.div_eq_of_lt h₂, Nat.mod_eq_of_lt (show n / 16 < 16 by omega)]
      rfl
    · rw [Nat.toDigits_of_base_le (by decide) (show 16 ≤ n / 16 by omega), Nat.div_div_eq_div_mul]
      rcases Nat.lt_or_ge n 4096 with h₃ | h₃
      · rw [Nat.toDigits_of_lt_base (by omega), Nat.div_eq_of_lt h₃,
          Nat.mod_eq_of_lt (show n / 256 < 16 by omega)]
        rfl
      · rw [Nat.toDigits_of_base_le (by decide) (show 16 ≤ n / (16 * 16) by omega),
          Nat.div_div_eq_div_mul, Nat.toDigits_of_lt_base (by omega)]
        rfl

theorem exists_hex4 {n : Nat} (h : n < 0x10000) :
    ∃ a b c d, hex4 n = [a, b, c, d] ∧ hexValue4? a b c d = some n := by
  have hdigit : ∀ m < 16, hexValue? (Nat.digitChar m) = some m := by decide
  refine ⟨_, _, _, _, hex4_eq h, ?_⟩
  unfold hexValue4?
  rw [hdigit _ (by omega), hdigit _ (by omega), hdigit _ (by omega), hdigit _ (by omega)]
  refine congrArg some ?_
  omega

/-- The code points that a code point is written as. -/
def units : CodePoint → CodePoints
  | .scalar c =>
    if c.val.toNat < 0x10000 then [.scalar c]
    else [codePoint (0xD800 + (c.val.toNat - 0x10000) / 1024),
      codePoint (0xDC00 + (c.val.toNat - 0x10000) % 1024)]
  | .surrogate n => [.surrogate n]

theorem readUnits_numericEscape {n : Nat} (hn : n < 0x10000)
    (h : readUnits opening s = .ok (t, rest)) (hne : s ≠ []) :
    readUnits opening (numericEscape n ++ s) = .ok (codePoint n :: t, rest) := by
  obtain ⟨a, b, c, d, hdigits, hvalue⟩ := exists_hex4 hn
  obtain ⟨x, xs, rfl⟩ := List.exists_cons_of_ne_nil hne
  rw [numericEscape, hdigits]
  simp only [List.cons_append, List.nil_append]
  rw [readUnits.eq_4 _ _ _ _ _ _ _ _ hvalue, h]
  rfl

theorem readUnits_simpleEscape {e : Char} (he : simpleEscape? c = some e)
    (h : readUnits opening s = .ok (t, rest)) :
    readUnits opening ('\\' :: c :: s) = .ok (.scalar e :: t, rest) := by
  have hc : c ≠ 'u' := by
    rintro rfl
    cases he
  rw [readUnits.eq_6 _ _ _ fun _ _ _ _ _ h _ => hc h, if_neg (by simpa using hc), he]
  simp only [h]
  rfl

theorem readUnits_plain (hquote : c ≠ '"') (hescape : c ≠ '\\') (hctrl : ¬ c.val < 32)
    (h : readUnits opening s = .ok (t, rest)) :
    readUnits opening (c :: s) = .ok (.scalar c :: t, rest) := by
  rw [readUnits.eq_7 _ _ _ hquote (fun h _ => hescape h) (fun _ _ _ _ _ h _ => hescape h)
    (fun _ _ h _ => hescape h), if_neg hctrl, h]
  rfl

/-- A number that a character has is no surrogate. -/
theorem codePoint_of_char (c : Char) : codePoint c.val.toNat = .scalar c := by
  have hvalid : c.val.toNat < 0xD800 ∨ 0xDFFF < c.val.toNat ∧ c.val.toNat < 0x110000 := c.valid
  unfold codePoint
  rw [if_neg (by simp only [Bool.and_eq_true, decide_eq_true_eq]; omega)]
  exact congrArg CodePoint.scalar (Char.ofNat_toNat c)

theorem codePoint_surrogate {n : Nat} (hlow : 0xD800 ≤ n) (hhigh : n < 0xE000) :
    codePoint n = .surrogate (Fin.ofNat 2048 (n - 0xD800)) := by
  unfold codePoint
  rw [decide_eq_true hlow, decide_eq_true hhigh]
  rfl

theorem readUnits_pair {high low : Nat} (hhigh : high < 1024) (hlow : low < 1024)
    (h : readUnits opening s = .ok (t, rest)) (hne : s ≠ []) :
    readUnits opening (numericEscape (0xD800 + high) ++ numericEscape (0xDC00 + low) ++ s) =
      .ok (codePoint (0xD800 + high) :: codePoint (0xDC00 + low) :: t, rest) := by
  rw [List.append_assoc]
  refine readUnits_numericEscape (by omega) (readUnits_numericEscape (by omega) h hne) ?_
  simp [numericEscape]

theorem units_append_of_lt (h : c.val.toNat < 0x10000) (t : CodePoints) :
    units (.scalar c) ++ t = .scalar c :: t :=
  congrArg (· ++ t) (if_pos h)

/-- A character is read back from what it is written as. -/
theorem readUnits_escape_scalar (h : readUnits opening s = .ok (t, rest)) (hne : s ≠ []) :
    readUnits opening (escape (.scalar c) ++ s) = .ok (units (.scalar c) ++ t, rest) := by
  let P := fun written : List Char =>
    readUnits opening (written ++ s) = .ok (units (.scalar c) ++ t, rest)
  have hsimple : ∀ {letter e : Char}, simpleEscape? letter = some e → e.val.toNat < 0x10000 →
      c = e → P ['\\', letter] := by
    rintro letter e he hlt rfl
    have hread := readUnits_simpleEscape he h
    rwa [← units_append_of_lt hlt] at hread
  have hnumeric : c.val.toNat < 0x10000 → P (numericEscape c.val.toNat) := by
    intro hlt
    have hread := readUnits_numericEscape hlt h hne
    rwa [codePoint_of_char, ← units_append_of_lt hlt] at hread
  have hcontrol : ∀ {n : Nat}, (c.val.toNat == n) = true → c = Char.ofNat n := by
    intro n hn
    rw [← beq_iff_eq.mp hn]
    exact (Char.ofNat_toNat c).symm
  unfold escape
  dsimp only
  -- One step for each of the conditions, in order.
  refine iteInduction (motive := P) (fun hquote => hsimple rfl (by decide) (beq_iff_eq.mp hquote))
    fun hquote => ?_
  refine iteInduction (motive := P) (fun hescape => hsimple rfl (by decide) (beq_iff_eq.mp hescape))
    fun hescape => ?_
  refine iteInduction (motive := P) (fun hfeed => hsimple rfl (by decide) (beq_iff_eq.mp hfeed))
    fun _ => ?_
  refine iteInduction (motive := P) (fun hreturn => hsimple rfl (by decide) (beq_iff_eq.mp hreturn))
    fun _ => ?_
  refine iteInduction (motive := P) (fun htab => hsimple rfl (by decide) (beq_iff_eq.mp htab))
    fun _ => ?_
  refine iteInduction (motive := P) (fun hback => hsimple rfl (by decide) (hcontrol hback))
    fun _ => ?_
  refine iteInduction (motive := P) (fun hform => hsimple rfl (by decide) (hcontrol hform))
    fun _ => ?_
  refine iteInduction (motive := P) (fun hlow => hnumeric (by omega)) fun hlow => ?_
  refine iteInduction (motive := P) (fun hascii => ?_) fun _ => ?_
  · have hprintable : ¬ c.val < 32 := by
      rw [UInt32.lt_iff_toNat_lt]
      exact hlow
    have hread := readUnits_plain (by simpa using hquote) (by simpa using hescape) hprintable h
    rwa [← units_append_of_lt (by omega)] at hread
  refine iteInduction (motive := P) hnumeric fun hbasic => ?_
  -- What is left is written as two surrogates.
  have hvalid : c.val.toNat < 0xD800 ∨ 0xDFFF < c.val.toNat ∧ c.val.toNat < 0x110000 := c.valid
  have hread := @readUnits_pair opening t s rest ((c.val.toNat - 0x10000) / 1024)
    ((c.val.toNat - 0x10000) % 1024) (by omega) (by omega) h hne
  have hunits : units (.scalar c) = _ := if_neg hbasic
  simp only [P, hunits]
  exact hread

/-- **A code point is read back from what it is written as.** -/
theorem readUnits_escape (p : CodePoint) (h : readUnits opening s = .ok (t, rest)) (hne : s ≠ []) :
    readUnits opening (escape p ++ s) = .ok (units p ++ t, rest) := by
  cases p with
  | scalar c => exact readUnits_escape_scalar h hne
  | surrogate n =>
    have hread := readUnits_numericEscape (n := 0xD800 + n.val) (by omega) h hne
    have hsame : Fin.ofNat 2048 n.val = n := Fin.ext (Nat.mod_eq_of_lt n.isLt)
    rwa [codePoint_surrogate (by omega) (by omega), Nat.add_sub_cancel_left, hsame] at hread

theorem joinSurrogates_scalar (c : Char) (t : CodePoints) :
    joinSurrogates (.scalar c :: t) = .scalar c :: joinSurrogates t := by
  rw [joinSurrogates]
  nofun

theorem joinSurrogates_pair {high low : Nat} (hhigh : high < 1024) (hlow : low < 1024)
    (t : CodePoints) :
    joinSurrogates (codePoint (0xD800 + high) :: codePoint (0xDC00 + low) :: t) =
      .scalar (Char.ofNat (0x10000 + high * 1024 + low)) :: joinSurrogates t := by
  rw [codePoint_surrogate (by omega) (by omega), codePoint_surrogate (by omega) (by omega),
    joinSurrogates]
  have hfirst : (Fin.ofNat 2048 (0xD800 + high - 0xD800)).val = high := by
    rw [Nat.add_sub_cancel_left]
    exact Nat.mod_eq_of_lt (by omega)
  have hsecond : (Fin.ofNat 2048 (0xDC00 + low - 0xD800)).val = 1024 + low := by
    rw [Fin.val_ofNat]
    omega
  rw [hfirst, hsecond, if_pos (by simp only [Bool.and_eq_true, decide_eq_true_eq]; omega),
    Nat.add_sub_cancel_left]

/-- The surrogates that a character is written as are those of a pair. -/
theorem joinSurrogates_units (c : Char) (t : CodePoints) :
    joinSurrogates (units (.scalar c) ++ t) = .scalar c :: joinSurrogates t := by
  unfold units
  dsimp only
  split
  · exact joinSurrogates_scalar c t
  · rename_i hbasic
    have hvalid : c.val.toNat < 0xD800 ∨ 0xDFFF < c.val.toNat ∧ c.val.toNat < 0x110000 := c.valid
    have hvalue : 0x10000 + (c.val.toNat - 0x10000) / 1024 * 1024 +
        (c.val.toNat - 0x10000) % 1024 = c.val.toNat := by omega
    rw [List.cons_append, List.cons_append, List.nil_append,
      joinSurrogates_pair (by omega) (by omega), hvalue]
    exact congrArg (CodePoint.scalar · :: joinSurrogates t) (Char.ofNat_toNat c)

/-- A surrogate before anything but a low one stays. -/
theorem joinSurrogates_lone {high : Fin 2048}
    (h : ∀ low rest, t = .surrogate low :: rest → low.val < 1024) :
    joinSurrogates (.surrogate high :: t) = .surrogate high :: joinSurrogates t := by
  rcases t with _ | ⟨c | low, rest⟩
  · rfl
  · exact joinSurrogates.eq_3 _ _ nofun
  · have hlow := h low rest rfl
    rw [joinSurrogates, if_neg]
    simp only [Bool.and_eq_true, decide_eq_true_eq]
    omega

/-- The first code point that a character is written as is no low surrogate. -/
theorem lt_of_units_eq {low : Fin 2048} {more : CodePoints}
    (h : units (.scalar c) ++ t = .surrogate low :: more) : low.val < 1024 := by
  unfold units at h
  dsimp only at h
  split at h
  · cases h
  · have hvalid : c.val.toNat < 0xD800 ∨ 0xDFFF < c.val.toNat ∧ c.val.toNat < 0x110000 := c.valid
    rw [codePoint_surrogate (by omega) (by omega), List.cons_append] at h
    obtain ⟨hhigh, -⟩ := List.cons.inj h
    rw [← CodePoint.surrogate.inj hhigh, Fin.val_ofNat]
    omega

/-- **The pairs in what a text is written as** are those in the text, and those of characters. -/
theorem joinSurrogates_flatMap_units (t : CodePoints) :
    joinSurrogates (t.flatMap units) = joinSurrogates t := by
  induction t using joinSurrogates.induct with
  | case1 => rfl
  | case2 high low rest hpair ih =>
    rw [joinSurrogates, if_pos hpair, ← ih]
    exact (joinSurrogates.eq_2 _ _ _).trans (if_pos hpair)
  | case3 high low rest hpair ih =>
    rw [joinSurrogates, if_neg hpair, ← ih]
    exact (joinSurrogates.eq_2 _ _ _).trans (if_neg hpair)
  | case4 p rest hnext ih =>
    rw [List.flatMap_cons]
    cases p with
    | scalar c => rw [joinSurrogates_units, joinSurrogates_scalar, ih]
    | surrogate high =>
      -- What comes next is a character, unless the text is at its end.
      have hlone : ∀ low more, rest.flatMap units = .surrogate low :: more → low.val < 1024 := by
        intro low more hlow
        rcases rest with _ | ⟨c | low', rest⟩
        · cases hlow
        · exact lt_of_units_eq hlow
        · exact absurd rfl (hnext high low' rest rfl)
      rw [joinSurrogates_lone fun low more hlow => absurd hlow fun h => hnext high low more rfl h,
        ← ih]
      exact joinSurrogates_lone hlone

/-- **A text is read back from what it is written as**, with its pairs joined. -/
theorem readString_written (text : CodePoints) (rest : List Char) :
    readString (text.flatMap escape ++ '"' :: rest) = .ok (joinSurrogates text, rest) := by
  have hunits : ∀ (opening : Nat) (t : CodePoints),
      readUnits opening (t.flatMap escape ++ '"' :: rest) = .ok (t.flatMap units, rest) := by
    intro opening t
    induction t with
    | nil => exact readUnits.eq_2 _ _
    | cons p t ih =>
      rw [List.flatMap_cons, List.flatMap_cons, List.append_assoc]
      exact readUnits_escape p ih (by simp)
  unfold readString
  rw [hunits]
  exact congrArg (fun t => Except.ok (t, rest)) (joinSurrogates_flatMap_units text)

/-- There are no pairs in a string. -/
theorem joinSurrogates_ofString (s : String) :
    joinSurrogates (CodePoints.ofString s) = CodePoints.ofString s := by
  unfold CodePoints.ofString
  induction s.toList with
  | nil => rfl
  | cons c cs ih => rw [List.map_cons, joinSurrogates_scalar, ih]

end Strings

/-! ### Numbers -/

/-- An integer is read back from what it is written as. -/
theorem readNumber_written {n : Int} (h : n.natAbs < 10 ^ maxDigits) :
    readNumber (toString n).toList = .ok (.int n, []) := by
  have hshort : ¬ (Nat.toDigits 10 n.natAbs).length > maxDigits :=
    Nat.not_lt.mpr ((Nat.length_toDigits_le_iff (by decide) (by decide)).mpr h)
  have hdigits : ∀ c ∈ Nat.toDigits 10 n.natAbs, c.isDigit = true := fun c hc =>
    Nat.isDigit_of_mem_toDigits (by decide) (by decide) hc
  have hwhole : splitWhole (Nat.toDigits 10 n.natAbs) = (Nat.toDigits 10 n.natAbs, []) := by
    by_cases hzero : n.natAbs = 0
    · rw [hzero]
      rfl
    · have hnothing : ∀ c ∈ ([] : List Char).head?, c.isDigit = false := nofun
      have hsplit := splitDigits_of_append hdigits hnothing
      rw [splitWhole_of_ne_zero (Text.head?_toDigits_ne_zero hzero)]
      rwa [List.append_nil] at hsplit
  have hmagnitude : ∀ negative remaining,
      readMagnitude negative remaining (Nat.toDigits 10 n.natAbs) =
        .ok (.int (if negative then -n.natAbs else n.natAbs), []) := by
    intro negative remaining
    rw [readMagnitude_of_whole negative remaining (by rw [hwhole]; exact Nat.toDigits_ne_nil)
      (by rw [hwhole]; exact ⟨rfl, rfl⟩), hwhole, if_neg hshort, Text.decimalValue_toDigits]
    rfl
  rw [Text.toList_toString]
  split
  · rename_i hnegative
    rw [readNumber_minus, hmagnitude, if_pos rfl, Int.ofNat_natAbs_of_nonpos hnegative.le, neg_neg]
  · rename_i hnonnegative
    rw [readNumber_of_ne_minus, hmagnitude, if_neg Bool.false_ne_true,
      Int.natAbs_of_nonneg (Int.not_lt.mp hnonnegative)]
    intro rest heq
    have hminus := hdigits '-' (heq ▸ List.mem_cons_self)
    cases hminus

/-! ### Parts with commas between them -/

/-- A layout adds nothing but blanks, and a comma between two items. -/
structure Layout.IsBlank (layout : Layout) : Prop where
  /-- Before the first item are blanks. -/
  before : ∀ depth, ∀ c ∈ layout.before depth, isJsonBlank c = true
  /-- Between two items are a comma and blanks. -/
  between : ∀ depth, ∃ blanks, layout.between depth = ',' :: blanks ∧
    ∀ c ∈ blanks, isJsonBlank c = true
  /-- After the last item are blanks. -/
  after : ∀ depth, ∀ c ∈ layout.after depth, isJsonBlank c = true

theorem isBlank_oneLine : Layout.oneLine.IsBlank where
  before _ := List.forall_mem_nil _
  between _ := ⟨[' '], rfl, List.forall_mem_singleton.mpr rfl⟩
  after _ := List.forall_mem_nil _

theorem isBlank_lineStart (depth : Nat) : ∀ c ∈ lineStart depth, isJsonBlank c = true := by
  refine List.forall_mem_cons.mpr ⟨rfl, fun c hc => ?_⟩
  rw [List.eq_of_mem_replicate hc]
  rfl

theorem isBlank_lines : Layout.lines.IsBlank where
  before depth := isBlank_lineStart (depth + 1)
  between depth := ⟨_, rfl, isBlank_lineStart (depth + 1)⟩
  after depth := isBlank_lineStart depth

section Parts

variable {α : Type} {part : Step α} {text : List Char} {a : α}

/-- A part that is read where it stands alone is read in front of what may follow it. -/
theorem Extends.of_alone (hpart : Extends part) (h : part text = .ok (a, [])) :
    Solid text ∧ ∀ rest, Stops rest → part (text ++ rest) = .ok (a, rest) := by
  obtain ⟨core, hcore, hsolid, hread⟩ := hpart text a [] h
  rw [List.append_nil] at hcore
  subst hcore
  exact ⟨hsolid, hread⟩

/-- **Parts are read that are written one after the other**, with a comma between them. -/
theorem listed_written (hpart : Extends part) {close : Char} (hclose : close = ']' ∨ close = '\x7d')
    {blanks after : List Char} (hblanks : ∀ c ∈ blanks, isJsonBlank c = true)
    (hafter : ∀ c ∈ after, isJsonBlank c = true) {texts : List (List Char)} {as : List α}
    (h : List.Forall₂ (fun text a => part text = .ok (a, [])) texts as) (hne : as ≠ []) :
    Listed part close ((',' :: blanks).intercalate texts ++ (after ++ [close])) as [] := by
  have hend : skipBlanks (after ++ [close]) = [close] := by
    rw [skipBlanks_append hafter]
    rcases hclose with rfl | rfl
    all_goals exact skipBlanks_of_head (by rintro _ ⟨⟩; decide)
  induction h with
  | nil => exact absurd rfl hne
  | @cons text a texts as hread hrest ih =>
    obtain ⟨hsolid, hread⟩ := hpart.of_alone hread
    cases hrest with
    | nil =>
      rw [List.intercalate_singleton]
      exact .last (hread _ ((stops_cons (.inr hclose)).append hafter)) hend
    | @cons text' a' texts as hread' hrest =>
      obtain ⟨hsolid', -⟩ := hpart.of_alone hread'
      -- The parts that follow begin with the first of them, and that with no blank.
      obtain ⟨others, hothers⟩ : ∃ others, (',' :: blanks).intercalate (text' :: texts) ++
          (after ++ [close]) = text' ++ others := by
        have hsplit := Text.intercalate_append_cons (',' :: blanks) text' [] texts
        rw [List.append_nil] at hsplit
        exact ⟨_, by rw [hsplit, List.append_assoc]⟩
      have hlisted := ih (List.cons_ne_nil _ _)
      rw [hothers] at hlisted
      rw [List.intercalate_cons_cons, List.append_assoc, List.append_assoc, hothers,
        List.cons_append]
      refine .more (hread _ (stops_cons (.inl rfl)))
        (skipBlanks_of_head (by rintro _ ⟨⟩; decide)) ?_
      rwa [skipBlanks_append hblanks, hsolid'.skipBlanks_append]

/-- Parts are read that are written between brackets. -/
theorem enclosed_written {layout : Layout} (hlayout : layout.IsBlank) (hpart : Extends part)
    {close : Char} (hclose : close = ']' ∨ close = '\x7d')
    (hstart : ∀ s r, part (close :: s) ≠ .ok r) {make : List α → Value} (n : Nat)
    {texts : List (List Char)} {as : List α}
    (h : List.Forall₂ (fun text a => part text = .ok (a, [])) texts as) (hne : as ≠ []) :
    Enclosed part close make (layout.before n ++ ((layout.between n).intercalate texts ++
      (layout.after n ++ [close]))) [] (make as) := by
  obtain ⟨blanks, hbetween, hblanks⟩ := hlayout.between n
  have hlisted := listed_written hpart hclose hblanks (hlayout.after n) h hne
  rw [hbetween]
  cases h with
  | nil => exact absurd rfl hne
  | @cons text a texts as hread hrest =>
    obtain ⟨hsolid, -⟩ := hpart.of_alone hread
    have hsplit := Text.intercalate_append_cons (',' :: blanks) text [] texts
    rw [List.append_nil] at hsplit
    rw [hsplit, List.append_assoc] at hlisted ⊢
    have hskip : ∀ s, skipBlanks (layout.before n ++ (text ++ s)) = text ++ s := fun s => by
      rw [skipBlanks_append (hlayout.before n), hsolid.skipBlanks_append]
    refine .parts (fun r hr => ?_) (by rwa [hskip])
    -- What begins with the closing bracket is no part.
    rw [hskip] at hr
    obtain ⟨c, core, rfl⟩ := List.exists_cons_of_ne_nil hsolid.ne_nil
    obtain ⟨rfl, -⟩ := List.cons.inj hr
    exact hstart core _ hread

end Parts

/-! ### Values -/

mutual

/-- **A value with the pairs in its texts joined.** -/
def Value.joined : Value → Value
  | .string t => .string (joinSurrogates t)
  | .array items => .array (joinedItems items)
  | .object entries => .object (joinedEntries entries)
  | v => v

/-- The items of an array with the pairs in their texts joined. -/
def joinedItems : List Value → List Value
  | [] => []
  | v :: rest => v.joined :: joinedItems rest

/-- The entries of an object with the pairs in their texts joined. -/
def joinedEntries : List (CodePoints × Value) → List (CodePoints × Value)
  | [] => []
  | (k, v) :: rest => (joinSurrogates k, v.joined) :: joinedEntries rest

end

theorem joinedItems_eq (items : List Value) : joinedItems items = items.map Value.joined := by
  induction items with
  | nil => rfl
  | cons v rest ih => rw [joinedItems, ih, List.map_cons]

theorem Value.joined_ofFields (fields : List (String × Value)) :
    (ofFields fields).joined = ofFields (fields.map fun (k, v) => (k, v.joined)) := by
  unfold ofFields
  rw [joined]
  refine congrArg object ?_
  induction fields with
  | nil => rfl
  | cons field rest ih =>
    simp only [List.map_cons, joinedEntries, joinSurrogates_ofString, ih]

/-- **A value that can be read back when it is written**: nothing in it is a number with a fraction,
its integers are short enough, and the keys of an object differ. Arrays and objects are nested at
most so deep. -/
inductive Legible : Nat → Value → Prop where
  | null (depth : Nat) : Legible depth .null
  | bool (depth : Nat) (b : Bool) : Legible depth (.bool b)
  /-- An integer that is short enough. -/
  | int (depth : Nat) {n : Int} (short : n.natAbs < 10 ^ maxDigits) : Legible depth (.int n)
  | string (depth : Nat) (t : CodePoints) : Legible depth (.string t)
  /-- An array of such values. -/
  | array {depth : Nat} {items : List Value} (h : ∀ v ∈ items, Legible depth v) :
    Legible (depth + 1) (.array items)
  /-- An object of such values. -/
  | object {depth : Nat} {fields : List (String × Value)} (distinct : (fields.map Prod.fst).Nodup)
    (h : ∀ v ∈ fields.map Prod.snd, Legible depth v) : Legible (depth + 1) (.ofFields fields)

theorem Legible.single {depth : Nat} {v : Value} (name : String) (h : Legible depth v) :
    Legible (depth + 1) (.ofFields [(name, v)]) :=
  .object (List.nodup_singleton _) (List.forall_mem_singleton.mpr h)

theorem Legible.pair {depth : Nat} {v w : Value} {first second : String} (hne : first ≠ second)
    (hv : Legible depth v) (hw : Legible depth w) :
    Legible (depth + 1) (.ofFields [(first, v), (second, w)]) :=
  .object (by simpa using hne)
    (List.forall_mem_cons.mpr ⟨hv, List.forall_mem_singleton.mpr hw⟩)

section Values

variable {layout : Layout} {v : Value}

theorem writeItems_eq (n : Nat) (items : List Value) : writeItems layout n items =
    (layout.between n).intercalate (items.map (write layout (n + 1))) := by
  induction items with
  | nil => rfl
  | cons v rest ih =>
    cases rest with
    | nil => simp [writeItems]
    | cons w rest =>
      rw [writeItems, ih]
      · simp
      · simp

/-- A name and a value as text. -/
def writeEntry (layout : Layout) (n : Nat) (entry : CodePoints × Value) : List Char :=
  writeText entry.1 ++ ':' :: ' ' :: write layout (n + 1) entry.2

theorem writeEntries_eq (n : Nat) (entries : List (CodePoints × Value)) :
    writeEntries layout n entries =
      (layout.between n).intercalate (entries.map (writeEntry layout n)) := by
  induction entries with
  | nil => rfl
  | cons entry rest ih =>
    cases rest with
    | nil => simp [writeEntries, writeEntry]
    | cons w rest =>
      rw [writeEntries, ih]
      · simp [writeEntry]
      · simp

theorem readEntry_written {item : Step Value} (hitem : Extends item) (key : String) {n : Nat}
    {w : Value} (h : item (write layout (n + 1) v) = .ok (w, [])) :
    readEntry readString item (writeEntry layout n (CodePoints.ofString key, v)) =
      .ok ((CodePoints.ofString key, w), []) := by
  obtain ⟨hsolid, -⟩ := hitem.of_alone h
  have hvalue : skipBlanks (' ' :: write layout (n + 1) v) = write layout (n + 1) v := by
    have hblank : ∀ c ∈ [' '], isJsonBlank c = true := List.forall_mem_singleton.mpr rfl
    have hskip := hsolid.skipBlanks_append []
    rw [List.append_nil] at hskip
    exact (skipBlanks_append hblank _).trans hskip
  have hcolon : ∀ s, skipBlanks (':' :: s) = ':' :: s := fun s =>
    skipBlanks_of_head (by rintro _ ⟨⟩; decide)
  have hname := readString_written (CodePoints.ofString key) (':' :: ' ' :: write layout (n + 1) v)
  rw [joinSurrogates_ofString] at hname
  simp only [writeEntry, writeText, List.cons_append, List.append_assoc, List.nil_append, readEntry,
    hname, hcolon, hvalue, h, bind, Except.bind]

/-- What neither begins with a bracket nor with a brace is read as a scalar, however deep. -/
theorem readValue_of_readScalar {depth : Nat} {s : List Char}
    (hread : readScalar readString s = .ok (v, [])) (harray : ∀ r, s ≠ '[' :: r)
    (hobject : ∀ r, s ≠ '\x7b' :: r) :
    readValue readString depth s = .ok (v, []) :=
  (readValue_of_scalar harray hobject _).trans hread

theorem readValue_written_int {n : Int} (h : n.natAbs < 10 ^ maxDigits) (depth : Nat) :
    readValue readString depth (toString n).toList = .ok (.int n, []) := by
  have hnumber := readNumber_written h
  obtain ⟨core, hcore, -, hread⟩ := readNumber_extends hnumber
  have hread' := hread [] stops_nil
  rw [List.append_nil] at hcore hread'
  rw [← hcore] at hread'
  refine readValue_of_readScalar hread' (fun r hr => ?_) (fun r hr => ?_)
  -- No number begins with a bracket or a brace.
  all_goals
    rw [hr] at hnumber
    cases hnumber

theorem readValue_written_string (t : CodePoints) (depth : Nat) :
    readValue readString depth (writeText t) = .ok (.string (joinSurrogates t), []) := by
  refine readValue_of_readScalar ?_ nofun nofun
  have hread := readString_written t []
  simp only [writeText, List.cons_append, readScalar, hread, bind, Except.bind]

/-- An array is read back if its items are. -/
theorem readValue_written_array (hlayout : layout.IsBlank) {depth n : Nat} {items : List Value}
    (h : ∀ v ∈ items, readValue readString depth (write layout (n + 1) v) = .ok (v.joined, [])) :
    readValue readString (depth + 1) (write layout n (.array items)) =
      .ok ((Value.array items).joined, []) := by
  rw [Value.joined, joinedItems_eq]
  rcases items with _ | ⟨first, rest⟩
  · rfl
  have hitem := readValue_extends depth
  have htexts : List.Forall₂ (fun text v => readValue readString depth text = .ok (v, []))
      ((first :: rest).map (write layout (n + 1))) ((first :: rest).map Value.joined) := by
    rw [List.forall₂_map_left_iff, List.forall₂_map_right_iff, List.forall₂_same]
    exact h
  have hstart : ∀ s r, readValue readString depth (']' :: s) ≠ .ok r := by
    intro s r hr
    rw [readValue_of_scalar (by simp) (by simp)] at hr
    cases hr
  have henclosed := @enclosed_written _ _ _ hlayout hitem _ (.inl rfl) hstart .array n _ _ htexts
    (List.cons_ne_nil _ _)
  rw [← writeItems_eq] at henclosed
  have harray := readArray_of_enclosed hitem henclosed
  simp only [write, List.cons_append, List.append_assoc, readValue]
  exact harray

/-- An object is read back if its values are, and its keys differ. -/
theorem readValue_written_object (hlayout : layout.IsBlank) {depth n : Nat}
    {fields : List (String × Value)} (distinct : (fields.map Prod.fst).Nodup)
    (h : ∀ v ∈ fields.map Prod.snd,
      readValue readString depth (write layout (n + 1) v) = .ok (v.joined, [])) :
    readValue readString (depth + 1) (write layout n (.ofFields fields)) =
      .ok ((Value.ofFields fields).joined, []) := by
  rw [Value.joined_ofFields]
  rcases fields with _ | ⟨first, rest⟩
  · rfl
  have hitem := readValue_extends depth
  let entryOf : String × Value → CodePoints × Value := fun field =>
    (CodePoints.ofString field.1, field.2)
  let joinedOf : String × Value → CodePoints × Value := fun field =>
    (CodePoints.ofString field.1, field.2.joined)
  have htexts : List.Forall₂
      (fun text entry => readEntry readString (readValue readString depth) text = .ok (entry, []))
      (((first :: rest).map entryOf).map (writeEntry layout n)) ((first :: rest).map joinedOf) := by
    rw [List.map_map, List.forall₂_map_left_iff, List.forall₂_map_right_iff, List.forall₂_same]
    exact fun field hfield =>
      readEntry_written hitem field.1 (h field.2 (List.mem_map_of_mem hfield))
  have hstart : ∀ s r,
      readEntry readString (readValue readString depth) ('\x7d' :: s) ≠ .ok r := nofun
  have henclosed := @enclosed_written _ _ _ hlayout (readEntry_extends hitem) _ (.inr rfl) hstart
    (fun entries => .object (ofEntries entries)) n _ _ htexts (by simp)
  rw [← writeEntries_eq] at henclosed
  have hobject := readObject_of_enclosed hitem henclosed
  have hkeys : (((first :: rest).map joinedOf).map Prod.fst).Nodup := by
    have hinjective := distinct.map CodePoints.ofString_injective
    rwa [List.map_map] at hinjective ⊢
  rw [ofEntries_of_nodup hkeys] at hobject
  simp only [Value.ofFields, List.map_cons, write, List.cons_append, List.append_assoc, readValue]
  refine hobject.trans ?_
  simp only [joinedOf, List.map_cons, List.map_map]
  rfl

/-- **A value is read back from what it is written as**, at any depth of the layout. -/
theorem readValue_write (hlayout : layout.IsBlank) {depth : Nat} (h : Legible depth v) :
    ∀ n, readValue readString depth (write layout n v) = .ok (v.joined, []) := by
  induction h with
  | null depth => exact fun n => readValue_of_readScalar rfl nofun nofun
  | bool depth b =>
    intro n
    cases b with
    | true => exact readValue_of_readScalar rfl nofun nofun
    | false => exact readValue_of_readScalar rfl nofun nofun
  | int depth short => exact fun n => readValue_written_int short depth
  | string depth t => exact fun n => readValue_written_string t depth
  | array h ih => exact fun n => readValue_written_array hlayout fun v hv => ih v hv (n + 1)
  | object distinct h ih =>
    exact fun n => readValue_written_object hlayout distinct fun v hv => ih v hv (n + 1)

theorem solid_write (hlayout : layout.IsBlank) {depth : Nat} (h : Legible depth v) (n : Nat) :
    Solid (write layout n v) :=
  ((readValue_extends depth).of_alone (readValue_write hlayout h n)).1

/-- **A document is read back from what it is written as.** -/
theorem read_write (hlayout : layout.IsBlank) (h : Legible maxDepth v) :
    read (String.ofList (write layout 0 v)) = .ok v.joined := by
  have hread := readValue_write hlayout h 0
  have hdocument := @readDocument_of_extent _ [] _ (solid_write hlayout h 0)
    (by rw [List.append_nil]; exact hread)
  rw [List.append_nil] at hdocument
  rw [read, String.toList_ofList, hdocument]
  rfl

theorem read_compact (h : Legible maxDepth v) : read (compact v) = .ok v.joined :=
  read_write isBlank_oneLine h

theorem read_indented (h : Legible maxDepth v) : read (indented v) = .ok v.joined :=
  read_write isBlank_lines h

/-- Two surrogates that make a pair are not told from the character that they make. -/
example : compact (.string [.surrogate 0x3D, .surrogate 0x600]) = compact (.ofString "😀") := by
  cbv

end Values

end LintBridge.Json
