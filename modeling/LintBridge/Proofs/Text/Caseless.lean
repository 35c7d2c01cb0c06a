import LintBridge.Proofs.Text.Lower
import LintBridge.Proofs.Text.Percent
import LintBridge.Text.CaseMap
import Mathlib.Data.List.TakeWhile

/-!
# Texts up to the case of their letters

Two texts have the same letters if they are equal once the ASCII letters in them are lower-case. Of
a text that is read up to that, the reading has to be known up to that only: **percent-decoding
makes texts with the same letters into such texts**, although it goes through octets, takes
hexadecimal digits in either case, and puts a replacement for what is no character.

* `LintBridge.Text.SameLetters` – equal up to the case of ASCII letters;
* `LintBridge.Text.SameLetters.flatMap_foldChar` – such texts are folded alike;
* `LintBridge.Text.SameLetters.decode` – and they are decoded to such texts.
-/

namespace LintBridge.Text

/-! ### Letters -/

section Letter

/-- **What holds of ASCII characters and what a mapping makes of them, and of all that stay as they
are, holds of every character and what the mapping makes of it**, if it changes no others. -/
theorem ascii_induction {f : Char → Char} (hf : ∀ c : Char, 128 ≤ c.toNat → f c = c)
    {motive : Char → Char → Prop} (ascii : ∀ n < 128, motive (Char.ofNat n) (f (Char.ofNat n)))
    (same : ∀ c, motive c c) (c : Char) : motive c (f c) := by
  by_cases h : c.toNat < 128
  · exact of_ascii (P := fun c => motive c (f c)) ascii h
  · rw [hf c (Nat.not_lt.mp h)]
    exact same c

theorem toLower_of_le (c : Char) (h : 128 ≤ c.toNat) : c.toLower = c := by
  unfold Char.toLower
  rw [dif_neg]
  rintro ⟨-, hle⟩
  have hle : c.toNat ≤ 90 := UInt32.le_iff_toNat_le.mp hle
  omega

theorem toLower_induction {motive : Char → Char → Prop}
    (ascii : ∀ n < 128, motive (Char.ofNat n) (Char.ofNat n).toLower) (same : ∀ c, motive c c)
    (c : Char) : motive c c.toLower :=
  ascii_induction toLower_of_le ascii same c

@[simp] theorem toLower_toLower (c : Char) : c.toLower.toLower = c.toLower := by
  refine toLower_induction (motive := fun c d => d.toLower = c.toLower) ?_ (fun _ => rfl) c
  decide +kernel

theorem foldChar_toLower (c : Char) : foldChar c.toLower = foldChar c := by
  refine toLower_induction (motive := fun c d => foldChar d = foldChar c) ?_ (fun _ => rfl) c
  decide +kernel

theorem hexValue?_toLower (c : Char) : hexValue? c.toLower = hexValue? c := by
  refine toLower_induction (motive := fun c d => hexValue? d = hexValue? c) ?_ (fun _ => rfl) c
  decide +kernel

theorem isAscii_toLower (c : Char) : c.toLower.val < 128 ↔ c.val < 128 := by
  refine toLower_induction (motive := fun c d => d.val < 128 ↔ c.val < 128) ?_ (fun _ => .rfl) c
  decide +kernel

/-- A character that is no letter is told by its lower case. -/
theorem toLower_eq_iff {m : Char} (hm : ∀ n < 128, (Char.ofNat n).toLower = m ↔ Char.ofNat n = m)
    (c : Char) : c.toLower = m ↔ c = m :=
  toLower_induction (motive := fun c d => d = m ↔ c = m) hm (fun _ => .rfl) c

end Letter

/-! ### Texts -/

section Congr

variable {α β : Type} {f : α → β} {p : β → Bool} {q : α → Bool} {s t : List α}

/-! What a mapping does not hide is selected alike in lists that it makes equal. -/

theorem map_takeWhile_congr (hseen : ∀ c, p (f c) = q c) (h : s.map f = t.map f) :
    (s.takeWhile q).map f = (t.takeWhile q).map f := by
  have heq : p ∘ f = q := funext hseen
  rw [← heq, ← List.takeWhile_map, ← List.takeWhile_map, h]

theorem map_dropWhile_congr (hseen : ∀ c, p (f c) = q c) (h : s.map f = t.map f) :
    (s.dropWhile q).map f = (t.dropWhile q).map f := by
  have heq : p ∘ f = q := funext hseen
  rw [← heq, ← List.dropWhile_map, ← List.dropWhile_map, h]

theorem map_filter_congr (hseen : ∀ c, p (f c) = q c) (h : s.map f = t.map f) :
    (s.filter q).map f = (t.filter q).map f := by
  have heq : p ∘ f = q := funext hseen
  rw [← heq, ← List.filter_map, ← List.filter_map, h]

end Congr

/-- **Two texts are the same up to the case of ASCII letters.** -/
def SameLetters (s t : List Char) : Prop :=
  s.map Char.toLower = t.map Char.toLower

instance (s t : List Char) : Decidable (SameLetters s t) :=
  inferInstanceAs (Decidable (s.map Char.toLower = t.map Char.toLower))

section SameLetters

variable {s t s' t' : List Char}

theorem SameLetters.refl (s : List Char) : SameLetters s s :=
  rfl

theorem sameLetters_map (s : List Char) : SameLetters (s.map Char.toLower) s := by
  unfold SameLetters
  rw [List.map_map]
  exact List.map_congr_left fun c _ => toLower_toLower c

theorem SameLetters.append (h : SameLetters s t) (h' : SameLetters s' t') :
    SameLetters (s ++ s') (t ++ t') := by
  unfold SameLetters at h h' ⊢
  rw [List.map_append, List.map_append, h, h']

theorem sameLetters_cons {c d : Char} :
    SameLetters (c :: s) (d :: t) ↔ c.toLower = d.toLower ∧ SameLetters s t := by
  unfold SameLetters
  rw [List.map_cons, List.map_cons, List.cons.injEq]

/-- They are empty together. -/
theorem SameLetters.nil_iff (h : SameLetters s t) : s = [] ↔ t = [] := by
  rw [← @List.map_eq_nil_iff _ _ Char.toLower s, h, List.map_eq_nil_iff]

/-- **What does not tell a text from its lower case does not tell texts with the same letters
apart.** -/
theorem SameLetters.congr {α : Type} {f : List Char → α}
    (hf : ∀ s, f (s.map Char.toLower) = f s) (h : SameLetters s t) : f s = f t := by
  rw [← hf s, h, hf t]

/-- In the same way, a function makes texts with the same letters into such texts. -/
theorem sameLetters_of_map {read : List Char → List Char}
    (hread : ∀ s, SameLetters (read (s.map Char.toLower)) (read s)) (h : SameLetters s t) :
    SameLetters (read s) (read t) :=
  h.congr (f := fun s => (read s).map Char.toLower) hread

theorem SameLetters.map_eq {α : Type} {f : Char → α} (hf : ∀ c : Char, f c.toLower = f c)
    (h : SameLetters s t) : s.map f = t.map f := by
  refine h.congr fun s => ?_
  rw [List.map_map]
  exact List.map_congr_left fun c _ => hf c

/-- Texts with the same letters are folded alike. -/
theorem SameLetters.flatMap_foldChar (h : SameLetters s t) :
    s.flatMap foldChar = t.flatMap foldChar := by
  rw [List.flatMap_def, List.flatMap_def, h.map_eq foldChar_toLower]

end SameLetters

/-! ### Octets -/

/-- The lower case of an octet that is a letter. -/
def lowerOctet (b : UInt8) : UInt8 :=
  if 65 ≤ b ∧ b ≤ 90 then b + 32 else b

theorem lowerOctet_of_le {b : UInt8} (h : 128 ≤ b) : lowerOctet b = b := by
  unfold lowerOctet
  rw [if_neg]
  rintro ⟨-, hle⟩
  rw [UInt8.le_iff_toNat_le] at h hle
  exact absurd (h.trans hle) (by decide)

theorem lowerOctet_ascii {b : UInt8} (h : b < 128) : lowerOctet b < 128 ∧
    (Char.ofNat (lowerOctet b).toNat).toLower = (Char.ofNat b.toNat).toLower := by
  have hall : ∀ n < 128, lowerOctet (UInt8.ofNat n) < 128 ∧
      (Char.ofNat (lowerOctet (UInt8.ofNat n)).toNat).toLower =
        (Char.ofNat (UInt8.ofNat n).toNat).toLower := by decide +kernel
  have hb := hall b.toNat (UInt8.lt_iff_toNat_lt.mp h)
  rwa [UInt8.ofNat_toNat] at hb

theorem lowerOctet_toLower (c : Char) :
    lowerOctet (UInt8.ofNat c.toLower.val.toNat) = lowerOctet (UInt8.ofNat c.val.toNat) := by
  refine toLower_induction (motive := fun c d => lowerOctet (UInt8.ofNat d.val.toNat) =
    lowerOctet (UInt8.ofNat c.val.toNat)) ?_ (fun _ => rfl) c
  decide +kernel

namespace Utf8

/-- The octets to follow are no letters. -/
theorem tail_map_lowerOctet {seen bits count : Nat} {low high : UInt8} {bs : List UInt8}
    (hlow : 128 ≤ low) : tail seen bits count low high (bs.map lowerOctet) =
      ((tail seen bits count low high bs).1,
        (tail seen bits count low high bs).2.map lowerOctet) := by
  fun_induction tail seen bits count low high bs with
  | case1 => simp [tail]
  | case2 => simp [tail]
  | case3 seen bits count low high b rest h ih =>
    have hb : 128 ≤ b := UInt8.le_trans hlow (by simpa using h : low ≤ b ∧ b ≤ high).1
    rw [List.map_cons, lowerOctet_of_le hb, tail, if_pos h]
    exact ih (by decide)
  | case4 seen bits count low high b rest h =>
    -- An octet that is not one of those is none in lower case either.
    have hout : ¬ (decide (low ≤ lowerOctet b) && decide (lowerOctet b ≤ high)) = true := by
      by_cases hb : 128 ≤ b
      · rwa [lowerOctet_of_le hb]
      · have hsmall := (lowerOctet_ascii (UInt8.not_le.mp hb)).1
        simp only [Bool.and_eq_true, decide_eq_true_eq, not_and]
        exact fun hle => absurd (UInt8.le_trans hlow hle) (UInt8.not_le.mpr hsmall)
    rw [List.map_cons, tail, if_neg hout]

theorem low_of_lead {b : UInt8} {lead : Lead} (h : Lead.of? b = some lead) : 128 ≤ lead.low := by
  unfold Lead.of? at h
  repeat' split at h
  all_goals simp only [Option.some.injEq, reduceCtorEq] at h
  all_goals
    subst h
    dsimp only
    decide

/-- What a piece is shown as. -/
def Piece.shown : Piece → Char
  | .scalar c => c
  | .invalid _ _ => '\uFFFD'

theorem decodeReplacing_cons_eq (b : UInt8) (rest : List UInt8) :
    decodeReplacing (b :: rest) = (next b rest).1.shown :: decodeReplacing (next b rest).2 := by
  rw [decodeReplacing]
  rfl

/-- One step over octets in lower case ends at the same place, and shows the same letter. -/
theorem next_map_lowerOctet (b : UInt8) (rest : List UInt8) :
    (next (lowerOctet b) (rest.map lowerOctet)).2 = (next b rest).2.map lowerOctet ∧
      (next (lowerOctet b) (rest.map lowerOctet)).1.shown.toLower =
        (next b rest).1.shown.toLower := by
  by_cases hb : b < 128
  · obtain ⟨hlower, hchar⟩ := lowerOctet_ascii hb
    rw [next, if_pos hlower, next, if_pos hb]
    exact ⟨rfl, hchar⟩
  · rw [lowerOctet_of_le (UInt8.not_lt.mp hb), next, if_neg hb, next, if_neg hb]
    cases hlead : Lead.of? b with
    | none => exact ⟨rfl, rfl⟩
    | some lead =>
      dsimp only
      rw [tail_map_lowerOctet (low_of_lead hlead)]
      exact ⟨rfl, rfl⟩

/-- **Octets and their lower case are decoded to texts with the same letters.** -/
theorem sameLetters_decodeReplacing (bs : List UInt8) :
    SameLetters (decodeReplacing (bs.map lowerOctet)) (decodeReplacing bs) := by
  fun_induction decodeReplacing bs with
  | case1 =>
    rw [List.map_nil, decodeReplacing]
    exact .refl _
  | case2 b rest c ih =>
    obtain ⟨hrest, hshown⟩ := next_map_lowerOctet b rest
    rw [List.map_cons, decodeReplacing_cons_eq, hrest]
    exact sameLetters_cons.mpr ⟨hshown, ih⟩

end Utf8

/-! ### Percent-encoding -/

namespace Percent

/-- The octets of a text are those of its lower case, up to their own. -/
theorem octets_map_toLower (s : List Char) :
    (octets (s.map Char.toLower)).map lowerOctet = (octets s).map lowerOctet := by
  fun_induction octets s with
  | case1 => rfl
  | case2 a b rest x y hx hy ih =>
    have hpercent : '%'.toLower = '%' := rfl
    rw [List.map_cons, List.map_cons, List.map_cons, hpercent, octets, hexValue?_toLower,
      hexValue?_toLower, hx, hy]
    dsimp only
    rw [List.map_cons, List.map_cons, ih]
  | case3 a b rest hnot ih =>
    have hpercent : '%'.toLower = '%' := rfl
    rw [List.map_cons, List.map_cons, List.map_cons, hpercent, octets, hexValue?_toLower,
      hexValue?_toLower]
    rw [List.map_cons, List.map_cons] at ih
    split
    · exact absurd ‹_› (hnot _ _ ‹_›)
    · rw [List.map_cons, List.map_cons, ih]
  | case4 c rest hnot ih =>
    have hoctet := lowerOctet_toLower c
    have hcons : octets (c.toLower :: rest.map Char.toLower) =
        UInt8.ofNat c.toLower.val.toNat :: octets (rest.map Char.toLower) := by
      rw [octets]
      intro a b rest' hc hrest
      have hpercent : c = '%' := (toLower_eq_iff (by decide +kernel) c).mp hc
      obtain ⟨a, tail, rfl, -, htail⟩ := List.map_eq_cons_iff.mp hrest
      obtain ⟨b, tail, rfl, -, -⟩ := List.map_eq_cons_iff.mp htail
      exact hnot a b tail hpercent rfl
    rw [List.map_cons, hcons, List.map_cons, List.map_cons, hoctet, ih]

/-- What is decoded of a stretch, and of its lower case, has the same letters. -/
theorem sameLetters_decodeStretch (s : List Char) :
    SameLetters (Utf8.decodeReplacing (octets (s.map Char.toLower)))
      (Utf8.decodeReplacing (octets s)) := by
  have hlower := Utf8.sameLetters_decodeReplacing (octets (s.map Char.toLower))
  rw [octets_map_toLower] at hlower
  exact hlower.symm.trans (Utf8.sameLetters_decodeReplacing (octets s))

theorem sameLetters_decodeAfter_map (pending s : List Char) :
    SameLetters (decodeAfter (pending.map Char.toLower) (s.map Char.toLower))
      (decodeAfter pending s) := by
  induction s generalizing pending with
  | nil =>
    rw [List.map_nil, decodeAfter, decodeAfter, ← List.map_reverse]
    exact sameLetters_decodeStretch _
  | cons c rest ih =>
    rw [List.map_cons, decodeAfter, decodeAfter]
    by_cases hc : c.val < 128
    · rw [if_pos ((isAscii_toLower c).mpr hc), if_pos hc]
      exact ih (c :: pending)
    · rw [if_neg (mt (isAscii_toLower c).mp hc), if_neg hc, ← List.map_reverse]
      exact (sameLetters_decodeStretch _).append
        (sameLetters_cons.mpr ⟨toLower_toLower c, ih []⟩)

end Percent

/-- **Texts with the same letters are decoded to such texts.** -/
theorem SameLetters.decode {s t : List Char} (h : SameLetters s t) :
    SameLetters (Percent.decodeAfter [] s) (Percent.decodeAfter [] t) :=
  sameLetters_of_map (fun s => Percent.sameLetters_decodeAfter_map [] s) h

end LintBridge.Text
