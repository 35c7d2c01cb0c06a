import LintBridge.Proofs.Result
import LintBridge.Proofs.Text.Percent

/-!
# Octets that are read strictly

A text is read back from its octets, and **nothing else is read at all**: octets are read strictly
exactly if they are those of a text (`LintBridge.Text.Utf8.decode?_eq_ok`). So there is no other way
to spell a character, be it with more octets than it needs, as a half of a surrogate pair or beyond
the last code point; the range that a first octet prescribes for the second excludes all three.
-/

namespace LintBridge.Text.Utf8

/-! ### One character -/

section Character

variable {c : Char} {rest : List UInt8}

/-- An octet to follow that has been read carries six bits. -/
theorem tail_eq_scalar {seen bits count : Nat} {low high : UInt8} {bs : List UInt8}
    (hlow : 128 ≤ low.toNat) (hhigh : high.toNat ≤ 191)
    (h : tail seen bits (count + 1) low high bs = (.scalar c, rest)) :
    ∃ n bs', bs = UInt8.ofNat (n + 128) :: bs' ∧ n < 64 ∧ low.toNat ≤ n + 128 ∧
      n + 128 ≤ high.toNat ∧ tail (seen + 1) (bits * 64 + n) count 0x80 0xBF bs' =
        (.scalar c, rest) := by
  cases bs with
  | nil => cases h
  | cons b bs' =>
    rw [tail] at h
    split at h
    · rename_i hbounds
      simp only [Bool.and_eq_true, decide_eq_true_eq, UInt8.le_iff_toNat_le] at hbounds
      refine ⟨b.toNat - 128, bs', ?_, by omega, by omega, by omega, h⟩
      rw [Nat.sub_add_cancel (by omega), UInt8.ofNat_toNat]
    · cases h

theorem tail_continuation_eq_scalar {seen bits count : Nat} {bs : List UInt8}
    (h : tail seen bits (count + 1) 0x80 0xBF bs = (.scalar c, rest)) :
    ∃ n bs', bs = UInt8.ofNat (n + 128) :: bs' ∧ n < 64 ∧
      tail (seen + 1) (bits * 64 + n) count 0x80 0xBF bs' = (.scalar c, rest) := by
  obtain ⟨n, bs', hbs, hn, -, -, htail⟩ := tail_eq_scalar (by decide) (by decide) h
  exact ⟨n, bs', hbs, hn, htail⟩

/-- The last of them completes the character. -/
theorem tail_zero_eq_scalar {seen bits : Nat} {low high : UInt8} {bs : List UInt8}
    (h : tail seen bits 0 low high bs = (.scalar c, rest)) : c = Char.ofNat bits ∧ rest = bs := by
  rw [tail, Prod.mk.injEq, Piece.scalar.injEq] at h
  exact ⟨h.1.symm, h.2.symm⟩

/-- The first octets, by the number of octets to follow. -/
theorem lead_cases {b : UInt8} {lead : Lead} (h : Lead.of? b = some lead) :
    (∃ t, 2 ≤ t ∧ t < 32 ∧ b = UInt8.ofNat (t + 192) ∧ lead = ⟨t, 0x80, 0xBF, 1⟩) ∨
    (∃ t < 16, b = UInt8.ofNat (t + 224) ∧
      lead = ⟨t, if t = 0 then 0xA0 else 0x80, if t = 13 then 0x9F else 0xBF, 2⟩) ∨
    ∃ t < 5, b = UInt8.ofNat (t + 240) ∧
      lead = ⟨t, if t = 0 then 0x90 else 0x80, if t = 4 then 0x8F else 0xBF, 3⟩ := by
  have hoctet : ∀ n, b.toNat = n → b = UInt8.ofNat n := by
    rintro n rfl
    exact UInt8.ofNat_toNat.symm
  have hrange : ∀ low high : UInt8, (decide (low ≤ b) && decide (b ≤ high)) = true →
      low.toNat ≤ b.toNat ∧ b.toNat ≤ high.toNat := by
    intro low high hbounds
    simpa [UInt8.le_iff_toNat_le] using hbounds
  unfold Lead.of? at h
  split at h
  · rename_i hc
    obtain ⟨hlow, hhigh⟩ : 194 ≤ b.toNat ∧ b.toNat ≤ 223 := hrange _ _ hc
    obtain rfl := Option.some.inj h
    exact .inl ⟨b.toNat - 192, by omega, by omega, hoctet _ (by omega), rfl⟩
  split at h
  · rename_i hc
    obtain rfl := eq_of_beq hc
    obtain rfl := Option.some.inj h
    exact .inr (.inl ⟨0, by decide, rfl, rfl⟩)
  split at h
  · rename_i hc
    obtain rfl := eq_of_beq hc
    obtain rfl := Option.some.inj h
    exact .inr (.inl ⟨13, by decide, rfl, rfl⟩)
  split at h
  · rename_i hzero hsurrogate hc
    obtain ⟨hlow, hhigh⟩ : 225 ≤ b.toNat ∧ b.toNat ≤ 239 := hrange _ _ hc
    have hne : b.toNat ≠ 237 := fun heq => hsurrogate (by rw [hoctet _ heq]; rfl)
    obtain rfl := Option.some.inj h
    refine .inr (.inl ⟨b.toNat - 224, by omega, hoctet _ (by omega), ?_⟩)
    rw [if_neg (by omega), if_neg (by omega)]
  split at h
  · rename_i hc
    obtain rfl := eq_of_beq hc
    obtain rfl := Option.some.inj h
    exact .inr (.inr ⟨0, by decide, rfl, rfl⟩)
  split at h
  · rename_i hc
    obtain ⟨hlow, hhigh⟩ : 241 ≤ b.toNat ∧ b.toNat ≤ 243 := hrange _ _ hc
    obtain rfl := Option.some.inj h
    refine .inr (.inr ⟨b.toNat - 240, by omega, hoctet _ (by omega), ?_⟩)
    rw [if_neg (by omega), if_neg (by omega)]
  split at h
  · rename_i hc
    obtain rfl := eq_of_beq hc
    obtain rfl := Option.some.inj h
    exact .inr (.inr ⟨4, by decide, rfl, rfl⟩)
  · cases h

theorem toNat_ofNat {n : Nat} (h : n < 0xD800 ∨ 0xDFFF < n ∧ n < 0x110000) :
    (Char.ofNat n).val.toNat = n :=
  congrArg Char.toNat (dif_pos h)

theorem encode_two {t a : Nat} (ht : 2 ≤ t) (ht' : t < 32) (ha : a < 64) :
    String.utf8EncodeChar (Char.ofNat (t * 64 + a)) =
      [UInt8.ofNat (t + 192), UInt8.ofNat (a + 128)] := by
  have hfirst : (t * 64 + a) / 64 % 32 = t := by omega
  have hsecond : (t * 64 + a) % 64 = a := by omega
  rw [String.utf8EncodeChar, toNat_ofNat (.inl (by omega)), if_neg (by omega), if_pos (by omega),
    hfirst, hsecond]

theorem encode_three {t a b : Nat} (ht : t < 16) (ha : a < 64) (hb : b < 64)
    (hlow : t = 0 → 32 ≤ a) (hhigh : t = 13 → a < 32) :
    String.utf8EncodeChar (Char.ofNat ((t * 64 + a) * 64 + b)) =
      [UInt8.ofNat (t + 224), UInt8.ofNat (a + 128), UInt8.ofNat (b + 128)] := by
  have hfirst : ((t * 64 + a) * 64 + b) / 4096 % 16 = t := by omega
  have hsecond : ((t * 64 + a) * 64 + b) / 64 % 64 = a := by omega
  have hthird : ((t * 64 + a) * 64 + b) % 64 = b := by omega
  rw [String.utf8EncodeChar, toNat_ofNat (by omega), if_neg (by omega), if_neg (by omega),
    if_pos (by omega), hfirst, hsecond, hthird]

theorem encode_four {t a b d : Nat} (ht : t < 5) (ha : a < 64) (hb : b < 64) (hd : d < 64)
    (hlow : t = 0 → 16 ≤ a) (hhigh : t = 4 → a < 16) :
    String.utf8EncodeChar (Char.ofNat (((t * 64 + a) * 64 + b) * 64 + d)) =
      [UInt8.ofNat (t + 240), UInt8.ofNat (a + 128), UInt8.ofNat (b + 128),
        UInt8.ofNat (d + 128)] := by
  have hfirst : (((t * 64 + a) * 64 + b) * 64 + d) / 262144 % 8 = t := by omega
  have hsecond : (((t * 64 + a) * 64 + b) * 64 + d) / 4096 % 64 = a := by omega
  have hthird : (((t * 64 + a) * 64 + b) * 64 + d) / 64 % 64 = b := by omega
  have hfourth : (((t * 64 + a) * 64 + b) * 64 + d) % 64 = d := by omega
  rw [String.utf8EncodeChar, toNat_ofNat (by omega), if_neg (by omega), if_neg (by omega),
    if_neg (by omega), hfirst, hsecond, hthird, hfourth]

/-- **The octets of a character that has been read are its encoding.** -/
theorem encode_of_next {b : UInt8} {bs : List UInt8} (h : next b bs = (.scalar c, rest)) :
    b :: bs = String.utf8EncodeChar c ++ rest := by
  unfold next at h
  split at h
  · rename_i hsmall
    have hlt : b.toNat < 128 := UInt8.lt_iff_toNat_lt.mp hsmall
    cases h
    rw [String.utf8EncodeChar, toNat_ofNat (.inl (by omega)), if_pos (by omega), UInt8.ofNat_toNat]
    rfl
  · split at h
    · cases h
    · rename_i lead hlead
      obtain ⟨t, hlow, hhigh, rfl, rfl⟩ | ⟨t, hlt, rfl, rfl⟩ | ⟨t, hlt, rfl, rfl⟩ :=
        lead_cases hlead
      · obtain ⟨a, bs, rfl, ha, h⟩ := tail_continuation_eq_scalar h
        obtain ⟨rfl, rfl⟩ := tail_zero_eq_scalar h
        rw [encode_two hlow hhigh ha]
        rfl
      · -- The second octet is what keeps the character from being too small or a surrogate.
        have hranges : 128 ≤ (if t = 0 then 0xA0 else 0x80 : UInt8).toNat ∧
            (if t = 13 then 0x9F else 0xBF : UInt8).toNat ≤ 191 := by
          split <;> split <;> decide
        obtain ⟨a, bs, rfl, ha, hlow, hhigh, h⟩ := tail_eq_scalar hranges.1 hranges.2 h
        obtain ⟨b, bs, rfl, hb, h⟩ := tail_continuation_eq_scalar h
        obtain ⟨rfl, rfl⟩ := tail_zero_eq_scalar h
        rw [encode_three hlt ha hb]
        · rfl
        · rintro rfl
          exact Nat.le_of_add_le_add_right (show 32 + 128 ≤ a + 128 from hlow)
        · rintro rfl
          exact Nat.lt_of_add_lt_add_right (show a + 128 < 32 + 128 from Nat.lt_succ_of_le hhigh)
      · -- Here it keeps it from being too small or too large.
        have hranges : 128 ≤ (if t = 0 then 0x90 else 0x80 : UInt8).toNat ∧
            (if t = 4 then 0x8F else 0xBF : UInt8).toNat ≤ 191 := by
          split <;> split <;> decide
        obtain ⟨a, bs, rfl, ha, hlow, hhigh, h⟩ := tail_eq_scalar hranges.1 hranges.2 h
        obtain ⟨b, bs, rfl, hb, h⟩ := tail_continuation_eq_scalar h
        obtain ⟨d, bs, rfl, hd, h⟩ := tail_continuation_eq_scalar h
        obtain ⟨rfl, rfl⟩ := tail_zero_eq_scalar h
        rw [encode_four hlt ha hb hd]
        · rfl
        · rintro rfl
          exact Nat.le_of_add_le_add_right (show 16 + 128 ≤ a + 128 from hlow)
        · rintro rfl
          exact Nat.lt_of_add_lt_add_right (show a + 128 < 16 + 128 from Nat.lt_succ_of_le hhigh)

end Character

/-! ### Texts -/

/-- **Octets are read strictly exactly if they are those of a text**, which is what they are read
as. -/
theorem decodeFrom_eq_ok {position : Nat} {bs : List UInt8} {cs : List Char} :
    decodeFrom position bs = .ok cs ↔ bs = cs.flatMap String.utf8EncodeChar := by
  constructor
  · intro h
    induction position, bs using decodeFrom.induct generalizing cs with
    | case1 =>
      rw [decodeFrom] at h
      cases h
      rfl
    | case2 position b rest c hc ih =>
      rw [decodeFrom, hc] at h
      obtain ⟨more, hmore, rfl⟩ := map_eq_ok.mp h
      rw [List.flatMap_cons, ← ih hmore]
      exact encode_of_next (Prod.ext hc rfl)
    | case3 position b rest reason length hc =>
      rw [decodeFrom, hc] at h
      cases h
  · rintro rfl
    induction cs generalizing position with
    | nil => rw [List.flatMap_nil, decodeFrom]
    | cons c rest ih =>
      obtain ⟨b, bs, hoctets, hnext⟩ := next_encodeChar c (rest.flatMap String.utf8EncodeChar)
      rw [List.flatMap_cons, hoctets, List.cons_append, decodeFrom, hnext]
      simp only [ih, Except.map]

theorem decode?_eq_ok {bs : List UInt8} {cs : List Char} :
    decode? bs = .ok cs ↔ bs = cs.flatMap String.utf8EncodeChar :=
  decodeFrom_eq_ok

end LintBridge.Text.Utf8
