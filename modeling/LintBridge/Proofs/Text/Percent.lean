import LintBridge.Text.Percent
import Mathlib.Tactic.IntervalCases

/-!
# Texts read back from octets and from URIs

A text is written out in octets, and an octet in a URI as three characters, unless it stands for
itself. Either way back is lenient and gives something for whatever it meets, **and what was written
out comes back as it was**.

* `LintBridge.Text.Utf8.next_encodeChar` – a character is read back from its octets, whatever
  follows them, and `LintBridge.Text.Utf8.decodeReplacing_encode` – so is a text;
* `LintBridge.Text.Percent.octets_encodeOctet` – an octet is read back as it is written, and
  `LintBridge.Text.Percent.decodeAfter_encode` – so is a text;
* `LintBridge.Text.Percent.isWritten` – the characters that a text is written with, all of them
  ASCII and none of them a delimiter of a URI but the slash.
-/

namespace LintBridge.Text

/-! ### Octets -/

namespace Utf8

theorem toList_loop (bs : ByteArray) (i : Nat) (r : List UInt8) :
    ByteArray.toList.loop bs i r = r.reverse ++ bs.data.toList.drop i := by
  fun_induction ByteArray.toList.loop bs i r with
  | case1 i r h ih =>
    have hlength : i < bs.data.toList.length := by simpa using h
    have hget : bs.get! i = bs.data.toList[i] := by
      simp [ByteArray.get!, getElem!_pos, h]
    rw [ih, List.drop_eq_getElem_cons hlength, hget]
    simp
  | case2 i r h =>
    have hlength : bs.data.toList.length ≤ i := by simpa using h
    rw [List.drop_eq_nil_of_le hlength, List.append_nil]

/-- The octets of a text are those of its characters. -/
theorem encode_eq (s : String) : encode s = s.toList.flatMap String.utf8EncodeChar := by
  have hbytes : s.toUTF8 = (s.toList.flatMap String.utf8EncodeChar).toByteArray := by
    rw [← List.utf8Encode, ← String.toByteArray_ofList, String.ofList_toList]
    rfl
  rw [encode, ByteArray.toList, toList_loop, hbytes, List.toList_data_toByteArray]
  rfl

/-- The octets to follow carry six bits each. -/
theorem tail_cons {seen bits count n : Nat} {low high : UInt8} (rest : List UInt8) (hn : n < 64)
    (hlow : low.toNat ≤ n + 128) (hhigh : n + 128 ≤ high.toNat) :
    tail seen bits (count + 1) low high (UInt8.ofNat (n + 128) :: rest) =
      tail (seen + 1) (bits * 64 + n) count 0x80 0xBF rest := by
  have hvalue : (UInt8.ofNat (n + 128)).toNat = n + 128 :=
    UInt8.toNat_ofNat_of_lt' (show n + 128 < 256 by omega)
  have hbounds : low ≤ UInt8.ofNat (n + 128) ∧ UInt8.ofNat (n + 128) ≤ high := by
    rw [UInt8.le_iff_toNat_le, UInt8.le_iff_toNat_le, hvalue]
    exact ⟨hlow, hhigh⟩
  rw [tail, if_pos (by simpa using hbounds), hvalue, Nat.add_sub_cancel]

theorem tail_continuation {seen bits count n : Nat} (rest : List UInt8) (hn : n < 64) :
    tail seen bits (count + 1) 0x80 0xBF (UInt8.ofNat (n + 128) :: rest) =
      tail (seen + 1) (bits * 64 + n) count 0x80 0xBF rest :=
  tail_cons rest hn (Nat.le_add_left 128 n) (show n + 128 ≤ 191 by omega)

theorem lead_two {t : Nat} (h : 2 ≤ t) (h' : t < 32) :
    Lead.of? (UInt8.ofNat (t + 192)) = some ⟨t, 0x80, 0xBF, 1⟩ := by
  interval_cases t <;> rfl

theorem lead_three {t : Nat} (h : t < 16) : Lead.of? (UInt8.ofNat (t + 224)) =
    some ⟨t, if t = 0 then 0xA0 else 0x80, if t = 13 then 0x9F else 0xBF, 2⟩ := by
  interval_cases t <;> rfl

theorem lead_four {t : Nat} (h : t < 5) : Lead.of? (UInt8.ofNat (t + 240)) =
    some ⟨t, if t = 0 then 0x90 else 0x80, if t = 4 then 0x8F else 0xBF, 3⟩ := by
  interval_cases t <;> rfl

theorem next_of_lead {n : Nat} {lead : Lead} (rest : List UInt8) (hn : 128 ≤ n) (hn' : n < 256)
    (h : Lead.of? (UInt8.ofNat n) = some lead) :
    next (UInt8.ofNat n) rest = tail 1 lead.bits lead.count lead.low lead.high rest := by
  have hvalue : (UInt8.ofNat n).toNat = n := UInt8.toNat_ofNat_of_lt' hn'
  have hlarge : ¬ UInt8.ofNat n < 0x80 := by
    rw [UInt8.lt_iff_toNat_lt, hvalue]
    exact Nat.not_lt.mpr hn
  rw [next, if_neg hlarge, h]

theorem next_two {t a : Nat} (rest : List UInt8) (ht : 2 ≤ t) (ht' : t < 32) (ha : a < 64) :
    next (UInt8.ofNat (t + 192)) (UInt8.ofNat (a + 128) :: rest) =
      (.scalar (Char.ofNat (t * 64 + a)), rest) := by
  rw [next_of_lead _ (by omega) (by omega) (lead_two ht ht'),
    tail_continuation _ ha, tail]

theorem next_three {t a b : Nat} (rest : List UInt8) (ht : t < 16) (ha : a < 64) (hb : b < 64)
    (hlow : t = 0 → 32 ≤ a) (hhigh : t = 13 → a < 32) :
    next (UInt8.ofNat (t + 224)) (UInt8.ofNat (a + 128) :: UInt8.ofNat (b + 128) :: rest) =
      (.scalar (Char.ofNat ((t * 64 + a) * 64 + b)), rest) := by
  have hlow' : (if t = 0 then 0xA0 else 0x80 : UInt8).toNat ≤ a + 128 := by
    split
    · exact show 160 ≤ a + 128 by omega
    · exact Nat.le_add_left 128 a
  have hhigh' : a + 128 ≤ (if t = 13 then 0x9F else 0xBF : UInt8).toNat := by
    split
    · exact show a + 128 ≤ 159 by omega
    · exact show a + 128 ≤ 191 by omega
  rw [next_of_lead _ (by omega) (by omega) (lead_three ht), tail_cons _ ha hlow' hhigh',
    tail_continuation _ hb, tail]

theorem next_four {t a b d : Nat} (rest : List UInt8) (ht : t < 5) (ha : a < 64) (hb : b < 64)
    (hd : d < 64) (hlow : t = 0 → 16 ≤ a) (hhigh : t = 4 → a < 16) :
    next (UInt8.ofNat (t + 240)) (UInt8.ofNat (a + 128) :: UInt8.ofNat (b + 128) ::
        UInt8.ofNat (d + 128) :: rest) =
      (.scalar (Char.ofNat (((t * 64 + a) * 64 + b) * 64 + d)), rest) := by
  have hlow' : (if t = 0 then 0x90 else 0x80 : UInt8).toNat ≤ a + 128 := by
    split
    · exact show 144 ≤ a + 128 by omega
    · exact Nat.le_add_left 128 a
  have hhigh' : a + 128 ≤ (if t = 4 then 0x8F else 0xBF : UInt8).toNat := by
    split
    · exact show a + 128 ≤ 143 by omega
    · exact show a + 128 ≤ 191 by omega
  rw [next_of_lead _ (by omega) (by omega) (lead_four ht), tail_cons _ ha hlow' hhigh',
    tail_continuation _ hb, tail_continuation _ hd, tail]

/-- **A character is read back from its octets**, whatever follows them. -/
theorem next_encodeChar (c : Char) (rest : List UInt8) : ∃ b bs,
    String.utf8EncodeChar c = b :: bs ∧ next b (bs ++ rest) = (.scalar c, rest) := by
  have hvalid : c.val.toNat < 0xD800 ∨ 0xDFFF < c.val.toNat ∧ c.val.toNat < 0x110000 := c.valid
  have hc : Char.ofNat c.val.toNat = c := Char.ofNat_toNat c
  rw [String.utf8EncodeChar]
  generalize c.val.toNat = v at hvalid hc
  split
  · rename_i h
    have hvalue : (UInt8.ofNat v).toNat = v := UInt8.toNat_ofNat_of_lt' (show v < 256 by omega)
    have hsmall : UInt8.ofNat v < 0x80 := by
      rw [UInt8.lt_iff_toNat_lt, hvalue]
      exact Nat.lt_succ_of_le h
    exact ⟨_, _, rfl, by rw [next, if_pos hsmall, hvalue, hc]; rfl⟩
  split
  · have hbits : v / 64 % 32 * 64 + v % 64 = v := by omega
    refine ⟨_, _, rfl, (next_two rest ?_ ?_ ?_).trans (by rw [hbits, hc])⟩ <;> omega
  split
  · have hbits : (v / 4096 % 16 * 64 + v / 64 % 64) * 64 + v % 64 = v := by omega
    refine ⟨_, _, rfl, (next_three rest ?_ ?_ ?_ ?_ ?_).trans (by rw [hbits, hc])⟩ <;> omega
  · have hbits : ((v / 262144 % 8 * 64 + v / 4096 % 64) * 64 + v / 64 % 64) * 64 + v % 64 = v := by
      omega
    refine ⟨_, _, rfl, (next_four rest ?_ ?_ ?_ ?_ ?_ ?_).trans (by rw [hbits, hc])⟩ <;> omega

theorem decodeReplacing_flatMap (cs : List Char) :
    decodeReplacing (cs.flatMap String.utf8EncodeChar) = cs := by
  induction cs with
  | nil => rw [List.flatMap_nil, decodeReplacing]
  | cons c rest ih =>
    obtain ⟨b, bs, hoctets, hnext⟩ :=
      next_encodeChar c (rest.flatMap String.utf8EncodeChar)
    rw [List.flatMap_cons, hoctets, List.cons_append, decodeReplacing, hnext]
    exact congrArg (c :: ·) ih

/-- **A text is read back from its octets.** -/
theorem decodeReplacing_encode (s : String) : decodeReplacing (encode s) = s.toList := by
  rw [encode_eq, decodeReplacing_flatMap]

/-- An octet below 128 is a character. -/
theorem decodeReplacing_cons {c : Char} (h : c.val < 128) (rest : List UInt8) :
    decodeReplacing (UInt8.ofNat c.val.toNat :: rest) = c :: decodeReplacing rest := by
  obtain ⟨b, bs, hoctets, hnext⟩ := next_encodeChar c rest
  have hsmall : c.val.toNat ≤ 127 := Nat.le_of_lt_succ (UInt32.lt_iff_toNat_lt.mp h)
  rw [String.utf8EncodeChar, if_pos hsmall] at hoctets
  obtain ⟨rfl, rfl⟩ := List.cons.inj hoctets
  rw [List.nil_append] at hnext
  rw [decodeReplacing, hnext]

end Utf8

/-! ### Octets in a URI -/

namespace Percent

theorem hexValue?_hexDigit {n : Nat} (h : n < 16) : hexValue? (hexDigit n) = some n := by
  interval_cases n <;> rfl

theorem octets_cons {c : Char} (h : c ≠ '%') (rest : List Char) :
    octets (c :: rest) = UInt8.ofNat c.val.toNat :: octets rest := by
  rw [octets]
  intro a b rest' heq
  exact absurd heq h

/-- **An octet is read back as it is written**, whatever follows it. -/
theorem octets_encodeOctet (b : UInt8) (rest : List Char) :
    octets (encodeOctet b ++ rest) = b :: octets rest := by
  unfold encodeOctet
  split
  · rename_i hplain
    have hvalue : (Char.ofNat b.toNat).val.toNat = b.toNat := by
      have hlt : b.toNat < 256 := b.toNat_lt
      have hvalid : b.toNat.isValidChar := .inl (by omega)
      rw [Char.ofNat, dif_pos hvalid]
      rfl
    have hne : Char.ofNat b.toNat ≠ '%' := by
      intro heq
      rw [isPlain, heq] at hplain
      exact absurd hplain (by decide)
    rw [List.singleton_append, octets_cons hne, hvalue, UInt8.ofNat_toNat]
  · have hhigh : b.toNat / 16 < 16 := by have := b.toNat_lt; omega
    have hlow : b.toNat % 16 < 16 := Nat.mod_lt _ (by decide)
    have hsum : 16 * (b.toNat / 16) + b.toNat % 16 = b.toNat := Nat.div_add_mod _ _
    simp only [List.cons_append, List.nil_append, octets, hexValue?_hexDigit hhigh,
      hexValue?_hexDigit hlow, hsum, UInt8.ofNat_toNat]

theorem octets_flatMap (bs : List UInt8) : octets (bs.flatMap encodeOctet) = bs := by
  induction bs with
  | nil => rfl
  | cons b rest ih => rw [List.flatMap_cons, octets_encodeOctet, ih]

theorem octets_encode (s : String) : octets (encode s).toList = Utf8.encode s := by
  rw [encode, String.toList_ofList, octets_flatMap]

/-- What is ASCII is read as one stretch. -/
theorem decodeAfter_ascii {s : List Char} (h : ∀ c ∈ s, c.val < 128) (pending : List Char) :
    decodeAfter pending s = Utf8.decodeReplacing (octets (pending.reverse ++ s)) := by
  induction s generalizing pending with
  | nil => rw [decodeAfter, List.append_nil]
  | cons c rest ih =>
    rw [decodeAfter, if_pos (h c List.mem_cons_self),
      ih (fun d hd => h d (List.mem_cons_of_mem _ hd)), List.reverse_cons, List.append_assoc,
      List.singleton_append]

/-- The characters that a text is written with. -/
def isWritten (c : Char) : Bool :=
  c.isAlphanum || ['_', '.', '-', '~', '/', '%'].contains c

theorem isWritten_encodeOctet {b : UInt8} : ∀ c ∈ encodeOctet b, isWritten c = true := by
  have hdigit : ∀ n < 16, isWritten (hexDigit n) = true := by decide
  intro c hc
  unfold encodeOctet at hc
  split at hc
  · rename_i hplain
    rw [List.mem_singleton.mp hc]
    revert hplain
    unfold isPlain isWritten
    generalize Char.ofNat b.toNat = d
    simp only [List.contains_cons, Bool.or_eq_true]
    tauto
  · have hlt : b.toNat < 256 := b.toNat_lt
    rcases List.mem_cons.mp hc with rfl | hc
    · decide
    rcases List.mem_cons.mp hc with rfl | hc
    · exact hdigit _ (by omega)
    · rw [List.mem_singleton.mp hc]
      exact hdigit _ (by omega)

theorem isWritten_of_mem_encode {s : String} {c : Char} (h : c ∈ (encode s).toList) :
    isWritten c = true := by
  rw [encode, String.toList_ofList] at h
  obtain ⟨b, -, hc⟩ := List.mem_flatMap.mp h
  exact isWritten_encodeOctet c hc

/-- Letters and digits are ASCII. -/
theorem toNat_lt_of_isAlphanum {c : Char} (h : c.isAlphanum = true) : c.toNat < 128 := by
  have hbelow : ∀ high : UInt32, high.toNat < 128 → c.val ≤ high → c.toNat < 128 :=
    fun high hhigh hle => Nat.lt_of_le_of_lt (UInt32.le_iff_toNat_le.mp hle) hhigh
  rcases Bool.or_eq_true_iff.mp h with hletter | hdigit
  · rcases Bool.or_eq_true_iff.mp hletter with hupper | hlower
    · exact hbelow 'Z'.val (by decide) (of_decide_eq_true hupper).2
    · exact hbelow 'z'.val (by decide) (of_decide_eq_true (Bool.and_eq_true_iff.mp hlower).2)
  · exact hbelow '9'.val (by decide) (of_decide_eq_true (Bool.and_eq_true_iff.mp hdigit).2)

/-- What is written is ASCII. -/
theorem val_lt_of_isWritten {c : Char} (h : isWritten c = true) : c.val < 128 := by
  rw [UInt32.lt_iff_toNat_lt]
  change c.toNat < 128
  rcases Bool.or_eq_true_iff.mp h with h | h
  · exact toNat_lt_of_isAlphanum h
  · have hmarks : ∀ d ∈ ['_', '.', '-', '~', '/', '%'], d.toNat < 128 := by simp
    exact hmarks c (List.contains_iff_mem.mp h)

/-- A character that is not written out stands for itself, in front of what is ASCII. -/
theorem decodeAfter_cons {c : Char} {s : List Char} (hc : c.val < 128) (hne : c ≠ '%')
    (hs : ∀ d ∈ s, d.val < 128) : decodeAfter [] (c :: s) = c :: decodeAfter [] s := by
  have hall : ∀ d ∈ c :: s, d.val < 128 := by
    intro d hd
    rcases List.mem_cons.mp hd with rfl | hd
    · exact hc
    · exact hs d hd
  rw [decodeAfter_ascii hall, decodeAfter_ascii hs, List.reverse_nil, List.nil_append,
    List.nil_append, octets_cons hne, Utf8.decodeReplacing_cons hc]

/-- **A text is read back from the way it is written.** -/
theorem decodeAfter_encode (s : String) : decodeAfter [] (encode s).toList = s.toList := by
  rw [decodeAfter_ascii fun c hc => val_lt_of_isWritten (isWritten_of_mem_encode hc)]
  exact (congrArg Utf8.decodeReplacing (octets_encode s)).trans (Utf8.decodeReplacing_encode s)

theorem decodeAfter_nil : decodeAfter [] [] = [] := by
  rw [decodeAfter]
  exact Utf8.decodeReplacing_flatMap []

theorem encode_nil : (encode (String.ofList [])).toList = [] := by
  simp [encode, Utf8.encode_eq]

/-- A slash is written as it is. -/
theorem encode_cons_slash (s : List Char) :
    (encode (String.ofList ('/' :: s))).toList = '/' :: (encode (String.ofList s)).toList := by
  simp only [encode, Utf8.encode_eq, String.toList_ofList, List.flatMap_cons, List.flatMap_append]
  rfl

end Percent

end LintBridge.Text
