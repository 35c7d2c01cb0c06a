import LintBridge.Proofs.Text.Caseless
import LintBridge.Proofs.Text.Lower

/-!
# Words that are told in either case

A word is recognised in lower case or in upper case, so that the case it is written in does not
matter. What else is recognised with it is up to the case mappings: the Kelvin sign is lowered to
`k`, the long s is raised to `S`, a ligature is raised to several letters, and the dotless `ı`,
which is a small letter and no `i`, is raised to `I`. **Nothing else has an image among ASCII
letters**, so that a word of letters that none of the others gets in the way of is told as follows:

* `LintBridge.Text.lowerList_eq_iff` – in lower case, by its letters in either case;
* `LintBridge.Text.flatMap_upperChar_eq_iff` – in upper case, by the same and the dotless `ı`
  (`LintBridge.Text.undotted`).
-/

namespace LintBridge.Text

/-! ### The case tables -/

/-- **What a case table makes of a character**: one of its images of several characters, the image
of a member of a stretch, or the character itself. -/
theorem mapCase_cases (runs : List CaseRun) (specials : List (Nat × List Nat)) (c : Char) :
    (∃ entry ∈ specials, mapCase runs specials c = entry.2.map Char.ofNat) ∨
    (∃ run ∈ runs, ∃ m, run.shift? c.toNat = some m ∧
      mapCase runs specials c = [Char.ofNat m]) ∨
    mapCase runs specials c = [c] := by
  unfold mapCase
  dsimp only
  split
  · rename_i entry ns hfind
    exact .inl ⟨_, List.mem_of_find?_eq_some hfind, rfl⟩
  · split
    · rename_i m hshift
      obtain ⟨run, hrun, hm⟩ := List.exists_of_findSome?_eq_some hshift
      exact .inr (.inl ⟨run, hrun, m, hm, rfl⟩)
    · exact .inr (.inr rfl)

/-- A code point that is none of a character counts as zero. -/
theorem toNat_ofNat_of_ne_zero {m : Nat} (h : Char.ofNat m ≠ '\x00') :
    (Char.ofNat m).toNat = m := by
  by_cases hvalid : m.isValidChar
  · exact congrArg Char.toNat (dif_pos hvalid)
  · exact absurd (dif_neg hvalid) h

/-- Stretches are lowered beyond ASCII, and not to the dotless `ı`. The one exception is the Kelvin
sign. -/
theorem lowerRuns_image : ∀ run ∈ lowerRuns, run.low = 'k'.toNat ∧ run.high = 'k'.toNat ∨
    128 ≤ run.low ∧ (run.high < 'ı'.toNat ∨ 'ı'.toNat < run.low) := by
  decide +kernel

/-- Stretches are raised beyond ASCII, but for the dotless `ı` and the long s. -/
theorem upperRuns_image : ∀ run ∈ upperRuns, run.first = 'ı'.toNat ∧ run.last = 'ı'.toNat ∨
    run.low = 'S'.toNat ∧ run.high = 'S'.toNat ∨ 128 ≤ run.low := by
  decide +kernel

/-! ### Letters -/

/-- A character of ASCII, or the dotless `ı`. -/
def NearAscii (c : Char) : Prop :=
  c.toNat < 128 ∨ c = 'ı'

instance (c : Char) : Decidable (NearAscii c) :=
  inferInstanceAs (Decidable (_ ∨ _))

/-- **The small letter that is told of a letter when it is raised**: that of its lower case, with a
dot on the dotless `ı`. -/
def undotted (c : Char) : Char :=
  if c = 'ı' then 'i' else c.toLower

/-- **A small letter that is told apart in either case.** The Kelvin sign is lowered to one that is
not, and the long s is raised to another. -/
def IsClear (c : Char) : Prop :=
  c.isLower = true ∧ c ≠ 'k' ∧ c ≠ 's'

instance (c : Char) : Decidable (IsClear c) :=
  inferInstanceAs (Decidable (_ ∧ _))

section Letter

variable {c : Char}

/-- A small letter is a character of ASCII. -/
theorem toNat_lt_of_isLower (h : c.isLower = true) : c.toNat < 128 := by
  obtain ⟨-, hlast⟩ := Bool.and_eq_true_iff.mp h
  have hle : c.toNat ≤ 'z'.toNat := UInt32.le_iff_toNat_le.mp (of_decide_eq_true hlast)
  exact Nat.lt_of_le_of_lt hle (by decide)

theorem IsClear.toNat_lt (h : IsClear c) : c.toNat < 128 :=
  toNat_lt_of_isLower h.1

theorem IsClear.undotted_eq (h : IsClear c) : undotted c = c := by
  refine of_ascii (P := fun c => IsClear c → undotted c = c) ?_ h.toNat_lt h
  decide +kernel

theorem IsClear.toUpper_cases (h : IsClear c) :
    c.toUpper.toNat < 128 ∧ c.toUpper ≠ 'S' ∧ c.toUpper ≠ '\x00' := by
  refine of_ascii (P := fun c => IsClear c → c.toUpper.toNat < 128 ∧ c.toUpper ≠ 'S' ∧
    c.toUpper ≠ '\x00') ?_ h.toNat_lt h
  decide +kernel

/-- Raising a letter leaves its lower case as it is. -/
theorem toLower_toUpper (c : Char) : c.toUpper.toLower = c.toLower := by
  have hbeyond : ∀ d : Char, 128 ≤ d.toNat → d.toUpper = d := by
    intro d hd
    unfold Char.toUpper
    rw [dif_neg]
    rintro ⟨-, hle⟩
    have hle : d.toNat ≤ 'z'.toNat := UInt32.le_iff_toNat_le.mp hle
    exact absurd (hd.trans hle) (by decide)
  refine ascii_induction (motive := fun c d => d.toLower = c.toLower) hbeyond ?_ (fun _ => rfl) c
  decide +kernel

theorem toLower_undotted (c : Char) : (undotted c).toLower = undotted c := by
  unfold undotted
  split
  · rfl
  · exact toLower_toLower c

theorem IsClear.toLower_eq (h : IsClear c) : c.toLower = c := by
  rw [← h.undotted_eq, toLower_undotted]

theorem undotted_toLower (c : Char) : undotted c.toLower = undotted c := by
  refine toLower_induction (motive := fun c d => undotted d = undotted c) ?_ (fun _ => rfl) c
  decide +kernel

/-- A letter that is taken for a clear one is one of ASCII, or the dotless `ı`. -/
theorem nearAscii_of_undotted (h : IsClear (undotted c)) : NearAscii c := by
  have hlt := h.toNat_lt
  unfold undotted at hlt
  split at hlt
  · exact .inr ‹_›
  · exact .inl ((isAscii_toLower c).mp hlt)

theorem lowerChar_of_nearAscii (h : NearAscii c) : lowerChar c = [c.toLower] := by
  rcases h with hsmall | rfl
  · have hval : c.val < 128 := UInt32.lt_iff_toNat_lt.mpr hsmall
    exact if_pos hval
  · decide +kernel

theorem upperChar_of_nearAscii (h : NearAscii c) : upperChar c = [(undotted c).toUpper] := by
  rcases h with hsmall | rfl
  · refine of_ascii (P := fun c => upperChar c = [(undotted c).toUpper]) ?_ hsmall
    decide +kernel
  · decide +kernel

/-- **Nothing beyond ASCII but the dotless `ı` is lowered to clear letters.** -/
theorem nearAscii_of_lowerChar (h : ∀ d ∈ lowerChar c, IsClear (undotted d)) : NearAscii c := by
  by_cases hascii : c.val < 128
  · exact .inl (UInt32.lt_iff_toNat_lt.mp hascii)
  have hspecials : ∀ entry ∈ lowerSpecials, ∃ m ∈ entry.2, ¬ IsClear (undotted (Char.ofNat m)) := by
    decide +kernel
  have hmap : lowerChar c = mapCase lowerRuns lowerSpecials c := if_neg hascii
  rw [hmap] at h
  rcases mapCase_cases lowerRuns lowerSpecials c with
    ⟨entry, hentry, himage⟩ | ⟨run, hrun, m, hm, himage⟩ | himage
  · obtain ⟨m, hm, hunclear⟩ := hspecials entry hentry
    exact absurd (h _ (himage ▸ List.mem_map_of_mem hm)) hunclear
  · have hclear := h _ (himage ▸ List.mem_singleton_self _)
    have hnonzero : Char.ofNat m ≠ '\x00' := fun hzero => by
      rw [hzero] at hclear
      exact absurd hclear (by decide)
    have hvalue := toNat_ofNat_of_ne_zero hnonzero
    obtain ⟨hlow, hhigh⟩ := CaseRun.le_of_shift?_eq_some hm
    rcases lowerRuns_image run hrun with hkelvin | ⟨hbeyond, hdotless⟩
    · obtain rfl : m = 'k'.toNat := by omega
      exact absurd hclear (by decide)
    · rcases nearAscii_of_undotted hclear with hsmall | hsame
      · omega
      · rw [hsame] at hvalue
        omega
  · exact nearAscii_of_undotted (h c (himage ▸ List.mem_singleton_self c))

/-- **Nothing beyond ASCII but the dotless `ı` is raised to a stretch of a word in upper case**, if
the word has no long s and no ligature in it. -/
theorem nearAscii_of_upperChar {t : List Char} (h : upperChar c <:+: t)
    (ht : ∀ d ∈ t, d.toNat < 128 ∧ d ≠ 'S' ∧ d ≠ '\x00')
    (hspecials : ∀ entry ∈ upperSpecials, ¬ entry.2.map Char.ofNat <:+: t) : NearAscii c := by
  by_cases hascii : c.val < 128
  · exact .inl (UInt32.lt_iff_toNat_lt.mp hascii)
  have hmap : upperChar c = mapCase upperRuns upperSpecials c := if_neg hascii
  rw [hmap] at h
  rcases mapCase_cases upperRuns upperSpecials c with
    ⟨entry, hentry, himage⟩ | ⟨run, hrun, m, hm, himage⟩ | himage
  · exact absurd (himage ▸ h) (hspecials entry hentry)
  · rw [himage] at h
    obtain ⟨hsmall, hlong, hnonzero⟩ := ht _ (h.subset (List.mem_singleton_self _))
    have hvalue := toNat_ofNat_of_ne_zero hnonzero
    obtain ⟨hlow, hhigh⟩ := CaseRun.le_of_shift?_eq_some hm
    obtain ⟨hfirst, hlast, -, -⟩ := CaseRun.shift?_eq_some hm
    rcases upperRuns_image run hrun with hdotless | hs | hbeyond
    · have hsame : c.toNat = 'ı'.toNat := by omega
      exact .inr (Char.toNat_inj.mp hsame)
    · obtain rfl : m = 'S'.toNat := by omega
      exact absurd rfl hlong
    · omega
  · rw [himage] at h
    exact .inl (ht c (h.subset (List.mem_singleton_self c))).1

end Letter

/-! ### Words -/

/-- **A word that is told in either case**: its letters are, and no ligature is raised to a stretch
of it. -/
structure IsClearWord (w : List Char) : Prop where
  /-- Its letters are. -/
  letters : ∀ d ∈ w, IsClear d
  /-- No ligature is raised to a stretch of it. -/
  ligatures : ∀ entry ∈ upperSpecials, ¬ entry.2.map Char.ofNat <:+: w.map Char.toUpper

section Word

variable {before s w : List Char}

theorem lowerAfter_of_nearAscii (h : ∀ c ∈ s, NearAscii c) :
    lowerAfter before s = s.map Char.toLower := by
  induction s generalizing before with
  | nil => rfl
  | cons c rest ih =>
    obtain ⟨hc, hrest⟩ := List.forall_mem_cons.mp h
    have hsigma : (c == 'Σ') = false := by
      refine beq_eq_false_iff_ne.mpr ?_
      rintro rfl
      exact absurd hc (by decide)
    simp only [lowerAfter, hsigma, lowerChar_of_nearAscii hc, ih hrest, Bool.false_eq_true,
      if_false, List.singleton_append, List.map_cons]

/-- Near ASCII, a text is lowered letter by letter. -/
theorem lowerList_of_nearAscii (h : ∀ c ∈ s, NearAscii c) : lowerList s = s.map Char.toLower :=
  lowerAfter_of_nearAscii h

theorem nearAscii_of_lowerAfter (h : ∀ d ∈ lowerAfter before s, IsClear (undotted d)) :
    ∀ c ∈ s, NearAscii c := by
  induction s generalizing before with
  | nil => nofun
  | cons c rest ih =>
    simp only [lowerAfter, List.forall_mem_append] at h
    obtain ⟨hc, hrest⟩ := h
    refine List.forall_mem_cons.mpr ⟨?_, ih hrest⟩
    split at hc
    · -- The two forms of sigma are not clear.
      split at hc
      · exact absurd (hc _ (List.mem_singleton_self _)) (by decide)
      · exact absurd (hc _ (List.mem_singleton_self _)) (by decide)
    · exact nearAscii_of_lowerChar hc

theorem map_undotted_map_toLower (s : List Char) :
    (s.map Char.toLower).map undotted = s.map undotted := by
  rw [List.map_map]
  exact List.map_congr_left fun c _ => undotted_toLower c

theorem nearAscii_of_map_undotted (hw : ∀ d ∈ w, IsClear d) (h : s.map undotted = w) :
    ∀ c ∈ s, NearAscii c :=
  fun _ hc => nearAscii_of_undotted (hw _ (h ▸ List.mem_map_of_mem hc))

/-- **Lowering a text does not change the letters that are taken for those of a clear word.** -/
theorem map_undotted_lowerList (hw : ∀ d ∈ w, IsClear d) :
    (lowerList s).map undotted = w ↔ s.map undotted = w := by
  have hlower : (∀ c ∈ s, NearAscii c) → (lowerList s).map undotted = s.map undotted := fun h => by
    rw [lowerList_of_nearAscii h, map_undotted_map_toLower]
  constructor
  · intro h
    have hnear : ∀ c ∈ s, NearAscii c :=
      nearAscii_of_lowerAfter fun d hd => hw _ (h ▸ List.mem_map_of_mem hd)
    rw [← hlower hnear, h]
  · intro h
    rw [hlower (nearAscii_of_map_undotted hw h), h]

theorem map_undotted_of_clear (hw : ∀ d ∈ w, IsClear d) : w.map undotted = w :=
  (List.map_congr_left fun d hd => (hw d hd).undotted_eq).trans (List.map_id _)

theorem map_toLower_of_clear (hw : ∀ d ∈ w, IsClear d) : w.map Char.toLower = w :=
  (List.map_congr_left fun d hd => (hw d hd).toLower_eq).trans (List.map_id _)

/-- **In lower case a clear word is told by its letters in either case.** -/
theorem lowerList_eq_iff (hw : ∀ d ∈ w, IsClear d) : lowerList s = w ↔ s.map Char.toLower = w := by
  -- Either way the letters are taken for those of the word, and then they are near ASCII.
  have hnear : s.map undotted = w → lowerList s = s.map Char.toLower := fun h =>
    lowerList_of_nearAscii (nearAscii_of_map_undotted hw h)
  constructor
  · intro h
    rw [← hnear ((map_undotted_lowerList hw).mp (by rw [h, map_undotted_of_clear hw])), h]
  · intro h
    rw [hnear (by rw [← map_undotted_map_toLower, h, map_undotted_of_clear hw]), h]

theorem flatMap_upperChar_of_nearAscii (h : ∀ c ∈ s, NearAscii c) :
    s.flatMap upperChar = (s.map undotted).map Char.toUpper := by
  induction s with
  | nil => rfl
  | cons c rest ih =>
    obtain ⟨hc, hrest⟩ := List.forall_mem_cons.mp h
    rw [List.flatMap_cons, upperChar_of_nearAscii hc, ih hrest]
    rfl

/-- Small letters come back when they are raised and lowered. -/
theorem map_toLower_map_toUpper (h : ∀ c ∈ s, c.toLower = c) :
    (s.map Char.toUpper).map Char.toLower = s := by
  rw [List.map_map]
  exact (List.map_congr_left fun c hc => (toLower_toUpper c).trans (h c hc)).trans (List.map_id _)

/-- **In upper case a clear word is told by its letters in either case, and by dotless ones.** -/
theorem flatMap_upperChar_eq_iff (hw : IsClearWord w) :
    s.flatMap upperChar = w.map Char.toUpper ↔ s.map undotted = w := by
  constructor
  · intro h
    have hraised : ∀ d ∈ w.map Char.toUpper, d.toNat < 128 ∧ d ≠ 'S' ∧ d ≠ '\x00' := by
      intro d hd
      obtain ⟨e, he, rfl⟩ := List.mem_map.mp hd
      exact (hw.letters e he).toUpper_cases
    -- Each letter is raised to a stretch of the word in upper case.
    have hnear : ∀ c ∈ s, NearAscii c := fun c hc =>
      nearAscii_of_upperChar (h ▸ List.infix_flatMap_of_mem hc upperChar) hraised hw.ligatures
    have hsmall : ∀ c ∈ s.map undotted, c.toLower = c := by
      intro c hc
      obtain ⟨d, -, rfl⟩ := List.mem_map.mp hc
      exact toLower_undotted d
    have hword : ∀ d ∈ w, d.toLower = d := fun d hd => (hw.letters d hd).toLower_eq
    rw [flatMap_upperChar_of_nearAscii hnear] at h
    rw [← map_toLower_map_toUpper hsmall, h, map_toLower_map_toUpper hword]
  · intro h
    rw [flatMap_upperChar_of_nearAscii (nearAscii_of_map_undotted hw.letters h), h]

end Word

end LintBridge.Text
