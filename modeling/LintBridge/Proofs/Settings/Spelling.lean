import LintBridge.Proofs.Text.Lower
import LintBridge.Settings

/-!
# The one spelling of a key

A key is spelled with underscores and in lower case before anything is looked up under it. **A key
that is spelled so already stays as it is** (`LintBridge.Settings.normalizeKey_normalizeKey`): it
has no hyphens, no capital letters, and nothing else that lowering would change.
-/

namespace LintBridge.Settings

open Text (IsLowered)

theorem isUpper_eq_false_of_isLowered {c : Char} (h : IsLowered c) : c.isUpper = false := by
  by_cases hc : c.toNat < 128
  · refine Text.of_ascii (P := fun c => IsLowered c → c.isUpper = false) ?_ hc h
    decide +kernel
  · refine Bool.eq_false_iff.mpr fun hupper => hc ?_
    have hle : c.toNat ≤ 'Z'.toNat := UInt32.le_iff_toNat_le.mp (of_decide_eq_true hupper).2
    exact Nat.lt_of_le_of_lt hle (by decide)

/-- Nothing is put between letters none of which is a capital. -/
theorem separateCapitals_of_isLowered {cs : List Char} (h : ∀ c ∈ cs, IsLowered c) :
    separateCapitals cs = cs := by
  cases cs with
  | nil => rfl
  | cons c rest =>
    have hkeep : ∀ d ∈ rest, (if d.isUpper then ['_', d] else [d]) = [d] := fun d hd => by
      rw [isUpper_eq_false_of_isLowered (h d (List.mem_cons_of_mem _ hd))]
      rfl
    rw [separateCapitals, List.flatMap_congr hkeep, List.flatMap_singleton']

/-- A key without hyphens and in lower case is spelled as it is. -/
theorem normalizeKey_of_isLowered {key : String} (hhyphen : '-' ∉ key.toList)
    (h : ∀ c ∈ key.toList, IsLowered c) : normalizeKey key = key := by
  have hkeep : ∀ c ∈ key.toList, (if c == '-' then '_' else c) = c := fun c hc => by
    have hne : c ≠ '-' := fun heq => hhyphen (heq ▸ hc)
    simp [hne]
  have hspaced : (key.toList.map fun c => if c == '-' then '_' else c) = key.toList :=
    (List.map_congr_left hkeep).trans (List.map_id _)
  unfold normalizeKey
  dsimp only
  rw [hspaced, separateCapitals_of_isLowered h, Text.lowerList_of_isLowered h, String.ofList_toList]

/-- No hyphen is left once each has become an underscore. -/
theorem hyphen_not_mem_separateCapitals {cs : List Char} (h : '-' ∉ cs) :
    '-' ∉ separateCapitals cs := by
  cases cs with
  | nil => exact h
  | cons c rest =>
    obtain ⟨hc, hrest⟩ := List.forall_mem_cons.mp fun d hd (heq : d = '-') => h (heq ▸ hd)
    simp only [separateCapitals, List.mem_cons, List.mem_flatMap, not_or, not_exists, not_and]
    refine ⟨Ne.symm hc, fun d hd => ?_⟩
    have hne := hrest d hd
    split
    · simp [Ne.symm hne]
    · simp [Ne.symm hne]

/-- **A key that is in its one spelling stays as it is.** -/
theorem normalizeKey_normalizeKey (key : String) :
    normalizeKey (normalizeKey key) = normalizeKey key := by
  refine normalizeKey_of_isLowered (fun hhyphen => ?_) fun c hc => ?_
  · rw [normalizeKey, String.toList_ofList] at hhyphen
    refine hyphen_not_mem_separateCapitals ?_ (Text.mem_of_hyphen_mem_lowerList hhyphen)
    intro hmem
    obtain ⟨c, -, hc⟩ := List.mem_map.mp hmem
    split at hc
    · exact absurd hc (by decide)
    · rename_i hne
      exact hne (beq_iff_eq.mpr hc)
  · rw [normalizeKey, String.toList_ofList] at hc
    exact Text.isLowered_of_mem_lowerList hc

end LintBridge.Settings
