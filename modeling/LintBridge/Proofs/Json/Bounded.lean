import LintBridge.Proofs.Binary64.Range
import LintBridge.Proofs.Json.Extent
import LintBridge.Proofs.Json.Lookup
import LintBridge.Proofs.Text.Numeral

/-!
# Numbers that are read are within bounds

The reader takes integers with so many digits and no more, and rounds all other numbers to doubles.
**So no number in a document is too large to be written again** (`LintBridge.Json.bounded_of_read`,
`LintBridge.Json.bounded_of_readText`).
-/

namespace LintBridge.Json

open Text (maxDigits)

/-- **No number in a value is too large**: integers have so many digits at most, and all others are
doubles. -/
inductive Bounded : Value → Prop where
  | null : Bounded .null
  | bool (b : Bool) : Bounded (.bool b)
  | string (t : CodePoints) : Bounded (.string t)
  /-- An integer that is short enough. -/
  | int {n : Int} (short : n.natAbs < 10 ^ maxDigits) : Bounded (.int n)
  /-- A double. -/
  | float {x : Binary64} (range : x.InRange) : Bounded (.float x)
  /-- An array of such values. -/
  | array {items : List Value} (h : ∀ v ∈ items, Bounded v) : Bounded (.array items)
  /-- An object of such values. -/
  | object {entries : List (CodePoints × Value)} (h : ∀ e ∈ entries, Bounded e.2) :
    Bounded (.object entries)

section Read

variable {string : Step CodePoints} {s rest : List Char} {v : Value}

/-- What a step only ever reads is what all parts of a list are. -/
theorem Listed.forall_mem {α : Type} {part : Step α} {P : α → Prop} {close : Char} {as : List α}
    (hpart : ∀ s a rest, part s = .ok (a, rest) → P a) (h : Listed part close s as rest) :
    ∀ a ∈ as, P a := by
  induction h with
  | last read _ => exact List.forall_mem_singleton.mpr (hpart _ _ _ read)
  | more read _ _ ih => exact List.forall_mem_cons.mpr ⟨hpart _ _ _ read, ih⟩

theorem bounded_of_readNumber (h : readNumber s = .ok (v, rest)) : Bounded v := by
  have hmagnitude : ∀ {negative remaining body},
      readMagnitude negative remaining body = .ok (v, rest) → Bounded v := by
    intro negative remaining body h
    have hdigits := splitWhole_fst body
    unfold readMagnitude at h
    split at h
    · cases h
    · rename_i whole after _ hwhole
      rw [hwhole] at hdigits
      dsimp only at h
      split at h
      · split at h
        · cases h
        · rename_i hshort
          cases h
          refine .int ?_
          have hlt : Text.decimalValue whole < 10 ^ maxDigits :=
            (Text.decimalValue_lt hdigits).trans_le
              (Nat.pow_le_pow_right (by decide) (Nat.not_lt.mp hshort))
          split
          · rw [Int.natAbs_neg]
            exact hlt
          · exact hlt
      · cases h
        exact .float (Binary64.inRange_ofDecimal _ _ _)
  by_cases hs : ∃ body, s = '-' :: body
  · obtain ⟨body, rfl⟩ := hs
    rw [readNumber_minus] at h
    exact hmagnitude h
  · rw [readNumber_of_ne_minus fun body heq => hs ⟨body, heq⟩] at h
    exact hmagnitude h

theorem bounded_of_readScalar (h : readScalar string s = .ok (v, rest)) : Bounded v := by
  unfold readScalar at h
  split at h
  · obtain ⟨⟨t, rest⟩, -, h⟩ := bind_eq_ok.mp h
    cases h
    exact .string t
  all_goals first
    | exact bounded_of_readNumber h
    | cases h
  · exact .null
  · exact .bool true
  · exact .bool false
  · exact .float trivial
  · exact .float trivial
  · exact .float trivial

/-- **No number that is read is too large.** -/
theorem bounded_of_readValue {depth : Nat} (h : readValue string depth s = .ok (v, rest)) :
    Bounded v := by
  induction depth generalizing s v rest with
  | zero =>
    unfold readValue at h
    split at h
    · cases h
    · cases h
    · exact bounded_of_readScalar h
  | succ depth ih =>
    unfold readValue at h
    split at h
    · cases enclosed_of_readArray h with
      | empty => exact .array (List.forall_mem_nil _)
      | parts _ listed => exact .array (listed.forall_mem fun _ _ _ => ih)
    · cases enclosed_of_readObject h with
      | empty => exact .object (List.forall_mem_nil _)
      | parts _ listed =>
        refine .object (forall_ofEntries (listed.forall_mem fun s entry rest hentry => ?_))
        unfold readEntry at hentry
        split at hentry
        · obtain ⟨⟨key, after⟩, -, hentry⟩ := bind_eq_ok.mp hentry
          dsimp only at hentry
          split at hentry
          · obtain ⟨⟨v, after⟩, hv, hentry⟩ := bind_eq_ok.mp hentry
            cases hentry
            exact ih hv
          · cases hentry
        · cases hentry
    · exact bounded_of_readScalar h

theorem bounded_of_readDocument (h : readDocument string s = .ok v) : Bounded v := by
  unfold readDocument at h
  split at h
  · cases h
  · obtain ⟨⟨v', after⟩, hv, h⟩ := bind_eq_ok.mp h
    dsimp only at h
    split at h
    · cases h
      exact bounded_of_readValue hv
    · cases h

theorem bounded_of_read {document : String} (h : read document = .ok v) : Bounded v :=
  bounded_of_readDocument (mapError_eq_ok.mp h)

theorem bounded_of_readText {document : CodePoints} (h : readText document = .ok v) : Bounded v :=
  bounded_of_readDocument (mapError_eq_ok.mp h)

end Read

end LintBridge.Json
