import LintBridge.Proofs.Response.Normal
import LintBridge.Proofs.Response.Validated
import Mathlib.Data.Prod.Lex
import Mathlib.Order.Lattice

/-!
# The span of a value

A span is read from a value of any type, with a value of any type for either end. As places are
ordered by line and then by character (`LintBridge.Position.pair`), **it goes from the start to the
later of the start and the end** (`LintBridge.Response.pair_stop_rangeOf`). An end that is missing
counts as the place at the very beginning, so that this is all there is to say: the span does not
depend on an end that is not after the start, and grows with the end.

* `LintBridge.Response.startOf`, `LintBridge.Response.endOf` – the two ends as they are given;
* `LintBridge.Response.rangeOf_congr_ends` – the span depends on nothing else;
* `LintBridge.Response.span_clamped` – all of it.
-/

namespace LintBridge

open Json (Value)

/-! ### The order of places -/

/-- **A place as a pair of numbers**, the first of which counts first. -/
def Position.pair (p : Position) : ℕ ×ₗ ℕ :=
  toLex (p.line, p.character)

theorem Position.pair_injective : Function.Injective Position.pair := by
  intro p q h
  obtain ⟨hline, hcharacter⟩ := Prod.mk.inj (toLex.injective h)
  obtain ⟨line, character⟩ := p
  exact congrArg₂ Position.mk hline hcharacter

theorem Position.pair_le_iff {p q : Position} : p.pair ≤ q.pair ↔ ¬ q.Before p := by
  rw [not_before_iff]
  exact Prod.Lex.toLex_le_toLex

/-- The beginning of a document is before all other places. -/
theorem Position.pair_zero_le (p : Position) : Position.pair {} ≤ p.pair := by
  rw [pair_le_iff]
  rintro (h | ⟨-, h⟩)
  · exact Nat.not_lt_zero _ h
  · exact Nat.not_lt_zero _ h

namespace Response

/-! ### The ends of a span -/

/-- A line or a character number is that of the value, or zero if it is negative or there is none.
-/
theorem coordinate_eq_max (v : Value) : (coordinate v : ℤ) = max 0 ((intOf? v).getD 0) := by
  unfold coordinate
  cases intOf? v with
  | none => rfl
  | some n =>
    dsimp only [Option.getD_some]
    omega

/-- The start that a value gives for a span. -/
def startOf (v : Value) : Position :=
  positionOf (Json.getD (fieldsOf v) "start")

/-- The end that a value gives for a span, at the beginning of the document if it gives none. -/
def endOf (v : Value) : Position :=
  positionOf (Json.getD (fieldsOf v) "end")

theorem endOf_of_missing {v : Value} (h : Json.get? (fieldsOf v) "end" = none) : endOf v = {} := by
  unfold endOf Json.getD
  rw [h]
  rfl

section Ends

variable {start stop : Position} {v w : Value}

theorem start_spanFrom : (spanFrom start stop).start = start := by
  unfold spanFrom
  split
  · rfl
  · rfl

theorem pair_stop_spanFrom : (spanFrom start stop).stop.pair = max start.pair stop.pair := by
  unfold spanFrom
  split
  · rename_i h
    exact (max_eq_right (Position.pair_le_iff.mpr h)).symm
  · rename_i h
    exact (max_eq_left (not_le.mp (mt Position.pair_le_iff.mp h)).le).symm

theorem start_rangeOf (v : Value) : (rangeOf v).start = startOf v := by
  unfold rangeOf
  dsimp only
  split
  · exact start_spanFrom
  · exact start_spanFrom

/-- **A span ends at the later of its start and its end.** -/
theorem pair_stop_rangeOf (v : Value) :
    (rangeOf v).stop.pair = max (startOf v).pair (endOf v).pair := by
  unfold rangeOf
  dsimp only
  split
  · rename_i stop hstop
    have hend : endOf v = positionOf stop := by
      unfold endOf Json.getD
      rw [hstop]
      rfl
    rw [pair_stop_spanFrom, hend]
    rfl
  · rename_i hmissing
    rw [pair_stop_spanFrom, endOf_of_missing hmissing, max_self,
      max_eq_left (Position.pair_zero_le _)]
    rfl

theorem range_ext {r r' : Range} (hstart : r.start = r'.start)
    (hstop : r.stop.pair = r'.stop.pair) : r = r' := by
  obtain ⟨start, stop, _⟩ := r
  obtain ⟨start', stop', _⟩ := r'
  obtain rfl : start = start' := hstart
  obtain rfl : stop = stop' := Position.pair_injective hstop
  rfl

/-- **A span depends on its ends alone.** -/
theorem rangeOf_congr_ends (hstart : startOf v = startOf w) (hend : endOf v = endOf w) :
    rangeOf v = rangeOf w := by
  refine range_ext ?_ ?_
  · rw [start_rangeOf, start_rangeOf, hstart]
  · rw [pair_stop_rangeOf, pair_stop_rangeOf, hstart, hend]

/-- **An end that is not after the start may as well be left out**, and no other end may. -/
theorem rangeOf_eq_of_missing_iff (hstart : startOf v = startOf w)
    (hmissing : Json.get? (fieldsOf w) "end" = none) :
    rangeOf v = rangeOf w ↔ (endOf v).pair ≤ (startOf v).pair := by
  have hempty : (rangeOf w).stop.pair = (startOf v).pair := by
    rw [pair_stop_rangeOf, endOf_of_missing hmissing, hstart,
      max_eq_left (Position.pair_zero_le _)]
  rw [← max_eq_left_iff, ← pair_stop_rangeOf, ← hempty]
  constructor
  · intro h
    rw [h]
  · exact range_ext (by rw [start_rangeOf, start_rangeOf, hstart])

end Ends

/-- **The span of a value of any type.** Its start is the one that is given, and its end the later
of the two that are given, where a number that is missing, negative or none counts as zero. So it
passes the checks of a span, an end that is not after the start may as well be left out, and a later
end makes no shorter span. -/
theorem span_clamped :
    (∀ place : Value,
      ((positionOf place).line : ℤ) =
        max 0 ((intOf? (Json.getD (fieldsOf place) "line")).getD 0) ∧
      ((positionOf place).character : ℤ) =
        max 0 ((intOf? (Json.getD (fieldsOf place) "character")).getD 0)) ∧
    (∀ v : Value, (rangeOf v).start = startOf v ∧
      (rangeOf v).stop.pair = max (startOf v).pair (endOf v).pair ∧
      checkedRange v = .valid (rangeOf v)) ∧
    (∀ v w : Value, startOf v = startOf w → Json.get? (fieldsOf w) "end" = none →
      (rangeOf v = rangeOf w ↔ (endOf v).pair ≤ (startOf v).pair)) ∧
    ∀ v w : Value, startOf v = startOf w → (endOf v).pair ≤ (endOf w).pair →
      (rangeOf v).stop.pair ≤ (rangeOf w).stop.pair := by
  refine ⟨fun place => ⟨coordinate_eq_max _, coordinate_eq_max _⟩,
    fun v => ⟨start_rangeOf v, pair_stop_rangeOf v, checkedRange_eq v⟩,
    fun v w => rangeOf_eq_of_missing_iff, fun v w hstart hend => ?_⟩
  rw [pair_stop_rangeOf, pair_stop_rangeOf, hstart]
  exact max_le_max_left _ hend

/-- A place on a line, as a value. -/
def onLine (line : Value) : Value :=
  .object [(Json.CodePoints.ofString "line", line)]

/-- A span that starts on the third line, with an end or without. -/
def fromThird (stop : List (String × Value)) : Value :=
  .object ((("start", onLine (.ofString " 2 ")) :: stop).map fun (key, v) =>
    (Json.CodePoints.ofString key, v))

/-- An end on the second line counts for nothing, as one that is no place. -/
theorem span_clamped_backwards :
    rangeOf (fromThird [("end", onLine (.int 1))]) = rangeOf (fromThird []) ∧
      (rangeOf (fromThird [("end", .null)])).stop.pair ≤
        (rangeOf (fromThird [("end", onLine (.int 1))])).stop.pair := by
  obtain ⟨-, -, hmissing, hlater⟩ := span_clamped
  exact ⟨(hmissing _ (fromThird []) rfl rfl).mpr (by decide +kernel),
    hlater _ _ rfl (by decide +kernel)⟩

end Response

end LintBridge
