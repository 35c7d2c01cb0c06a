import LintBridge.Diagnostic.Check
import LintBridge.Proofs.Checked
import LintBridge.Response.Entry

/-!
# Entries built through the checks

A place and a span refuse what is not well formed: negative numbers, and ends before starts
(`LintBridge.Position.ofInts`, `LintBridge.Range.between`). The reader of entries makes its
diagnostics of numbers and places that it has put right before, so that the checks have nothing to
refuse. Here a diagnostic is built with the checks in every step, **and none of them ever fails**:

* `LintBridge.Response.checkedPosition`, `LintBridge.Response.checkedRange`,
  `LintBridge.Response.checkedRelated`, `LintBridge.Response.checkedRecord?` – the reader with the
  checks;
* `LintBridge.Response.checkedRecord_eq` – they find no issue in any entry, and the diagnostic is
  the one that is read without them.
-/

namespace LintBridge

open Json (Value)

/-! ### What the checks accept -/

/-- The two integers of a place are found under their names, and neither may be negative. -/
theorem Position.ofInts_eq (line character : Int) :
    Position.ofInts line character =
      Position.mk <$> (Checked.atLeast 0 (.int line)).under (.field "line")
        <*> (Checked.atLeast 0 (.int character)).under (.field "character") := by
  have hget := Json.get?_ofFields [("line", Value.int line), ("character", .int character)]
  have hline : Json.get? (Position.ofInts.fields line character) "line" = some (.int line) :=
    (hget "line").trans rfl
  have hcharacter : Json.get? (Position.ofInts.fields line character) "character" =
      some (.int character) := (hget "character").trans rfl
  unfold Position.ofInts Checked.required
  rw [hline, hcharacter]

/-- An integer is accepted as a number exactly if it is one. -/
theorem Checked.atLeast_zero_eq_valid {n : Int} {m : Nat} :
    Checked.atLeast 0 (.int n) = .valid m ↔ n = m := by
  have hcheck : Checked.atLeast 0 (.int n) =
      if 0 ≤ n then .valid n.toNat else .refuse (.below 0) := rfl
  rw [hcheck]
  split
  · rw [Checked.valid.injEq]
    omega
  · refine iff_of_false nofun ?_
    omega

/-- **A place is made of two integers exactly if they are its numbers.** -/
theorem Position.ofInts_eq_valid_iff {line character : Int} {p : Position} :
    Position.ofInts line character = .valid p ↔
      line = p.line ∧ character = p.character := by
  rw [Position.ofInts_eq]
  constructor
  · intro h
    obtain ⟨_, c, hpartial, hcharacter, rfl⟩ := Checked.seq_eq_valid.mp h
    obtain ⟨l, hline, rfl⟩ := Checked.map_eq_valid.mp hpartial
    exact ⟨Checked.atLeast_zero_eq_valid.mp (Checked.under_eq_valid.mp hline),
      Checked.atLeast_zero_eq_valid.mp (Checked.under_eq_valid.mp hcharacter)⟩
  · rintro ⟨hline, hcharacter⟩
    have hvalid : ∀ {n : Int} {m : Nat} (selector : Selector), n = m →
        (Checked.atLeast 0 (.int n)).under selector = .valid m := fun _ h =>
      Checked.under_eq_valid.mpr (Checked.atLeast_zero_eq_valid.mpr h)
    exact Checked.seq_of_valid (Checked.map_of_valid _ (hvalid _ hline)) (hvalid _ hcharacter)

theorem Position.ofInts_natCast (line character : Nat) :
    Position.ofInts line character = .valid { line, character } :=
  Position.ofInts_eq_valid_iff.mpr ⟨rfl, rfl⟩

/-- **Two places make a span exactly if they are its ends.** -/
theorem Range.between_eq_valid_iff {start stop : Position} {r : Range} :
    Range.between start stop = .valid r ↔ start = r.start ∧ stop = r.stop := by
  unfold Range.between Range.of?
  constructor
  · intro h
    split at h
    · rename_i range hrange
      split at hrange
      · cases hrange
        cases h
        exact ⟨rfl, rfl⟩
      · cases hrange
    · cases h
  · rintro ⟨rfl, rfl⟩
    rw [dif_pos r.ordered]

namespace Response

/-! ### Reading with the checks -/

/-- The number that a line or a character is set to: that of the value, but zero if it is negative
or there is none. -/
def clamped (v : Value) : Int :=
  match intOf? v with
  | some n => if n < 0 then 0 else n
  | none => 0

/-- A place, with the checks. -/
def checkedPosition (place : Value) : Checked Position :=
  Position.ofInts (clamped (Json.getD (fieldsOf place) "line"))
    (clamped (Json.getD (fieldsOf place) "character"))

/-- A span, with the checks. An end that comes before the start is replaced by it. -/
def checkedRange (span : Value) : Checked Range :=
  (checkedPosition (Json.getD (fieldsOf span) "start")).andThen fun start =>
    (match Json.get? (fieldsOf span) "end" with
      | some stop => checkedPosition stop
      | none => .valid start).andThen fun stop =>
        Range.between start (if stop.Before start then start else stop)

/-- A place elsewhere, with the checks, if it names a file. -/
def checkedRelatedItem? (item : Fields) : Option (Checked Related) :=
  let location := fieldsOf (Json.getD item "location")
  (textOf? (Json.getD location "uri")).map fun uri =>
    (checkedRange (Json.getD location "range")).map fun range =>
      { location := { uri, range }
        message := (textOf? (Json.getD item "message")).getD [] }

/-- The places elsewhere that name a file, with the checks, up to the first that is refused. -/
def checkedRelated : List Fields → Checked (List Related)
  | [] => .valid []
  | item :: rest =>
    match checkedRelatedItem? item with
    | none => checkedRelated rest
    | some q => q.andThen fun q => (checkedRelated rest).map (q :: ·)

/-- The diagnostic of an entry, with the checks, if the entry has a message. -/
def checkedRecord? (ctx : Context) (entry : Fields) : Option (Checked Record) :=
  (messageOf? entry).map fun message =>
    (checkedRange (Json.getD entry "range")).andThen fun range =>
      (checkedRelated (objectsOf (Json.getD entry "relatedInformation"))).map fun related =>
        { range, message, related
          severity := match Json.getD entry "severity" with
            | .null => ctx.missingSeverity
            | v => Severity.ofValue v
          code := codeOf? (Json.getD entry "code")
          source := ctx.source }

/-! ### The checks have nothing to refuse -/

theorem clamped_eq (v : Value) : clamped v = coordinate v := by
  unfold clamped coordinate
  cases intOf? v with
  | none => rfl
  | some n =>
    dsimp only
    split <;> omega

theorem checkedPosition_eq (place : Value) :
    checkedPosition place = .valid (positionOf place) := by
  unfold checkedPosition
  rw [clamped_eq, clamped_eq, Position.ofInts_natCast]
  rfl

/-- A span whose end was put right is in order. -/
theorem between_eq (start stop : Position) :
    Range.between start (if stop.Before start then start else stop) =
      .valid (spanFrom start stop) := by
  refine Range.between_eq_valid_iff.mpr ?_
  -- Both sides make the same comparison, and it decides what the end is.
  unfold spanFrom
  by_cases hbefore : stop.Before start
  · rw [if_pos hbefore, dif_neg (not_not_intro hbefore)]
    exact ⟨rfl, rfl⟩
  · rw [if_neg hbefore, dif_pos hbefore]
    exact ⟨rfl, rfl⟩

theorem checkedRange_eq (span : Value) : checkedRange span = .valid (rangeOf span) := by
  unfold checkedRange rangeOf
  rw [checkedPosition_eq]
  dsimp only [Checked.andThen]
  cases Json.get? (fieldsOf span) "end" with
  | none => exact between_eq _ _
  | some stop =>
    dsimp only
    rw [checkedPosition_eq]
    exact between_eq _ _

theorem checkedRelatedItem_eq (item : Fields) :
    checkedRelatedItem? item = (relatedItemOf? item).map .valid := by
  unfold checkedRelatedItem? relatedItemOf?
  dsimp only
  rw [checkedRange_eq, Option.map_map]
  rfl

theorem checkedRelated_eq (items : List Fields) :
    checkedRelated items = .valid (items.filterMap relatedItemOf?) := by
  induction items with
  | nil => rfl
  | cons item rest ih =>
    rw [checkedRelated, checkedRelatedItem_eq, ih, List.filterMap_cons]
    cases relatedItemOf? item <;> rfl

/-- **Whatever an entry holds, no check of a place or of a span refuses it.** -/
theorem checkedRecord_eq (ctx : Context) (entry : Fields) :
    checkedRecord? ctx entry = (recordOf? ctx entry).map .valid := by
  unfold checkedRecord? recordOf?
  rw [checkedRange_eq, checkedRelated_eq, Option.map_map]
  rfl

end Response

end LintBridge
