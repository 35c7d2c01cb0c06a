import LintBridge.Proofs.Uri.Projection
import LintBridge.Publication

/-!
# What an editor can be told

A publication becomes a notice if the protocol of the editor has room for all of it. Nothing else
can go wrong, and nothing of a publication is left out to make room, so that one number beyond its
bound, or one place elsewhere whose file has no URI, keeps the whole set from the editor.

* `LintBridge.Range.InBounds`, `LintBridge.Position.InBounds` – the numbers are in bounds;
* `LintBridge.Record.Deliverable`, `LintBridge.Publication.Deliverable` – so is all of a diagnostic,
  and all of a publication.

`LintBridge.Publication.notice_ok_iff` says that this is exact.
-/

namespace LintBridge

/-! ### Bounds -/

/-- The line and the character of a place are numbers that the protocol has. -/
structure Position.InBounds (p : Position) : Prop where
  /-- The line is. -/
  line : p.line ≤ Publication.maxCoordinate
  /-- The character is. -/
  character : p.character ≤ Publication.maxCoordinate

/-- Both ends of a span are places that the protocol has. -/
structure Range.InBounds (r : Range) : Prop where
  /-- Its start is. -/
  start : r.start.InBounds
  /-- Its end is. -/
  stop : r.stop.InBounds

/-- A place elsewhere can be told to an editor: its file has a URI, and its span is in bounds. -/
structure Related.Deliverable (r : Related) : Prop where
  /-- The file can be written as a URI. -/
  file : Uri.Convertible r.location.uri
  /-- The span is in bounds. -/
  range : r.location.range.InBounds

/-- A diagnostic can be told to an editor, with all the places that explain it. -/
structure Record.Deliverable (r : Record) : Prop where
  /-- The places elsewhere can. -/
  related : ∀ q ∈ r.related, q.Deliverable
  /-- The span is in bounds. -/
  range : r.range.InBounds

/-- **A publication can be told to an editor.** -/
structure Publication.Deliverable (p : Publication) : Prop where
  /-- All of its diagnostics can. -/
  records : ∀ r ∈ p.records, r.Deliverable
  /-- The version, if there is one, is a number that the protocol has. -/
  version : ∀ n ∈ p.version, minVersion ≤ n ∧ n ≤ maxVersion

namespace Publication

theorem checkCoordinate_eq_ok {what : String} {n : Nat} :
    checkCoordinate what n = .ok () ↔ n ≤ maxCoordinate := by
  unfold checkCoordinate
  split
  · simp [*]
  · simp [*]

theorem checkPosition_eq_ok {p : Position} : checkPosition p = .ok () ↔ p.InBounds := by
  unfold checkPosition
  rw [bind_eq_ok]
  constructor
  · rintro ⟨⟨⟩, hline, hcharacter⟩
    exact ⟨checkCoordinate_eq_ok.mp hline, checkCoordinate_eq_ok.mp hcharacter⟩
  · rintro ⟨hline, hcharacter⟩
    exact ⟨(), checkCoordinate_eq_ok.mpr hline, checkCoordinate_eq_ok.mpr hcharacter⟩

theorem checkRange_eq_ok {r : Range} : checkRange r = .ok () ↔ r.InBounds := by
  unfold checkRange
  rw [bind_eq_ok]
  constructor
  · rintro ⟨⟨⟩, hstart, hstop⟩
    exact ⟨checkPosition_eq_ok.mp hstart, checkPosition_eq_ok.mp hstop⟩
  · rintro ⟨hstart, hstop⟩
    exact ⟨(), checkPosition_eq_ok.mpr hstart, checkPosition_eq_ok.mpr hstop⟩

theorem checkVersion_eq_ok {version : Option Int} :
    checkVersion version = .ok () ↔ ∀ n ∈ version, minVersion ≤ n ∧ n ≤ maxVersion := by
  unfold checkVersion
  cases version with
  | none => simp
  | some n =>
    dsimp only
    split
    · simp [*]
    · simp [*]

/-! ### Notices -/

theorem relatedItem_ok_iff {r : Related} : (∃ item, relatedItem r = .ok item) ↔ r.Deliverable := by
  unfold relatedItem
  simp only [bind_eq_ok, mapError_eq_ok]
  constructor
  · rintro ⟨_, uri, huri, ⟨⟩, hrange, -⟩
    exact ⟨Uri.ofTarget_ok_iff.mp ⟨uri, huri⟩, checkRange_eq_ok.mp hrange⟩
  · rintro ⟨hfile, hrange⟩
    obtain ⟨uri, huri⟩ := Uri.ofTarget_ok_iff.mpr hfile
    exact ⟨_, uri, huri, (), checkRange_eq_ok.mpr hrange, rfl⟩

theorem relatedItems_ok_iff {rs : List Related} :
    (∃ items, relatedItems rs = .ok items) ↔ ∀ r ∈ rs, r.Deliverable := by
  induction rs with
  | nil => simp [relatedItems]
  | cons r rest ih =>
    rw [List.forall_mem_cons, ← relatedItem_ok_iff, ← ih]
    simp only [relatedItems, bind_eq_ok]
    constructor
    · rintro ⟨_, item, hitem, items, hitems, -⟩
      exact ⟨⟨item, hitem⟩, items, hitems⟩
    · rintro ⟨⟨item, hitem⟩, items, hitems⟩
      exact ⟨_, item, hitem, items, hitems, rfl⟩

theorem item_ok_iff {r : Record} : (∃ i, item r = .ok i) ↔ r.Deliverable := by
  unfold item
  simp only [bind_eq_ok]
  constructor
  · rintro ⟨_, related, hrelated, ⟨⟩, hrange, -⟩
    exact ⟨relatedItems_ok_iff.mp ⟨related, hrelated⟩, checkRange_eq_ok.mp hrange⟩
  · rintro ⟨hrelated, hrange⟩
    obtain ⟨related, hrelated⟩ := relatedItems_ok_iff.mpr hrelated
    exact ⟨_, related, hrelated, (), checkRange_eq_ok.mpr hrange, rfl⟩

theorem items_ok_iff {rs : List Record} :
    (∃ is, items rs = .ok is) ↔ ∀ r ∈ rs, r.Deliverable := by
  induction rs with
  | nil => simp [items]
  | cons r rest ih =>
    rw [List.forall_mem_cons, ← item_ok_iff, ← ih]
    simp only [items, bind_eq_ok]
    constructor
    · rintro ⟨_, first, hfirst, more, hmore, -⟩
      exact ⟨⟨first, hfirst⟩, more, hmore⟩
    · rintro ⟨⟨first, hfirst⟩, more, hmore⟩
      exact ⟨_, first, hfirst, more, hmore, rfl⟩

/-- **A publication becomes a notice exactly when the editor can be told all of it.** -/
theorem notice_ok_iff {p : Publication} : (∃ n, p.notice = .ok n) ↔ p.Deliverable := by
  unfold notice
  simp only [bind_eq_ok]
  constructor
  · rintro ⟨_, diagnostics, hdiagnostics, ⟨⟩, hversion, -⟩
    exact ⟨items_ok_iff.mp ⟨diagnostics, hdiagnostics⟩, checkVersion_eq_ok.mp hversion⟩
  · rintro ⟨hrecords, hversion⟩
    obtain ⟨diagnostics, hdiagnostics⟩ := items_ok_iff.mpr hrecords
    exact ⟨_, diagnostics, hdiagnostics, (), checkVersion_eq_ok.mpr hversion, rfl⟩

theorem notice_fails_iff {p : Publication} : (∃ m, p.notice = .error m) ↔ ¬ p.Deliverable := by
  rw [← notice_ok_iff]
  cases p.notice <;> simp

end Publication

end LintBridge
