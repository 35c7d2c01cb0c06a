import LintBridge.Proofs.Schedule.Escape
import LintBridge.Session.Wire
import Mathlib.Data.List.Forall2

/-!
# What an editor is told

A notice says what the publication says, in the terms of the editor: it has an item for each
diagnostic, in the same order, and each of them holds what the diagnostic holds
(`LintBridge.Publication.Conveyed`). There is no other way out than to say nothing at all. So **a
set of diagnostics is told to the editor as a whole and without change, or not at all**.

* `LintBridge.Related.Conveyed`, `LintBridge.Record.Conveyed` – an item says what a place elsewhere
  or a diagnostic does;
* `LintBridge.Publication.notice_eq_ok` – a notice is what conveys a publication that can be
  delivered, which settles all of it;
* `LintBridge.Publication.notice_fails_iff_exists` – the numbers and the files that prevent it, one
  by one;
* `LintBridge.Publication.conveyed_or_withheld` – the main result.
-/

namespace LintBridge

open Json (Value)
open Schedule (Surroundings send)

/-! ### Saying the same -/

/-- **A place elsewhere is told as it is**, its file by URI. -/
structure Related.Conveyed (r : Related) (i : Publication.RelatedItem) : Prop where
  /-- The URI is that of the file. -/
  uri : Uri.ofTarget r.location.uri = .ok i.uri
  /-- The span is the same. -/
  range : i.range = r.location.range
  /-- The message is the same. -/
  message : i.message = r.message

/-- **A diagnostic is told as it is**, with all the places that explain it. -/
structure Record.Conveyed (r : Record) (i : Publication.Item) : Prop where
  /-- The span is the same. -/
  range : i.range = r.range
  /-- The message is the same. -/
  message : i.message = r.message
  /-- The severity is told by its number. -/
  severity : i.severity = r.severity.number
  /-- The code is the same. -/
  code : i.code = r.code
  /-- The source is the same. -/
  source : i.source = r.source
  /-- Places elsewhere are left out exactly where there are none. -/
  absent : i.related = none ↔ r.related = []
  /-- Otherwise all of them are told, in order. -/
  related : ∀ items, i.related = some items → List.Forall₂ Related.Conveyed r.related items

/-- **A publication is told as it is**: all of its diagnostics, in order. -/
structure Publication.Conveyed (p : Publication) (n : Notice) : Prop where
  /-- The document is the same. -/
  uri : n.uri = p.uri
  /-- The version is the same. -/
  version : n.version = p.version
  /-- Each diagnostic is told, and nothing else. -/
  diagnostics : List.Forall₂ Record.Conveyed p.records n.diagnostics

/-! ### All numbers at once -/

/-- The line and character numbers of a span. -/
def Range.coordinates (r : Range) : List Nat :=
  [r.start.line, r.start.character, r.stop.line, r.stop.character]

/-- The line and character numbers of a diagnostic, with those of the places that explain it. -/
def Record.coordinates (r : Record) : List Nat :=
  r.range.coordinates ++ r.related.flatMap (·.location.range.coordinates)

theorem Range.inBounds_iff {r : Range} :
    r.InBounds ↔ ∀ n ∈ r.coordinates, n ≤ Publication.maxCoordinate := by
  simp only [coordinates, List.forall_mem_cons, List.not_mem_nil, false_implies, implies_true,
    and_true]
  constructor
  · rintro ⟨⟨h₁, h₂⟩, h₃, h₄⟩
    exact ⟨h₁, h₂, h₃, h₄⟩
  · rintro ⟨h₁, h₂, h₃, h₄⟩
    exact ⟨⟨h₁, h₂⟩, h₃, h₄⟩

theorem Related.deliverable_iff {r : Related} : r.Deliverable ↔
    (∃ uri, Uri.ofTarget r.location.uri = .ok uri) ∧ r.location.range.InBounds := by
  rw [Uri.ofTarget_ok_iff]
  exact ⟨fun h => ⟨h.file, h.range⟩, fun h => ⟨h.1, h.2⟩⟩

/-- **A diagnostic can be told if none of its numbers is beyond the bound** and each place elsewhere
has a URI. -/
theorem Record.deliverable_iff {r : Record} : r.Deliverable ↔
    (∀ n ∈ r.coordinates, n ≤ Publication.maxCoordinate) ∧
      ∀ q ∈ r.related, ∃ uri, Uri.ofTarget q.location.uri = .ok uri := by
  have hnumbers : (∀ n ∈ r.coordinates, n ≤ Publication.maxCoordinate) ↔
      r.range.InBounds ∧ ∀ q ∈ r.related, q.location.range.InBounds := by
    simp only [coordinates, List.forall_mem_append, List.forall_mem_flatMap, Range.inBounds_iff]
  rw [hnumbers]
  constructor
  · rintro ⟨hrelated, hrange⟩
    exact ⟨⟨hrange, fun q hq => (hrelated q hq).range⟩,
      fun q hq => (Related.deliverable_iff.mp (hrelated q hq)).1⟩
  · rintro ⟨⟨hrange, hranges⟩, huris⟩
    exact ⟨fun q hq => Related.deliverable_iff.mpr ⟨huris q hq, hranges q hq⟩, hrange⟩

namespace Publication

/-! ### What a notice is -/

theorem relatedItem_eq_ok {r : Related} {i : RelatedItem} :
    relatedItem r = .ok i ↔ r.Deliverable ∧ r.Conveyed i := by
  unfold relatedItem
  simp only [bind_eq_ok, mapError_eq_ok]
  constructor
  · rintro ⟨uri, huri, ⟨⟩, hrange, ⟨⟩⟩
    exact ⟨Related.deliverable_iff.mpr ⟨⟨uri, huri⟩, checkRange_eq_ok.mp hrange⟩, huri, rfl, rfl⟩
  · rintro ⟨hdeliverable, huri, hrange, hmessage⟩
    refine ⟨i.uri, huri, (), checkRange_eq_ok.mpr hdeliverable.range, ?_⟩
    rw [← hrange, ← hmessage]
    rfl

theorem relatedItems_eq_mapM (rs : List Related) : relatedItems rs = rs.mapM relatedItem := by
  induction rs with
  | nil => rfl
  | cons r rest ih => rw [List.mapM_cons, ← ih, relatedItems]

theorem items_eq_mapM (rs : List Record) : items rs = rs.mapM item := by
  induction rs with
  | nil => rfl
  | cons r rest ih => rw [List.mapM_cons, ← ih, items]

theorem relatedItems_eq_ok {rs : List Related} {is : List RelatedItem} :
    relatedItems rs = .ok is ↔
      (∀ r ∈ rs, r.Deliverable) ∧ List.Forall₂ Related.Conveyed rs is := by
  rw [relatedItems_eq_mapM, mapM_eq_ok, ← List.forall₂_and_left]
  simp only [relatedItem_eq_ok]

/-- Places elsewhere that are absent rather than empty are told as they are. -/
theorem conveyed_related_iff {rs : List Related} {told : Option (List RelatedItem)} :
    (∃ is, List.Forall₂ Related.Conveyed rs is ∧
        told = if is.isEmpty then none else some is) ↔
      (told = none ↔ rs = []) ∧
        ∀ is, told = some is → List.Forall₂ Related.Conveyed rs is := by
  constructor
  · rintro ⟨is, h, rfl⟩
    cases h with
    | nil => simp
    | cons hfirst hrest =>
      refine ⟨by simp, ?_⟩
      rintro is ⟨⟩
      exact .cons hfirst hrest
  · rintro ⟨habsent, hrelated⟩
    cases told with
    | none =>
      obtain rfl := habsent.mp rfl
      exact ⟨[], .nil, rfl⟩
    | some is =>
      have h := hrelated is rfl
      refine ⟨is, h, ?_⟩
      cases h with
      | nil => exact habsent.mpr rfl
      | cons => rfl

/-- A diagnostic becomes the item that tells it as it is. -/
theorem item_eq_ok {r : Record} {i : Item} :
    item r = .ok i ↔ r.Deliverable ∧ r.Conveyed i := by
  unfold item
  simp only [bind_eq_ok, relatedItems_eq_ok]
  constructor
  · rintro ⟨is, ⟨hdeliverable, his⟩, ⟨⟩, hrange, ⟨⟩⟩
    obtain ⟨habsent, hrelated⟩ := conveyed_related_iff.mp ⟨is, his, rfl⟩
    exact ⟨⟨hdeliverable, checkRange_eq_ok.mp hrange⟩, rfl, rfl, rfl, rfl, rfl, habsent, hrelated⟩
  · rintro ⟨⟨hdeliverable, hrange⟩, h⟩
    obtain ⟨is, his, hrelated⟩ := conveyed_related_iff.mpr ⟨h.absent, h.related⟩
    refine ⟨is, ⟨hdeliverable, his⟩, (), checkRange_eq_ok.mpr hrange, ?_⟩
    rw [← hrelated, ← h.range, ← h.message, ← h.severity, ← h.code, ← h.source]
    rfl

theorem items_eq_ok {rs : List Record} {is : List Item} :
    items rs = .ok is ↔ (∀ r ∈ rs, r.Deliverable) ∧ List.Forall₂ Record.Conveyed rs is := by
  rw [items_eq_mapM, mapM_eq_ok, ← List.forall₂_and_left]
  simp only [item_eq_ok]

/-- **A notice is what conveys a publication that can be delivered.** -/
theorem notice_eq_ok {p : Publication} {n : Notice} :
    p.notice = .ok n ↔ p.Deliverable ∧ p.Conveyed n := by
  unfold notice
  simp only [bind_eq_ok, items_eq_ok]
  constructor
  · rintro ⟨diagnostics, ⟨hrecords, hitems⟩, ⟨⟩, hversion, ⟨⟩⟩
    exact ⟨⟨hrecords, checkVersion_eq_ok.mp hversion⟩, rfl, rfl, hitems⟩
  · rintro ⟨⟨hrecords, hversion⟩, huri, hsame, hitems⟩
    refine ⟨n.diagnostics, ⟨hrecords, hitems⟩, (), checkVersion_eq_ok.mpr hversion, ?_⟩
    rw [← huri, ← hsame]
    rfl

/-! ### What prevents it -/

/-- **What keeps a publication from the editor**: a number beyond the bound in one of its
diagnostics, a place elsewhere that has no URI, or a version beyond the bounds. -/
theorem notice_fails_iff_exists {p : Publication} : (∃ m, p.notice = .error m) ↔
    (∃ r ∈ p.records, (∃ n ∈ r.coordinates, maxCoordinate < n) ∨
      ∃ q ∈ r.related, ∃ e, Uri.ofTarget q.location.uri = .error e) ∨
    ∃ n ∈ p.version, n < minVersion ∨ maxVersion < n := by
  have huri : ∀ target, (∃ uri, Uri.ofTarget target = .ok uri) ↔
      ¬ ∃ e, Uri.ofTarget target = .error e := by
    intro target
    cases Uri.ofTarget target <;> simp
  have hrecord : ∀ r : Record, ¬ r.Deliverable ↔ (∃ n ∈ r.coordinates, maxCoordinate < n) ∨
      ∃ q ∈ r.related, ∃ e, Uri.ofTarget q.location.uri = .error e := by
    intro r
    rw [Record.deliverable_iff]
    simp only [huri, not_and_or, not_forall, not_not, not_le, exists_prop]
  have hdeliverable : p.Deliverable ↔ (∀ r ∈ p.records, r.Deliverable) ∧
      ∀ n ∈ p.version, minVersion ≤ n ∧ n ≤ maxVersion :=
    ⟨fun h => ⟨h.records, h.version⟩, fun h => ⟨h.1, h.2⟩⟩
  rw [notice_fails_iff, hdeliverable]
  simp only [not_and_or, not_forall, exists_prop, hrecord, Int.not_le]

/-! ### What is sent -/

/-- What the editor is sent for the effects of a schedule while a message is dealt with. -/
def sentFor (request : Session.Message) (effects : List Schedule.Effect) : List Value :=
  (effects.map Session.Effect.scheduled).filterMap (Session.Effect.answer? request)

/-- The notification of a notice. -/
def Notice.notification (n : Notice) : Value :=
  Session.notification "textDocument/publishDiagnostics" n.toJson

section Sent

variable (host : Host) (request : Session.Message) {p : Publication}

theorem send_of_notice {n : Notice} (h : p.notice = .ok n) :
    send (.editor host) p = [.published p] ∧
      sentFor request (send (.editor host) p) = [n.notification] := by
  have hdeliver : (Surroundings.editor host).deliver p = .ok () := by
    show p.notice.map _ = _
    rw [h]
    rfl
  have hsend : send (.editor host) p = [.published p] := by rw [send, hdeliver]
  rw [hsend]
  refine ⟨rfl, ?_⟩
  simp only [sentFor, Session.Effect.answer?, List.map_cons, List.map_nil, List.filterMap_cons,
    List.filterMap_nil, h, Notice.notification]

theorem send_of_mishap {m : Mishap} (h : p.notice = .error m) :
    send (.editor host) p = [.undelivered p m] ∧
      sentFor request (send (.editor host) p) = [] := by
  have hdeliver : (Surroundings.editor host).deliver p = .error m := by
    show p.notice.map _ = _
    rw [h]
    rfl
  have hsend : send (.editor host) p = [.undelivered p m] := by rw [send, hdeliver]
  rw [hsend]
  exact ⟨rfl, rfl⟩

end Sent

/-- **A set of diagnostics is told to the editor as a whole and without change, or not at all.** For
every publication,

* either it has a notice, with an item for each diagnostic in order, which holds the same span,
  message, severity, code and source, and the same places elsewhere, or none if there are none. Then
  one notification is sent, which is the notice, and no other notice conveys the publication;
* or it fails, and nothing is sent;
* it fails exactly if a line or character number of a diagnostic or of a place elsewhere is more
  than the protocol has, a place elsewhere has no URI, or the version is out of bounds. -/
theorem conveyed_or_withheld (host : Host) (request : Session.Message) (p : Publication) :
    ((∃ n, p.notice = .ok n ∧ p.Conveyed n ∧ (∀ n', p.Conveyed n' → n' = n) ∧
        send (.editor host) p = [.published p] ∧
        sentFor request (send (.editor host) p) = [n.notification]) ∨
      ∃ m, p.notice = .error m ∧ send (.editor host) p = [.undelivered p m] ∧
        sentFor request (send (.editor host) p) = []) ∧
    ((∃ m, p.notice = .error m) ↔
      (∃ r ∈ p.records, (∃ n ∈ r.coordinates, 2147483647 < n) ∨
        ∃ q ∈ r.related, ∃ e, Uri.ofTarget q.location.uri = .error e) ∨
      ∃ n ∈ p.version, n < -2147483648 ∨ 2147483647 < n) := by
  refine ⟨?_, notice_fails_iff_exists⟩
  cases hnotice : p.notice with
  | error m => exact .inr ⟨m, rfl, send_of_mishap host request hnotice⟩
  | ok n =>
    obtain ⟨hdeliverable, hconveyed⟩ := notice_eq_ok.mp hnotice
    refine .inl ⟨n, rfl, hconveyed, fun n' hn' => ?_, send_of_notice host request hnotice⟩
    exact Except.ok.inj ((notice_eq_ok.mpr ⟨hdeliverable, hn'⟩).symm.trans hnotice)

end Publication

end LintBridge
