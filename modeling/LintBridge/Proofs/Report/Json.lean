import LintBridge.Proofs.Json.Bounded
import LintBridge.Proofs.Json.Written
import LintBridge.Proofs.Publication.Presentable
import LintBridge.Report

/-!
# Reports as JSON

A report is the text of an array with one object for each diagnostic. **Reading the text gives the
array back** (`LintBridge.Report.read_json`), with the surrogates of pairs joined in it, as long as
the lines and characters in it are not too long to be read. Those that a pass collects never are
(`LintBridge.Linter.isShort_of_findings`): they come from numbers in the output of the linter, which
have been read themselves.

* `LintBridge.Record.IsShort` – the lines and characters of a diagnostic are not too long.
-/

namespace LintBridge

open Text (maxDigits)
open Json (Value CodePoints Bounded Legible)

/-! ### Diagnostics with short numbers -/

/-- The line and the character of a place are not too long. -/
structure Position.IsShort (p : Position) : Prop where
  /-- The line is not. -/
  line : p.line < 10 ^ maxDigits
  /-- The character is not. -/
  character : p.character < 10 ^ maxDigits

/-- Neither end of a span is too far off. -/
structure Range.IsShort (r : Range) : Prop where
  /-- The start is not. -/
  start : r.start.IsShort
  /-- The end is not. -/
  stop : r.stop.IsShort

/-- **The lines and characters of a diagnostic are not too long.** -/
structure Record.IsShort (r : Record) : Prop where
  /-- Those of its span are not. -/
  range : r.range.IsShort
  /-- Those of the places elsewhere are not. -/
  related : ∀ q ∈ r.related, q.location.range.IsShort

/-! ### From entries to diagnostics -/

namespace Json

section Fields

variable {fields : List (CodePoints × Value)} {key : String} {v : Value}

theorem Bounded.get? (h : Bounded (.object fields)) (hv : get? fields key = some v) :
    Bounded v := by
  obtain ⟨e, he, rfl⟩ := Option.map_eq_some_iff.mp hv
  cases h with
  | object h => exact h e (List.mem_of_find?_eq_some he)

theorem Bounded.getD (h : Bounded (.object fields)) (key : String) : Bounded (getD fields key) := by
  unfold Json.getD
  cases hv : Json.get? fields key with
  | none => exact .null
  | some v => exact h.get? hv

theorem Bounded.mem {items : List Value} (h : Bounded (.array items)) (hv : v ∈ items) :
    Bounded v := by
  cases h with
  | array h => exact h v hv

end Fields

end Json

namespace Response

section Entries

variable {v : Value}

theorem bounded_fieldsOf (h : Bounded v) : Bounded (.object (fieldsOf v)) := by
  cases v with
  | object fields => exact h
  | _ => exact .object (List.forall_mem_nil _)

theorem bounded_of_mem_objectsOf (h : Bounded v) {fields : Fields}
    (hfields : fields ∈ objectsOf v) : Bounded (.object fields) := by
  cases v with
  | array items => exact h.mem (mem_filterMap_fields?.mp hfields)
  | _ => cases hfields

/-- A line or a character is not too long if the number that it is read from is within bounds. -/
theorem coordinate_lt (h : Bounded v) : coordinate v < 10 ^ maxDigits := by
  have hzero : 0 < 10 ^ maxDigits := Nat.pow_pos (by decide)
  have hint : ∀ n, intOf? v = some n → n.natAbs < 10 ^ maxDigits := by
    intro n hn
    cases h with
    | int short =>
      cases hn
      exact short
    | float range => exact Binary64.natAbs_toInt?_lt range hn
    | string t => exact Text.natAbs_readInt?_lt hn
    | _ => cases hn
  unfold coordinate
  split
  · rename_i n hn
    have hlt := hint n hn
    omega
  · exact hzero

theorem positionOf_isShort (h : Bounded v) : (positionOf v).IsShort :=
  ⟨coordinate_lt ((bounded_fieldsOf h).getD _), coordinate_lt ((bounded_fieldsOf h).getD _)⟩

theorem rangeOf_isShort (h : Bounded v) : (rangeOf v).IsShort := by
  have hspan : ∀ {start stop : Position}, start.IsShort → stop.IsShort →
      (spanFrom start stop).IsShort := by
    intro start stop hstart hstop
    unfold spanFrom
    split
    · exact ⟨hstart, hstop⟩
    · exact ⟨hstart, hstart⟩
  have hfields := bounded_fieldsOf h
  have hstart := positionOf_isShort (hfields.getD "start")
  unfold rangeOf
  dsimp only
  split
  · rename_i stop hstop
    exact hspan hstart (positionOf_isShort (hfields.get? hstop))
  · exact hspan hstart hstart

/-- **A diagnostic has short numbers if those of its entry are within bounds.** -/
theorem recordOf_isShort {ctx : Context} {entry : Fields} {r : Record}
    (h : Bounded (.object entry)) (hr : recordOf? ctx entry = some r) : r.IsShort := by
  obtain ⟨message, -, rfl⟩ := Option.map_eq_some_iff.mp hr
  refine ⟨rangeOf_isShort (h.getD _), fun q hq => ?_⟩
  obtain ⟨item, hitem, hq⟩ := List.mem_filterMap.mp hq
  obtain ⟨uri, -, rfl⟩ := Option.map_eq_some_iff.mp hq
  have hobject := bounded_of_mem_objectsOf (h.getD _) hitem
  exact rangeOf_isShort ((bounded_fieldsOf (hobject.getD _)).getD _)

theorem bounded_of_mem_lineDocuments {lines : List (List Char)} {docs : List Value}
    (h : lineDocuments lines = .ok docs) : ∀ v ∈ docs, Bounded v := by
  induction lines generalizing docs with
  | nil =>
    cases h
    exact List.forall_mem_nil _
  | cons line rest ih =>
    unfold lineDocuments at h
    split at h
    · exact ih h
    · split at h
      · rename_i v hread
        obtain ⟨docs, hdocs, rfl⟩ := map_eq_ok.mp h
        exact List.forall_mem_cons.mpr ⟨Json.bounded_of_read hread, ih hdocs⟩
      · cases h
      · exact ih h

theorem bounded_of_mem_documents {stdout : String} {docs : List Value}
    (h : documents stdout = .ok docs) : ∀ v ∈ docs, Bounded v := by
  unfold documents at h
  split at h
  · cases h
    exact List.forall_mem_nil _
  · split at h
    · rename_i v hread
      cases h
      exact List.forall_mem_singleton.mpr (Json.bounded_of_read hread)
    · cases h
    · split at h
      · cases h
      · rename_i vs _ hlines
        cases h
        exact bounded_of_mem_lineDocuments hlines
      · cases h

theorem bounded_of_innerDocument {text inner : Value} (h : Bounded text)
    (hread : innerDocument text = .ok inner) : Bounded inner := by
  unfold innerDocument at hread
  split at hread
  · split at hread
    · rename_i hdocument
      cases hread
      exact Json.bounded_of_readText hdocument
    · cases hread
    · cases hread
  · cases hread
    exact h

theorem Holds.bounded {document : Value} {items : List Value} (h : Holds document items)
    (hdocument : Bounded document) : Bounded (.array items) := by
  cases h with
  | inner object field read part array =>
    subst object
    have hinside := bounded_of_innerDocument (hdocument.get? field) read
    have hsection := part ▸ hinside.getD "lsp"
    exact array ▸ hsection.getD "diagnostics"
  | envelope object field array =>
    subst object
    exact array ▸ (hdocument.get? field).getD "diagnostics"

/-- The entries of an output have numbers within bounds. -/
theorem Reports.bounded {stdout : String} {entry : Fields} (h : Reports stdout entry) :
    Bounded (.object entry) := by
  obtain ⟨docs, hdocs, document, hdocument, entries, hlists, hentry⟩ := h
  have hbounded := bounded_of_mem_documents hdocs document hdocument
  refine bounded_of_mem_objectsOf ?_ hentry
  cases hlists with
  | flat object field =>
    subst object
    exact hbounded.get? field
  | grouped holds item list =>
    rw [list]
    exact ((holds.bounded hbounded).mem item).getD _

end Entries

end Response

/-- **What a pass collects has short numbers.** -/
theorem Linter.isShort_of_findings {s : Settings} {uri : String} {file : Path} {out : ToolOutput}
    {records : List Record} (h : (findings s uri file out).result = .ok records) :
    ∀ r ∈ records, r.IsShort := by
  intro r hr
  obtain ⟨entry, horigin⟩ := findings_origin h r hr
  obtain ⟨severity, hdecoded⟩ := horigin.decoded
  exact Response.recordOf_isShort horigin.reported.bounded hdecoded

/-! ### Reports that are read -/

section Legible

variable {depth : Nat}

theorem legible_ofOption (t : Option CodePoints) : Legible depth (.ofOption t) := by
  cases t with
  | none => exact .null depth
  | some t => exact .string depth t

theorem Position.IsShort.legible {p : Position} (h : p.IsShort) : Legible (depth + 1) p.toJson :=
  .pair (by decide) (.int depth h.line) (.int depth h.character)

theorem Range.IsShort.legible {r : Range} (h : r.IsShort) : Legible (depth + 2) r.toJson :=
  .pair (by decide) h.start.legible h.stop.legible

theorem legible_related {q : Related} (h : q.location.range.IsShort) :
    Legible (depth + 4) q.toJson :=
  .pair (by decide) (.pair (by decide) (.string _ _) h.legible) (.string _ _)

theorem Record.IsShort.legible {r : Record} (h : r.IsShort) :
    Legible (depth + 6) (r.toJsonWith fun s => .ofString s.label) := by
  refine .object (by simp) ?_
  simp only [List.map_cons, List.map_nil, List.forall_mem_cons]
  refine ⟨h.range.legible, .string _ _, .string _ _, legible_ofOption _, .string _ _, .array ?_,
    List.forall_mem_nil _⟩
  rw [List.forall_mem_map]
  exact fun q hq => legible_related (h.related q hq)

/-- **A report is the text of an array of its diagnostics**, one for each and in order. Surrogates
that make a pair are read as the character that they make. -/
theorem Report.read_json {records : List Record} (h : ∀ r ∈ records, r.IsShort) :
    Json.read (json records) = .ok (toJson records).joined := by
  refine Json.read_indented (show Legible (982 + 7 + 1) _ from .array ?_)
  rw [List.forall_mem_map]
  exact fun r hr => (h r hr).legible

end Legible

end LintBridge
