import LintBridge.Proofs.Json.CodePoints
import LintBridge.Proofs.Json.Lookup
import LintBridge.Response.Entry

/-!
# The normal form of a diagnostic

Reading an entry is lenient, and what comes of it is strict: whatever an entry holds, its diagnostic
is in **normal form**. Spans are in order, the message has something to show, a code is trimmed and
not empty, and a place elsewhere names a file by such a text and has a trimmed message.

* `LintBridge.Record.IsNormal`, `LintBridge.Related.IsNormal` – the normal form;
* `LintBridge.Response.recordOf_isNormal` – **every entry that makes a diagnostic makes one in
  normal form**.
-/

namespace LintBridge

open Json (CodePoints)

/-! ### The normal form -/

/-- The start of a span is not after its end, by lines and on one line by characters. -/
def Range.IsOrdered (r : Range) : Prop :=
  r.start.line < r.stop.line ∨
    (r.start.line = r.stop.line ∧ r.start.character ≤ r.stop.character)

/-- Places are compared as pairs of numbers are. -/
theorem Position.not_before_iff {p q : Position} : ¬ q.Before p ↔
    p.line < q.line ∨ (p.line = q.line ∧ p.character ≤ q.character) := by
  unfold Position.Before
  omega

theorem Range.isOrdered (r : Range) : r.IsOrdered :=
  Position.not_before_iff.mp r.ordered

/-- A place elsewhere is in normal form. -/
structure Related.IsNormal (q : Related) : Prop where
  /-- The file is named. -/
  uri : q.location.uri.IsWord
  /-- The span is in order. -/
  range : q.location.range.IsOrdered
  /-- The message, which may be empty, has no blanks around it. -/
  message : q.message.strip = q.message

/-- **A diagnostic is in normal form.** -/
structure Record.IsNormal (r : Record) : Prop where
  /-- The span is in order. -/
  range : r.range.IsOrdered
  /-- Something in the message is not blank. -/
  message : ∃ p ∈ r.message, Text.isBlank p.toChar = false
  /-- A code is trimmed and not empty. -/
  code : ∀ code ∈ r.code, code.IsWord
  /-- The places elsewhere are in normal form. -/
  related : ∀ q ∈ r.related, q.IsNormal

namespace Response

open Json (Value)

/-! ### What entries make -/

/-- **A text that is read loosely is trimmed and not empty**, whatever it is read from. -/
theorem isWord_of_textOf? {v : Value} {text : CodePoints} (h : textOf? v = some text) :
    text.IsWord := by
  obtain ⟨htext, hne⟩ := Option.filter_eq_some_iff.mp h
  have hword : ∀ s : String, Text.IsTrimmed s → CodePoints.strip (.ofString s) = .ofString s :=
    fun s hs => by rw [CodePoints.strip_ofString, hs]
  refine ⟨by simpa using hne, ?_⟩
  cases v with
  | bool b =>
    cases htext
    exact hword _ (by cases b <;> decide)
  | int n =>
    cases htext
    exact hword _ (Text.isTrimmed_of_int n)
  | float x =>
    cases htext
    exact hword _ (Text.isTrimmed_of_float x)
  | string t =>
    cases htext
    exact CodePoints.strip_strip t
  | null | array | object => cases htext

/-- Such a text is read as it is. -/
theorem textOf?_string {t : CodePoints} (h : t.IsWord) : textOf? (.string t) = some t := by
  unfold textOf?
  dsimp only
  rw [h.trimmed]
  exact Option.filter_some_pos (by simpa using h.ne_nil)

theorem isWord_of_codeOf? {v : Value} {code : CodePoints} (h : codeOf? v = some code) :
    code.IsWord := by
  unfold codeOf? at h
  split at h
  · exact isWord_of_textOf? h
  · exact isWord_of_textOf? h

/-- A message that is missing is empty, and so trimmed. -/
theorem strip_textOf?_getD (v : Value) :
    ((textOf? v).getD []).strip = (textOf? v).getD [] := by
  cases h : textOf? v with
  | none => rfl
  | some text => exact (isWord_of_textOf? h).trimmed

theorem relatedItemOf_isNormal {item : Fields} {q : Related} (h : relatedItemOf? item = some q) :
    q.IsNormal := by
  obtain ⟨uri, huri, rfl⟩ := Option.map_eq_some_iff.mp h
  exact ⟨isWord_of_textOf? huri, Range.isOrdered _, strip_textOf?_getD _⟩

theorem relatedOf_isNormal {v : Value} : ∀ q ∈ relatedOf v, q.IsNormal := by
  intro q hq
  obtain ⟨item, -, hitem⟩ := List.mem_filterMap.mp hq
  exact relatedItemOf_isNormal hitem

/-- A text is a message if something in it is not blank. -/
theorem isAllBlank_eq_false_iff {t : CodePoints} :
    t.isAllBlank = false ↔ ∃ p ∈ t, Text.isBlank p.toChar = false := by
  unfold CodePoints.isAllBlank
  rw [List.all_eq_false]
  simp

theorem messageOf_shown {entry : Fields} {message : CodePoints}
    (h : messageOf? entry = some message) : ∃ p ∈ message, Text.isBlank p.toChar = false := by
  unfold messageOf? at h
  split at h
  · split at h
    · cases h
    · rename_i hblank
      cases h
      exact isAllBlank_eq_false_iff.mp (Bool.eq_false_iff.mpr hblank)
  · cases h

/-- **The diagnostic of an entry is in normal form, and comes from the tool of the request.** -/
theorem recordOf_isNormal {ctx : Context} {entry : Fields} {r : Record}
    (h : recordOf? ctx entry = some r) : r.IsNormal ∧ r.source = ctx.source := by
  obtain ⟨message, hmessage, rfl⟩ := Option.map_eq_some_iff.mp h
  exact ⟨⟨Range.isOrdered _, messageOf_shown hmessage, fun _ => isWord_of_codeOf?,
    relatedOf_isNormal⟩, rfl⟩

end Response

end LintBridge
