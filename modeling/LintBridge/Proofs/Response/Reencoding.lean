import LintBridge.Diagnostic.Json
import LintBridge.Proofs.Response.Normal

/-!
# Diagnostics written as entries

A diagnostic can be written as the entry that describes it in full
(`LintBridge.Record.toEntry`): the span with both its ends, the severity by number, the code as a
text. Reading such an entry puts nothing right that is right already, so that **normalising a second
time changes nothing**.

Each part is read back as it was written: a span always, a text if it is trimmed and not empty
(`LintBridge.Response.textOf?_string`), a list of places elsewhere by induction. Together they
make the diagnostics in normal form exactly those that survive, which is
`LintBridge.Response.recordOf_toEntry_iff`.
-/

namespace LintBridge

open Json (Value CodePoints)

/-- The entry that describes a diagnostic in full, but for its tool, which entries do not name. -/
def Record.toEntry (r : Record) : Value :=
  .ofFields
    [("range", r.range.toJson),
     ("message", .string r.message),
     ("severity", .int r.severity.number),
     ("code", .ofOption r.code),
     ("relatedInformation", .array (r.related.map Related.toJson))]

theorem Severity.ofValue_number (s : Severity) : Severity.ofValue (.int s.number) = s := by
  cases s <;> rfl

namespace Response

/-! ### Places and spans -/

theorem coordinate_natCast (n : Nat) : coordinate (.int n) = n :=
  Int.toNat_natCast n

theorem positionOf_toJson (p : Position) : positionOf p.toJson = p := by
  have hline : Json.getD (fieldsOf p.toJson) "line" = .int p.line := Json.getD_ofFields _ _
  have hcharacter : Json.getD (fieldsOf p.toJson) "character" = .int p.character :=
    Json.getD_ofFields _ _
  unfold positionOf
  rw [hline, hcharacter, coordinate_natCast, coordinate_natCast]

/-- Places that are in order are not touched. -/
theorem spanFrom_range (r : Range) : spanFrom r.start r.stop = r :=
  dif_pos r.ordered

theorem rangeOf_toJson (r : Range) : rangeOf r.toJson = r := by
  have hstop : Json.get? (fieldsOf r.toJson) "end" = some r.stop.toJson :=
    Json.get?_ofFields [("start", r.start.toJson), ("end", r.stop.toJson)] "end"
  have hstart : Json.getD (fieldsOf r.toJson) "start" = r.start.toJson :=
    Json.getD_ofFields _ _
  unfold rangeOf
  dsimp only
  rw [hstop, hstart]
  dsimp only
  rw [positionOf_toJson, positionOf_toJson, spanFrom_range]

/-! ### Texts -/

/-- An empty text reads as none, which counts as an empty message. -/
theorem textOf?_string_getD {t : CodePoints} (h : t.strip = t) :
    (textOf? (.string t)).getD [] = t := by
  by_cases hempty : t = []
  · subst hempty
    rfl
  · rw [textOf?_string ⟨hempty, h⟩]
    rfl

theorem codeOf?_ofOption {code : Option CodePoints} (h : ∀ text ∈ code, text.IsWord) :
    codeOf? (.ofOption code) = code := by
  cases code with
  | none => rfl
  | some text =>
    have hcode : codeOf? (.ofOption (some text)) = textOf? (.string text) := rfl
    rw [hcode, textOf?_string (h text rfl)]

/-! ### Places elsewhere -/

theorem relatedItemOf_toJson {q : Related} (h : q.IsNormal) :
    relatedItemOf? (fieldsOf q.toJson) = some q := by
  have hlocation : Json.getD (fieldsOf q.toJson) "location" = q.location.toJson :=
    Json.getD_ofFields _ _
  have hmessage : Json.getD (fieldsOf q.toJson) "message" = .string q.message :=
    Json.getD_ofFields _ _
  have huri : Json.getD (fieldsOf q.location.toJson) "uri" = .string q.location.uri :=
    Json.getD_ofFields _ _
  have hrange : Json.getD (fieldsOf q.location.toJson) "range" = q.location.range.toJson :=
    Json.getD_ofFields _ _
  unfold relatedItemOf?
  dsimp only
  rw [hlocation, hmessage, huri, hrange, textOf?_string h.uri, rangeOf_toJson,
    textOf?_string_getD h.message]
  rfl

/-- None of the places is left out, and they stay in order. -/
theorem relatedOf_toJson {related : List Related} (h : ∀ q ∈ related, q.IsNormal) :
    relatedOf (.array (related.map Related.toJson)) = related := by
  induction related with
  | nil => rfl
  | cons q rest ih =>
    obtain ⟨hq, hrest⟩ := List.forall_mem_cons.mp h
    calc relatedOf (.array ((q :: rest).map Related.toJson))
        = (fieldsOf q.toJson :: objectsOf (.array (rest.map Related.toJson))).filterMap
            relatedItemOf? := rfl
      _ = q :: relatedOf (.array (rest.map Related.toJson)) :=
          List.filterMap_cons_some (relatedItemOf_toJson hq)
      _ = q :: rest := by rw [ih hrest]

/-! ### Diagnostics -/

theorem messageOf?_toEntry {r : Record} (h : ∃ p ∈ r.message, Text.isBlank p.toChar = false) :
    messageOf? (fieldsOf r.toEntry) = some r.message := by
  have hmessage : Json.getD (fieldsOf r.toEntry) "message" = .string r.message :=
    Json.getD_ofFields _ _
  -- The message is taken as it is, with the blanks around it.
  unfold messageOf?
  rw [hmessage]
  dsimp only
  rw [isAllBlank_eq_false_iff.mpr h]
  rfl

/-- **The diagnostics that can be read back from their entries are those in normal form**, if the
request names their tool. -/
theorem recordOf_toEntry_iff {ctx : Context} {r : Record} :
    recordOf? ctx (fieldsOf r.toEntry) = some r ↔ r.IsNormal ∧ r.source = ctx.source := by
  -- Whatever is read is in normal form, be it read from this entry or from another.
  refine ⟨recordOf_isNormal, ?_⟩
  rintro ⟨hnormal, hsource⟩
  have hrange : Json.getD (fieldsOf r.toEntry) "range" = r.range.toJson := Json.getD_ofFields _ _
  have hseverity : Json.getD (fieldsOf r.toEntry) "severity" = .int r.severity.number :=
    Json.getD_ofFields _ _
  have hcode : Json.getD (fieldsOf r.toEntry) "code" = .ofOption r.code := Json.getD_ofFields _ _
  have hrelated : Json.getD (fieldsOf r.toEntry) "relatedInformation" =
      .array (r.related.map Related.toJson) := Json.getD_ofFields _ _
  unfold recordOf?
  rw [messageOf?_toEntry hnormal.message, hrange, rangeOf_toJson, hseverity, hcode,
    codeOf?_ofOption hnormal.code, hrelated, relatedOf_toJson hnormal.related, ← hsource]
  -- A severity that is written is a number, so that none is missing.
  dsimp only [Option.map_some]
  rw [Severity.ofValue_number]

/-- **Normalising a second time changes nothing.** The diagnostics in normal form, and no others,
are read back from their entries by every request that names their tool. What is read from an entry,
whatever the entry holds, is one of them, and so comes back as it is. -/
theorem recordOf_toEntry :
    (∀ (ctx : Context) (r : Record),
      recordOf? ctx (fieldsOf r.toEntry) = some r ↔ r.IsNormal ∧ r.source = ctx.source) ∧
    ∀ (ctx : Context) (entry : Fields) (r : Record), recordOf? ctx entry = some r →
      ∀ ctx' : Context, ctx'.source = r.source →
        recordOf? ctx' (fieldsOf r.toEntry) = some r := by
  refine ⟨fun ctx r => recordOf_toEntry_iff, ?_⟩
  intro ctx entry r h ctx' hsource
  obtain ⟨hnormal, -⟩ := recordOf_isNormal h
  exact recordOf_toEntry_iff.mpr ⟨hnormal, hsource.symm⟩

/-- An entry with an end before its start, a wrapped code, and a place elsewhere with blanks around
its file. -/
def looseEntry : Fields :=
  fieldsOf <| .ofFields
    [("message", .ofString " m "),
     ("range", .ofFields [("start", .ofFields [("line", .ofString " +7 ")]),
       ("end", .ofFields [("line", .int (-1))])]),
     ("code", .ofFields [("value", .ofString " E1 ")]),
     ("relatedInformation", .array [.null,
       .ofFields [("location", .ofFields [("uri", .ofString " a.py ")])]])]

/-- What is read from it. -/
def tightRecord : Record where
  range := ⟨{ line := 7 }, { line := 7 }, by decide⟩
  message := .ofString " m "
  severity := .error
  code := some (.ofString "E1")
  related := [{ location := { uri := .ofString "a.py", range := default }, message := [] }]

/-- The loose entry and the one that its diagnostic is written as make the same diagnostic. -/
theorem recordOf_toEntry_loose :
    recordOf? { requestedUri := "a" } looseEntry = some tightRecord ∧
      recordOf? { requestedUri := "b" } (fieldsOf tightRecord.toEntry) = some tightRecord := by
  have hread : recordOf? { requestedUri := "a" } looseEntry = some tightRecord := by
    decide +kernel
  exact ⟨hread, recordOf_toEntry.2 _ _ _ hread { requestedUri := "b" } rfl⟩

end Response

end LintBridge
