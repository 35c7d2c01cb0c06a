import LintBridge.Proofs.Json.Surrogate
import LintBridge.Proofs.Json.Written
import LintBridge.Proofs.Response.Alike
import LintBridge.Proofs.Response.Normal
import LintBridge.Proofs.Response.Origin

/-!
# One list of entries in three shapes

The three shapes were in use one after the other, and their decoders have nothing in common but the
reading of an entry. Still they agree: **a list of entries on the requested document makes the same
diagnostics in all of them**, if every entry comes with a severity. Without one an entry is a
warning in a flat list and has the severity of the request elsewhere, and that is all the difference
there is.

* `LintBridge.Response.Yields` – the groups that the decoder of a shape finds in a document, and
  that the decoders come to when all of them are tried;
* `LintBridge.Response.Reading` – the diagnostics of one entry in a flat list and in a group;
* `LintBridge.Response.shapes_agree` – the agreement, up to the severities that are missing.
-/

namespace LintBridge.Response

open Json (Value)

variable {ctx : Context}

/-! ### One shape and all of them -/

/-- **A decoder finds groups in a document, and they win.** They are what the document comes to when
all decoders are tried, but for groups without any diagnostic, which nobody needs; the log says
nothing. -/
structure Yields (ctx : Context) (shape : Shape) (document : Value) (groups : List Group) : Prop
    where
  /-- The decoder of the shape finds the groups. -/
  decoded : shape.decode ctx document = .ok (.decoded groups)
  /-- They are chosen. -/
  chosen : decodeDocument Shape.all ctx document =
    pure (if hasFindings groups then groups else [])

/-- Decoders that refuse a document come to no result together. -/
theorem tryShapes_of_refused {document : Value} {shapes : List Shape}
    (h : ∀ shape ∈ shapes, ∃ reason, shape.decode ctx document = .ok (.refused reason)) :
    ∃ refusals, tryShapes ctx document shapes = .ok ⟨[], false, refusals⟩ := by
  induction shapes with
  | nil => exact ⟨[], rfl⟩
  | cons shape rest ih =>
    obtain ⟨⟨reason, hshape⟩, hrest⟩ := List.forall_mem_cons.mp h
    obtain ⟨refusals, htry⟩ := ih hrest
    refine ⟨(shape.name, reason) :: refusals, ?_⟩
    rw [tryShapes_cons, hshape, htry]
    rfl

/-- A decoder that is alone in not refusing a document decides what it comes to. -/
theorem tryShapes_of_decoded {document : Value} {shapes : List Shape} {shape : Shape}
    {groups : List Group} (hnodup : shapes.Nodup) (hmem : shape ∈ shapes)
    (hshape : shape.decode ctx document = .ok (.decoded groups))
    (hothers : ∀ other ∈ shapes, other ≠ shape →
      ∃ reason, other.decode ctx document = .ok (.refused reason)) :
    ∃ refusals, tryShapes ctx document shapes =
      .ok ⟨if hasFindings groups then groups else [], true, refusals⟩ := by
  induction shapes with
  | nil => cases hmem
  | cons first rest ih =>
    obtain ⟨hfirst, hnodup⟩ := List.nodup_cons.mp hnodup
    obtain ⟨hhead, hrest⟩ := List.forall_mem_cons.mp hothers
    rw [tryShapes_cons]
    by_cases heq : first = shape
    · -- The decoders after it are only asked if it finds nothing, and refuse.
      subst heq
      obtain ⟨refusals, htry⟩ := tryShapes_of_refused fun other hother =>
        hrest other hother fun h => hfirst (h ▸ hother)
      rw [hshape, htry]
      by_cases hfound : hasFindings groups = true
      · exact ⟨[], by simp [bind, Except.bind, pure, Except.pure, hfound]⟩
      · exact ⟨refusals, by simp [bind, Except.bind, pure, Except.pure, hfound]⟩
    · obtain ⟨reason, hrefused⟩ := hhead heq
      obtain ⟨refusals, htry⟩ := ih hnodup
        ((List.mem_cons.mp hmem).resolve_left fun h => heq h.symm) hrest
      rw [hrefused, htry]
      exact ⟨(first.name, reason) :: refusals, rfl⟩

/-- The field that a document of a shape has. -/
def Shape.field : Shape → String
  | .flatList => "errors"
  | .nestedError => "error"
  | .protoEnvelope => "lsp_proto"

theorem Shape.field_injective {shape other : Shape} (h : shape.field = other.field) :
    shape = other := by
  revert h
  cases shape <;> cases other <;> decide

/-- The field is the first thing that every decoder asks for. -/
theorem groups_of_no_field {shape : Shape} {fields : Fields}
    (h : Json.get? fields shape.field = none) :
    shape.groups ctx (.object fields) = .error (.shape (.noField shape.field)) := by
  have hfield : requireField fields shape.field = .error (.noField shape.field) := by
    unfold requireField
    rw [h]
  unfold Shape.groups
  cases shape with
  | flatList =>
    have hgroups : flatGroups ctx (.object fields) = .error (.noField "errors") :=
      bind_eq_error.mpr (.inr ⟨fields, rfl, bind_eq_error.mpr (.inl hfield)⟩)
    exact mapError_eq_error.mpr ⟨_, hgroups, rfl⟩
  | nestedError =>
    have hshape : (requireField fields "error").mapError DecodeError.shape =
        .error (.shape (.noField "error")) := mapError_eq_error.mpr ⟨_, hfield, rfl⟩
    exact bind_eq_error.mpr (.inr ⟨fields, rfl, bind_eq_error.mpr (.inl hshape)⟩)
  | protoEnvelope =>
    have hgroups : envelopeGroups ctx (.object fields) = .error (.noField "lsp_proto") :=
      bind_eq_error.mpr (.inr ⟨fields, rfl, bind_eq_error.mpr (.inl hfield)⟩)
    exact mapError_eq_error.mpr ⟨_, hgroups, rfl⟩

/-- A document without the field of a shape is refused by its decoder. -/
theorem decode_of_no_field {shape : Shape} {fields : Fields}
    (h : Json.get? fields shape.field = none) :
    shape.decode ctx (.object fields) =
      .ok (.refused (ShapeError.noField shape.field).message) := by
  unfold Shape.decode
  rw [groups_of_no_field h]

theorem get?_single (name key : String) (v : Value) :
    Json.get? (fieldsOf (.ofFields [(name, v)])) key = if key = name then some v else none := by
  refine (Json.get?_ofFields [(name, v)] key).trans ?_
  by_cases h : key = name
  · simp [h]
  · rw [if_neg h, List.lookup_cons, beq_eq_false_iff_ne.mpr h]
    rfl

/-- **Of a document with one field only one decoder makes anything.** -/
theorem yields_of_groups {shape : Shape} {v : Value} {groups : List Group}
    (h : shape.groups ctx (.ofFields [(shape.field, v)]) = .ok groups) :
    Yields ctx shape (.ofFields [(shape.field, v)]) groups := by
  have hdecoded : shape.decode ctx (.ofFields [(shape.field, v)]) = .ok (.decoded groups) := by
    unfold Shape.decode
    rw [h]
  have hothers : ∀ other ∈ Shape.all, other ≠ shape →
      ∃ reason, other.decode ctx (.ofFields [(shape.field, v)]) = .ok (.refused reason) := by
    intro other _ hne
    refine ⟨_, decode_of_no_field ?_⟩
    exact (get?_single shape.field other.field v).trans
      (if_neg fun heq => hne (Shape.field_injective heq))
  have hmem : shape ∈ Shape.all := by cases shape <;> decide
  obtain ⟨refusals, htry⟩ := tryShapes_of_decoded (by decide) hmem hdecoded hothers
  -- The shape is known, so that the refusals of the others are not reported.
  exact ⟨hdecoded, decodeWith_of_ok htry⟩

/-! ### The documents -/

/-- A group about a file. -/
def groupDocument (uri : String) (entries : List Value) : Value :=
  .ofFields [("uri", .ofString uri), ("diagnostics", .array entries)]

/-- An object with the one group. -/
def groupsDocument (uri : String) (entries : List Value) : Value :=
  .ofFields [("diagnostics", .array [groupDocument uri entries])]

/-- The inner document of a nested response. -/
def innerOf (uri : String) (entries : List Value) : Value :=
  .ofFields [("lsp", groupsDocument uri entries)]

section Documents

variable {uri : String} {entries : List Value}

theorem groupsOf_groupDocument (huri : Text.IsWord uri) :
    groupsOf ctx [groupDocument uri entries] = [groupOf ctx (.ofString uri) (.array entries)] := by
  have hget := Json.getD_ofFields [("uri", .ofString uri), ("diagnostics", .array entries)]
  have htarget : targetOf? (fieldsOf (groupDocument uri entries)) = some (.ofString uri) := by
    have htext : textOf? (Json.getD (fieldsOf (groupDocument uri entries)) "uri") =
        some (.ofString uri) :=
      (congrArg textOf? (hget "uri")).trans (textOf?_string (Json.CodePoints.isWord_ofString huri))
    unfold targetOf?
    rw [htext]
    rfl
  have hentries : Json.getD (fieldsOf (groupDocument uri entries)) "diagnostics" =
      .array entries := hget "diagnostics"
  change [fieldsOf (groupDocument uri entries)].filterMap _ = _
  rw [List.filterMap_cons, htarget, hentries]
  rfl

theorem innerGroups_innerOf (huri : Text.IsWord uri) :
    innerGroups ctx (innerOf uri entries) = .ok [groupOf ctx (.ofString uri) (.array entries)] := by
  have hlsp : Json.getD (fieldsOf (innerOf uri entries)) "lsp" = groupsDocument uri entries :=
    Json.getD_ofFields _ _
  have hitems : Json.getD (fieldsOf (groupsDocument uri entries)) "diagnostics" =
      .array [groupDocument uri entries] := Json.getD_ofFields _ _
  unfold innerGroups
  simp only [bind_eq_ok, requireObject_eq_ok, requireArray_eq_ok]
  refine ⟨_, rfl, _, hlsp, _, hitems, ?_⟩
  rw [groupsOf_groupDocument huri]
  rfl

theorem groups_flatList : Shape.flatList.groups ctx (.ofFields [("errors", .array entries)]) =
    .ok [groupOf { ctx with missingSeverity := .warning } (.ofString ctx.requestedUri)
      (.array entries)] := by
  have hfield : Json.get? (fieldsOf (.ofFields [("errors", .array entries)])) "errors" =
      some (.array entries) := get?_single _ _ _
  unfold Shape.groups
  exact mapError_eq_ok.mpr (flatGroups_eq_ok.mpr ⟨_, _, rfl, hfield, rfl⟩)

/-- The groups of a nested response are those of the document in its field. -/
theorem groups_nestedError {v inner : Value} {groups : List Group}
    (hinner : innerDocument v = .ok inner) (hgroups : innerGroups ctx inner = .ok groups) :
    Shape.nestedError.groups ctx (.ofFields [("error", v)]) = .ok groups := by
  have hfield : Json.get? (fieldsOf (.ofFields [("error", v)])) "error" = some v :=
    get?_single _ _ _
  unfold Shape.groups nestedGroups
  simp only [bind_eq_ok, mapError_eq_ok, requireObject_eq_ok, requireField_eq_ok]
  exact ⟨_, rfl, v, hfield, inner, hinner, hgroups⟩

theorem groups_protoEnvelope (huri : Text.IsWord uri) :
    Shape.protoEnvelope.groups ctx (.ofFields [("lsp_proto", groupsDocument uri entries)]) =
      .ok [groupOf ctx (.ofString uri) (.array entries)] := by
  have hproto : Json.get? (fieldsOf (.ofFields [("lsp_proto", groupsDocument uri entries)]))
      "lsp_proto" = some (groupsDocument uri entries) := get?_single _ _ _
  have hitems : Json.getD (fieldsOf (groupsDocument uri entries)) "diagnostics" =
      .array [groupDocument uri entries] := Json.getD_ofFields _ _
  unfold Shape.groups envelopeGroups
  simp only [bind_eq_ok, mapError_eq_ok, requireObject_eq_ok, requireField_eq_ok,
    requireArray_eq_ok]
  refine ⟨_, rfl, _, hproto, _, rfl, _, hitems, ?_⟩
  rw [groupsOf_groupDocument huri]
  rfl

end Documents

/-! ### Missing severities -/

/-- The two diagnostics of one entry. -/
structure Reading where
  /-- The entry. -/
  entry : Fields
  /-- Its diagnostic in a flat list. -/
  flat : Record
  /-- Its diagnostic in a group. -/
  grouped : Record

/-- **The two diagnostics of an entry differ in nothing but a severity that is missing.** -/
structure Reading.Agrees (ctx : Context) (x : Reading) : Prop where
  /-- That in the group is what the request makes of the entry. -/
  read : recordOf? ctx x.entry = some x.grouped
  /-- They are the same if the entry comes with a severity. -/
  given : Json.getD x.entry "severity" ≠ .null → x.flat = x.grouped
  /-- If it does not, that in the group has the severity of the request, and that in the flat list
  is the same as a warning. -/
  missing : Json.getD x.entry "severity" = .null →
    x.grouped.severity = ctx.missingSeverity ∧ x.flat = { x.grouped with severity := .warning }

/-- What another request makes of an entry that differs in the severity for those without one. -/
theorem recordOf?_missing (severity : Severity) (entry : Fields) :
    recordOf? { ctx with missingSeverity := severity } entry = (recordOf? ctx entry).map fun r =>
      { r with severity := severityOr severity (Json.getD entry "severity") } := by
  rw [recordOf?_eq, recordOf?_eq, Option.map_map]
  rfl

theorem severity_of_recordOf? {entry : Fields} {r : Record} (h : recordOf? ctx entry = some r) :
    r.severity = severityOr ctx.missingSeverity (Json.getD entry "severity") := by
  rw [recordOf?_eq] at h
  obtain ⟨message, -, rfl⟩ := Option.map_eq_some_iff.mp h
  rfl

theorem severityOr_of_ne_null {v : Value} (h : v ≠ .null) (severity : Severity) :
    severityOr severity v = Severity.ofValue v := by
  cases v with
  | null => exact absurd rfl h
  | _ => rfl

/-- The two diagnostics of an entry, if it has a message. -/
def readingOf? (ctx : Context) (entry : Fields) : Option Reading :=
  (recordOf? ctx entry).map fun r =>
    { entry
      flat := { r with severity := severityOr .warning (Json.getD entry "severity") }
      grouped := r }

theorem readingOf?_agrees {entry : Fields} {x : Reading} (h : readingOf? ctx entry = some x) :
    x.Agrees ctx := by
  obtain ⟨r, hr, rfl⟩ := Option.map_eq_some_iff.mp h
  have hseverity := severity_of_recordOf? hr
  refine ⟨hr, ?_, ?_⟩
  · intro hgiven
    dsimp only at hgiven ⊢
    rw [severityOr_of_ne_null hgiven] at hseverity ⊢
    rw [← hseverity]
  · intro hmissing
    dsimp only at hmissing ⊢
    rw [hmissing] at hseverity ⊢
    exact ⟨hseverity, rfl⟩

section Readings

variable (ctx : Context) (entries : List Fields)

/-- The entries that are read are those with a message, in order. -/
theorem map_entry_readings : (entries.filterMap (readingOf? ctx)).map (·.entry) =
    entries.filter fun entry => (messageOf? entry).isSome := by
  rw [List.map_filterMap, ← List.filterMap_eq_filter]
  congr 1
  funext entry
  unfold readingOf?
  rw [recordOf?_eq]
  cases h : messageOf? entry with
  | none => simp [Option.guard, h]
  | some message => simp [Option.guard, h]

theorem map_flat_readings : (entries.filterMap (readingOf? ctx)).map (·.flat) =
    entries.filterMap (recordOf? { ctx with missingSeverity := .warning }) := by
  rw [List.map_filterMap]
  congr 1
  funext entry
  unfold readingOf?
  rw [recordOf?_missing .warning, Option.map_map]
  rfl

theorem map_grouped_readings : (entries.filterMap (readingOf? ctx)).map (·.grouped) =
    entries.filterMap (recordOf? ctx) := by
  rw [List.map_filterMap]
  congr 1
  funext entry
  unfold readingOf?
  rw [Option.map_map]
  exact Option.map_id'

end Readings

/-! ### The agreement -/

/-- The documents that hold a list of entries in a group, each with its shape: as a text inside a
field, as the document that is read from it, and in an envelope. -/
def groupedDocuments (uri : String) (entries : List Value) (text : Json.CodePoints)
    (inner : Value) : List (Shape × Value) :=
  [(.nestedError, .ofFields [("error", .string text)]),
   (.nestedError, .ofFields [("error", inner)]),
   (.protoEnvelope, .ofFields [("lsp_proto", groupsDocument uri entries)])]

section Agreement

variable {uri : String} {entries : List Value} {text : Json.CodePoints} {inner : Value}

theorem yields_flat (hrequested : ctx.requestedUri = uri) :
    Yields ctx .flatList (.ofFields [("errors", .array entries)])
      [groupOf { ctx with missingSeverity := .warning } (.ofString uri) (.array entries)] := by
  rw [← hrequested]
  exact yields_of_groups groups_flatList

theorem yields_grouped (huri : Text.IsWord uri)
    (hread : Json.readText text = .ok inner)
    (hinner : Alike inner (innerOf uri entries)) :
    ∀ p ∈ groupedDocuments uri entries text inner,
      Yields ctx p.1 p.2 [groupOf ctx (.ofString uri) (.array entries)] := by
  have hgroups : innerGroups ctx inner = .ok [groupOf ctx (.ofString uri) (.array entries)] :=
    (innerGroups_congr ctx hinner).trans (innerGroups_innerOf huri)
  have htext : innerDocument (.string text) = .ok inner := by
    unfold innerDocument
    dsimp only
    rw [hread]
  -- What reads like an object is one, and is not read a second time.
  have hobject : innerDocument inner = .ok inner := by
    cases hinner <;> rfl
  intro p hp
  simp only [groupedDocuments, List.mem_cons, List.not_mem_nil, or_false] at hp
  rcases hp with rfl | rfl | rfl
  · exact yields_of_groups (groups_nestedError htext hgroups)
  · exact yields_of_groups (groups_nestedError hobject hgroups)
  · exact yields_of_groups (groups_protoEnvelope huri)

/-- **The shapes agree.** A list of entries on the requested document makes the same diagnostics in
a flat list, in a nested response, be its inner document a text or not, and in an envelope, if no
entry with a message lacks a severity; and the decoders together come to the same in all of them.
Without that condition too, each entry with a message makes one diagnostic in a flat list and one in
a group, and they differ in nothing but a severity that is missing. The inner document may have its
fields in any order. -/
theorem shapes_agree (huri : Text.IsWord uri) (hrequested : ctx.requestedUri = uri)
    (hread : Json.readText text = .ok inner)
    (hinner : Alike inner (innerOf uri entries)) :
    ((∀ entry ∈ objectsOf (.array entries), (messageOf? entry).isSome →
        Json.getD entry "severity" ≠ .null) →
      ∃ groups, Yields ctx .flatList (.ofFields [("errors", .array entries)]) groups ∧
        ∀ p ∈ groupedDocuments uri entries text inner, Yields ctx p.1 p.2 groups) ∧
    ∃ readings : List Reading,
      readings.map (·.entry) =
        (objectsOf (.array entries)).filter (fun entry => (messageOf? entry).isSome) ∧
      (∀ x ∈ readings, x.Agrees ctx) ∧
      Yields ctx .flatList (.ofFields [("errors", .array entries)])
        [⟨.ofString uri, readings.map (·.flat)⟩] ∧
      ∀ p ∈ groupedDocuments uri entries text inner,
        Yields ctx p.1 p.2 [⟨.ofString uri, readings.map (·.grouped)⟩] := by
  -- One list holds both diagnostics of every entry, and each shape shows one half of it.
  let readings := (objectsOf (.array entries)).filterMap (readingOf? ctx)
  have hentries : readings.map (·.entry) =
      (objectsOf (.array entries)).filter (fun entry => (messageOf? entry).isSome) :=
    map_entry_readings ctx _
  have hagrees : ∀ x ∈ readings, x.Agrees ctx := by
    intro x hx
    obtain ⟨entry, -, hentry⟩ := List.mem_filterMap.mp hx
    exact readingOf?_agrees hentry
  have hflat : Yields ctx .flatList (.ofFields [("errors", .array entries)])
      [⟨.ofString uri, readings.map (·.flat)⟩] := by
    rw [map_flat_readings]
    exact yields_flat hrequested
  have hgrouped : ∀ p ∈ groupedDocuments uri entries text inner,
      Yields ctx p.1 p.2 [⟨.ofString uri, readings.map (·.grouped)⟩] := by
    rw [map_grouped_readings]
    exact yields_grouped huri hread hinner
  refine ⟨fun hgiven => ?_, readings, hentries, hagrees, hflat, hgrouped⟩
  -- Where no severity is missing the halves are equal.
  have hsame : readings.map (·.flat) = readings.map (·.grouped) := by
    refine List.map_congr_left fun x hx => (hagrees x hx).given ?_
    have hmem : x.entry ∈ readings.map (·.entry) := List.mem_map_of_mem hx
    rw [hentries] at hmem
    obtain ⟨hobject, hmessage⟩ := List.mem_filter.mp hmem
    exact hgiven x.entry hobject hmessage
  rw [hsame] at hflat
  exact ⟨_, hflat, hgrouped⟩

end Agreement

/-! ### A group that names its file last -/

/-- A warning. -/
def warned : Value :=
  .ofFields [("message", .ofString "m"), ("severity", .int 2)]

/-- An inner document with the warning in a group that names its file last. -/
def turned : Value :=
  .ofFields [("lsp", .ofFields [("diagnostics", .array
    [.ofFields [("diagnostics", .array [warned]), ("uri", .ofString "a")]])])]

/-- The text of the document. -/
def turnedText : Json.CodePoints :=
  .ofString (Json.compact turned)

theorem readText_turnedText : Json.readText turnedText = .ok turned := by
  have hshort : (2 : Int).natAbs < 10 ^ Text.maxDigits :=
    Nat.lt_of_lt_of_le (by decide : _ < 10 ^ 1) (Nat.pow_le_pow_right (by decide) (by decide))
  have hwarned : Json.Legible 985 warned := .pair (by decide) (.string _ _) (.int _ hshort)
  have hgroup : Json.Legible 987
      (.ofFields [("diagnostics", .array [warned]), ("uri", .ofString "a")]) :=
    .pair (by decide) (.array (List.forall_mem_singleton.mpr hwarned)) (.string _ _)
  have hturned : Json.Legible Json.maxDepth turned :=
    .single _ (.single _ (.array (List.forall_mem_singleton.mpr hgroup)))
  rw [turnedText, Json.readText_ofString, Json.read_compact hturned]
  rfl

/-- Objects with one field read alike if its values do. -/
theorem alike_single {v w : Value} (name : String) (h : Alike v w) :
    Alike (.ofFields [(name, v)]) (.ofFields [(name, w)]) := by
  have hfields : AlikeFields (fieldsOf (.ofFields [(name, v)]))
      (fieldsOf (.ofFields [(name, w)])) := by
    intro key
    rw [get?_single, get?_single]
    by_cases hkey : key = name
    · rw [if_pos hkey, if_pos hkey]
      exact .some h
    · rw [if_neg hkey, if_neg hkey]
      exact .none
  exact .object hfields

theorem alike_turned : Alike turned (innerOf "a" [warned]) := by
  refine alike_single _ (alike_single _ (.array (.cons (.object ?_) .nil)))
  exact AlikeFields.of_perm (.swap _ _ _) (by decide)

/-- The warning is the same in all four documents. -/
theorem shapes_agree_turned :
    ∃ groups, Yields { requestedUri := "a" } .flatList (.ofFields [("errors", .array [warned])])
        groups ∧
      ∀ p ∈ groupedDocuments "a" [warned] turnedText turned,
        Yields { requestedUri := "a" } p.1 p.2 groups := by
  have huri : Text.IsWord "a" := ⟨by decide, by decide⟩
  have hgiven : ∀ entry ∈ objectsOf (.array [warned]), (messageOf? entry).isSome →
      Json.getD entry "severity" ≠ .null := by
    intro entry hentry _
    obtain rfl : entry = fieldsOf warned := List.mem_singleton.mp hentry
    have hseverity : Json.getD (fieldsOf warned) "severity" = .int 2 := Json.getD_ofFields _ _
    rw [hseverity]
    nofun
  exact (shapes_agree huri rfl readText_turnedText alike_turned).1 hgiven

end LintBridge.Response
