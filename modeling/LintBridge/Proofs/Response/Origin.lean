import LintBridge.Proofs.Response.Failure

/-!
# Where a diagnostic comes from

Whatever the shapes of the documents of an output are, each of its diagnostics is made of one entry
in it, and of nothing but that entry: only the severity of an entry that has none depends on where
the entry stands.

* `LintBridge.Response.Lists` – the lists of entries of a document, in the field of a flat list or
  in a group, of which the items stand in an inner document (`LintBridge.Response.Holds`) or in an
  envelope;
* `LintBridge.Response.Reports` – the entries of an output;
* `LintBridge.Response.Origin` – the entry that a diagnostic is made of.

The main result is `LintBridge.Response.parse_origin`.
-/

namespace LintBridge.Response

open Json (Value CodePoints)

/-! ### The entries of a document -/

/-- **A document holds items that may be groups.** -/
inductive Holds (document : Value) (items : List Value) : Prop where
  /-- They stand in a document inside a field. -/
  | inner {fields inside section_ : Fields} {text : Value} (object : document = .object fields)
      (field : Json.get? fields "error" = some text)
      (read : innerDocument text = .ok (.object inside))
      (part : Json.getD inside "lsp" = .object section_)
      (array : Json.getD section_ "diagnostics" = .array items)
  /-- They stand in an object inside a field. -/
  | envelope {fields proto : Fields} (object : document = .object fields)
      (field : Json.get? fields "lsp_proto" = some (.object proto))
      (array : Json.getD proto "diagnostics" = .array items)

/-- **A document holds a list of entries.** -/
inductive Lists (document : Value) (entries : Value) : Prop where
  /-- It is the list of a document without groups. -/
  | flat {fields : Fields} (object : document = .object fields)
      (field : Json.get? fields "errors" = some entries)
  /-- It is the list of a group. -/
  | grouped {items : List Value} {group : Fields} (holds : Holds document items)
      (item : Value.object group ∈ items) (list : entries = Json.getD group "diagnostics")

/-- An output holds an entry. -/
def Reports (stdout : String) (entry : Fields) : Prop :=
  ∃ docs, documents stdout = .ok docs ∧
    ∃ document ∈ docs, ∃ entries, Lists document entries ∧ entry ∈ objectsOf entries

/-- **A diagnostic is made of an entry of an output.** -/
structure Origin (ctx : Context) (stdout : String) (entry : Fields) (r : Record) : Prop where
  /-- The output holds the entry. -/
  reported : Reports stdout entry
  /-- The diagnostic is made of it, where the shape of the document says what severity an entry has
  that comes without one. -/
  decoded : ∃ severity, recordOf? { ctx with missingSeverity := severity } entry = some r

/-! ### The groups of a shape -/

theorem requireArray_eq_ok {what : String} {v : Value} {items : List Value} :
    requireArray what v = .ok items ↔ v = .array items := by
  unfold requireArray
  cases v <;> simp

theorem mem_groupOf {ctx : Context} {target : CodePoints} {entries : Value} {r : Record} :
    r ∈ (groupOf ctx target entries).diagnostics ↔
      ∃ entry ∈ objectsOf entries, recordOf? ctx entry = some r :=
  List.mem_filterMap

theorem mem_filterMap_fields? {items : List Value} {fields : Fields} :
    fields ∈ items.filterMap fields? ↔ Value.object fields ∈ items := by
  rw [List.mem_filterMap]
  constructor
  · rintro ⟨v, hv, hfields⟩
    cases v with
    | object fields' =>
      cases hfields
      exact hv
    | _ => cases hfields
  · exact fun h => ⟨_, h, rfl⟩

/-- The group of an array of items. -/
theorem mem_groupsOf {ctx : Context} {items : List Value} {g : Group} (h : g ∈ groupsOf ctx items) :
    ∃ group target, Value.object group ∈ items ∧
      g = groupOf ctx target (Json.getD group "diagnostics") := by
  obtain ⟨group, hgroup, hmap⟩ := List.mem_filterMap.mp h
  obtain ⟨target, -, hg⟩ := Option.map_eq_some_iff.mp hmap
  exact ⟨group, target, mem_filterMap_fields?.mp hgroup, hg.symm⟩

theorem flatGroups_eq_ok {ctx : Context} {document : Value} {groups : List Group} :
    flatGroups ctx document = .ok groups ↔ ∃ fields items, document = .object fields ∧
      Json.get? fields "errors" = some (.array items) ∧
      groups = [groupOf { ctx with missingSeverity := .warning } (.ofString ctx.requestedUri)
        (.array items)] := by
  unfold flatGroups
  simp only [bind_eq_ok, requireObject_eq_ok, requireField_eq_ok, requireArray_eq_ok]
  constructor
  · rintro ⟨fields, rfl, _, hfield, items, rfl, h⟩
    exact ⟨fields, items, rfl, hfield, (Except.ok.inj h).symm⟩
  · rintro ⟨fields, items, rfl, hfield, rfl⟩
    exact ⟨fields, rfl, _, hfield, items, rfl, rfl⟩

theorem nestedGroups_eq_ok {ctx : Context} {document : Value} {groups : List Group} :
    nestedGroups ctx document = .ok groups ↔ ∃ fields text inside section_ items,
      document = .object fields ∧ Json.get? fields "error" = some text ∧
      innerDocument text = .ok (.object inside) ∧ Json.getD inside "lsp" = .object section_ ∧
      Json.getD section_ "diagnostics" = .array items ∧ groups = groupsOf ctx items := by
  unfold nestedGroups innerGroups
  simp only [bind_eq_ok, mapError_eq_ok, requireObject_eq_ok, requireField_eq_ok,
    requireArray_eq_ok]
  constructor
  · rintro ⟨fields, rfl, text, hfield, inner, hread, inside, rfl, section_, hpart, h⟩
    obtain ⟨items, harray, h⟩ := h
    exact ⟨fields, text, inside, section_, items, rfl, hfield, hread, hpart, harray,
      (Except.ok.inj h).symm⟩
  · rintro ⟨fields, text, inside, section_, items, rfl, hfield, hread, hpart, harray, rfl⟩
    exact ⟨fields, rfl, text, hfield, _, hread, inside, rfl, section_, hpart, items, harray, rfl⟩

theorem envelopeGroups_eq_ok {ctx : Context} {document : Value} {groups : List Group} :
    envelopeGroups ctx document = .ok groups ↔ ∃ fields proto items,
      document = .object fields ∧ Json.get? fields "lsp_proto" = some (.object proto) ∧
      Json.getD proto "diagnostics" = .array items ∧ groups = groupsOf ctx items := by
  unfold envelopeGroups
  simp only [bind_eq_ok, requireObject_eq_ok, requireField_eq_ok, requireArray_eq_ok]
  constructor
  · rintro ⟨fields, rfl, v, hfield, proto, rfl, items, harray, h⟩
    exact ⟨fields, proto, items, rfl, hfield, harray, (Except.ok.inj h).symm⟩
  · rintro ⟨fields, proto, items, rfl, hfield, harray, rfl⟩
    exact ⟨fields, rfl, _, hfield, proto, rfl, items, harray, rfl⟩

/-- **A group of a document has the diagnostics of one of its lists.** -/
theorem groups_origin {shape : Shape} {ctx : Context} {document : Value} {groups : List Group}
    (h : shape.groups ctx document = .ok groups) {g : Group} (hg : g ∈ groups) :
    ∃ entries target severity, Lists document entries ∧
      g = groupOf { ctx with missingSeverity := severity } target entries := by
  -- Two of the shapes differ only in where their items stand.
  have hheld : ∀ items, Holds document items → groups = groupsOf ctx items →
      ∃ entries target severity, Lists document entries ∧
        g = groupOf { ctx with missingSeverity := severity } target entries := by
    rintro items hholds rfl
    obtain ⟨group, target, hitem, hgroup⟩ := mem_groupsOf hg
    exact ⟨_, target, ctx.missingSeverity, .grouped hholds hitem rfl, hgroup⟩
  cases shape with
  | flatList =>
    obtain ⟨fields, items, hobject, hfield, rfl⟩ := flatGroups_eq_ok.mp (mapError_eq_ok.mp h)
    exact ⟨_, _, .warning, .flat hobject hfield, List.mem_singleton.mp hg⟩
  | nestedError =>
    obtain ⟨fields, text, inside, section_, items, rfl, hfield, hread, hpart, harray, hgroups⟩ :=
      nestedGroups_eq_ok.mp h
    exact hheld items (.inner rfl hfield hread hpart harray) hgroups
  | protoEnvelope =>
    obtain ⟨fields, proto, items, rfl, hfield, harray, hgroups⟩ :=
      envelopeGroups_eq_ok.mp (mapError_eq_ok.mp h)
    exact hheld items (.envelope rfl hfield harray) hgroups

/-! ### The groups of an output -/

/-- The groups that several decoders find are those of one of them. -/
theorem tryShapes_origin {ctx : Context} {document : Value} {shapes : List Shape} {found : Attempt}
    (h : tryShapes ctx document shapes = .ok found) :
    found.groups = [] ∨ ∃ shape ∈ shapes, shape.groups ctx document = .ok found.groups := by
  induction shapes generalizing found with
  | nil =>
    cases h
    exact .inl rfl
  | cons shape rest ih =>
    -- A decoder that refuses or finds nothing leaves the groups to those after it.
    have hrest : ∀ later, tryShapes ctx document rest = .ok later → later.groups = [] ∨
        ∃ shape' ∈ shape :: rest, shape'.groups ctx document = .ok later.groups := by
      intro later hlater
      rcases ih hlater with hnil | ⟨shape', hshape', hgroups⟩
      · exact .inl hnil
      · exact .inr ⟨shape', List.mem_cons_of_mem _ hshape', hgroups⟩
    rw [tryShapes_cons] at h
    obtain ⟨outcome, houtcome, h⟩ := bind_eq_ok.mp h
    cases outcome with
    | refused reason =>
      obtain ⟨later, hlater, h⟩ := bind_eq_ok.mp h
      cases h
      exact hrest later hlater
    | decoded groups =>
      dsimp only at h
      split at h
      · cases h
        exact .inr ⟨shape, List.mem_cons_self, decode_eq_decoded.mp houtcome⟩
      · obtain ⟨later, hlater, h⟩ := bind_eq_ok.mp h
        cases h
        exact hrest later hlater

/-- The groups of several documents are groups of one of them each. -/
theorem decodeDocuments_origin {shapes : List Shape} {ctx : Context} {docs : List Value}
    {groups : List Group} (h : (decodeDocuments shapes ctx docs).result = .ok groups) :
    ∀ g ∈ groups, ∃ document ∈ docs, ∃ shape ∈ shapes, ∃ found,
      shape.groups ctx document = .ok found ∧ g ∈ found := by
  induction docs generalizing groups with
  | nil =>
    cases h
    nofun
  | cons document rest ih =>
    simp only [decodeDocuments, Traced.result_bind, bind_eq_ok, result_decodeDocument] at h
    obtain ⟨first, hfirst, more, hmore, h⟩ := h
    cases h
    intro g hg
    rcases List.mem_append.mp hg with hg | hg
    · obtain ⟨found, hfound, rfl⟩ : ∃ found, tryShapes ctx document shapes = .ok found ∧
          found.groups = first := by
        cases hshapes : tryShapes ctx document shapes with
        | ok found =>
          rw [hshapes] at hfirst
          exact ⟨found, rfl, Except.ok.inj hfirst⟩
        | error m =>
          rw [hshapes] at hfirst
          cases hfirst
      rcases tryShapes_origin hfound with hnil | ⟨shape, hshape, hgroups⟩
      · rw [hnil] at hg
        cases hg
      · exact ⟨document, List.mem_cons_self, shape, hshape, _, hgroups, hg⟩
    · obtain ⟨document', hdocument, hrest⟩ := ih hmore g hg
      exact ⟨document', List.mem_cons_of_mem _ hdocument, hrest⟩

/-- **Each diagnostic of an output is made of one of its entries.** -/
theorem parse_origin {shapes : List Shape} {ctx : Context} {stdout : String} {groups : List Group}
    (h : (parse shapes ctx stdout).result = .ok groups) :
    ∀ g ∈ groups, ∀ r ∈ g.diagnostics, ∃ entry, Origin ctx stdout entry r := by
  unfold parse at h
  cases hdocs : documents stdout with
  | ok docs =>
    rw [hdocs] at h
    intro g hg r hr
    obtain ⟨document, hdocument, shape, -, found, hfound, hgroup⟩ := decodeDocuments_origin h g hg
    obtain ⟨entries, target, severity, hlists, rfl⟩ := groups_origin hfound hgroup
    obtain ⟨entry, hentry, hrecord⟩ := mem_groupOf.mp hr
    exact ⟨entry, ⟨docs, hdocs, document, hdocument, entries, hlists, hentry⟩, severity, hrecord⟩
  | error e =>
    rw [hdocs] at h
    cases e with
    | notJson whole =>
      cases h
      nofun
    | mishap m => cases h

end LintBridge.Response
