import LintBridge.Proofs.Json.CodePoints
import LintBridge.Proofs.Response.Origin

/-!
# Malformed items, and what the others tell

Four kinds of arrays are gone through when a document is decoded: the errors of a flat list, the
entries of a group, the groups, and the places that an entry is related to. Each has its own rule
for the items that are passed over. **Every other item contributes one part of the result**, in
order.

* `LintBridge.Response.Unplaced`, `LintBridge.Response.Mute`, `LintBridge.Response.Nameless` – the
  items that are passed over;
* `LintBridge.Response.Contribute` – a result that each of the others contributes one part of;
* `LintBridge.Response.Tells` – what a document tells, item by item;
* `LintBridge.Response.decode_eq_decoded_iff_tells` – that is what its decoder comes to.
-/

namespace LintBridge.Response

open Json (Value CodePoints)

/-! ### The items that are passed over -/

/-- **A value is of no use as a text**: it is null or missing, it is no scalar, or it is blank. -/
inductive Unusable : Value → Prop where
  /-- It is null, which is what is found in the place of a field that is missing. -/
  | null : Unusable .null
  /-- It is an array. -/
  | array (items : List Value) : Unusable (.array items)
  /-- It is an object. -/
  | object (fields : Fields) : Unusable (.object fields)
  /-- It is a blank text. -/
  | blank {t : CodePoints} (blank : t.isAllBlank = true) : Unusable (.string t)

/-- **A malformed place elsewhere**: it is not an object, or has no usable location. -/
inductive Unplaced : Value → Prop where
  /-- It is not an object. -/
  | notObject {v : Value} (object : ∀ item, v ≠ .object item) : Unplaced v
  /-- It does not say in which file the place is. -/
  | noUri {item : Fields}
      (uri : Unusable (Json.getD (fieldsOf (Json.getD item "location")) "uri")) :
      Unplaced (.object item)

/-- **A malformed entry**: it is not an object, or has no message to show. -/
inductive Mute : Value → Prop where
  /-- It is not an object. -/
  | notObject {v : Value} (object : ∀ entry, v ≠ .object entry) : Mute v
  /-- Its message is missing, or not a text. -/
  | notText {entry : Fields} (message : ∀ t, Json.getD entry "message" ≠ .string t) :
      Mute (.object entry)
  /-- Its message is blank. -/
  | blank {entry : Fields} {t : CodePoints} (message : Json.getD entry "message" = .string t)
      (blank : t.isAllBlank = true) : Mute (.object entry)

/-- **A malformed group**: it is not an object, or names no file. -/
inductive Nameless : Value → Prop where
  /-- It is not an object. -/
  | notObject {v : Value} (object : ∀ group, v ≠ .object group) : Nameless v
  /-- Neither of the two fields names a file. -/
  | nameless {group : Fields} (uri : Unusable (Json.getD group "uri"))
      (path : Unusable (Json.getD group "path")) : Nameless (.object group)

/-! Each kind is what the function that reads items of it makes nothing of. -/

/-- The place elsewhere that an item stands for. -/
def relatedOfItem? (v : Value) : Option Related :=
  (fields? v).bind relatedItemOf?

/-- The diagnostic of an item. -/
def recordOfItem? (ctx : Context) (v : Value) : Option Record :=
  (fields? v).bind (recordOf? ctx)

/-- The group of an item. -/
def groupOfItem? (ctx : Context) (v : Value) : Option Group :=
  (fields? v).bind fun group =>
    (targetOf? group).map fun target => groupOf ctx target (Json.getD group "diagnostics")

section Item

variable {v : Value}

theorem unusable_iff : Unusable v ↔ textOf? v = none := by
  have hfilter : ∀ text : CodePoints, (some text).filter (· != []) = none ↔ text = [] := by
    intro text
    simp [Option.filter_eq_none_iff]
  have hword : ∀ s : String, Text.IsWord s →
      (some (CodePoints.ofString s)).filter (· != []) ≠ none := fun s hs h =>
    (CodePoints.isWord_ofString hs).ne_nil ((hfilter _).mp h)
  constructor
  · rintro (_ | _ | _ | hblank)
    · rfl
    · rfl
    · rfl
    · exact (hfilter _).mpr (CodePoints.strip_eq_nil_iff.mpr hblank)
  · intro h
    cases v with
    | null => exact .null
    | array items => exact .array items
    | object fields => exact .object fields
    | bool b => cases b <;> cases h
    | int n => exact absurd h (hword _ (Text.isWord_of_int n))
    | float x => exact absurd h (hword _ (Text.isWord_of_float x))
    | string t => exact .blank (CodePoints.strip_eq_nil_iff.mp ((hfilter _).mp h))

/-- A kind of items that are passed over is known by those of its objects. -/
theorem bind_fields?_eq_none {α : Type} {read : Fields → Option α} {Junk : Value → Prop}
    (hother : ∀ v, (∀ fields, v ≠ .object fields) → Junk v)
    (hobject : ∀ fields, Junk (.object fields) ↔ read fields = none) :
    Junk v ↔ (fields? v).bind read = none := by
  cases v with
  | object fields => exact hobject fields
  | _ => exact iff_of_true (hother _ nofun) rfl

theorem unplaced_iff : Unplaced v ↔ relatedOfItem? v = none := by
  refine bind_fields?_eq_none (fun _ => .notObject) fun item => ?_
  rw [relatedItemOf?, Option.map_eq_none_iff, ← unusable_iff]
  constructor
  · rintro (hobject | huri)
    · exact absurd rfl (hobject item)
    · exact huri
  · exact .noUri

theorem mute_iff (ctx : Context) : Mute v ↔ recordOfItem? ctx v = none := by
  refine bind_fields?_eq_none (fun _ => .notObject) fun entry => ?_
  rw [recordOf?, Option.map_eq_none_iff, messageOf?]
  constructor
  · rintro (hobject | htext | ⟨hmessage, hblank⟩)
    · exact absurd rfl (hobject entry)
    · split
      · exact absurd ‹_› (htext _)
      · rfl
    · rw [hmessage]
      exact if_pos hblank
  · intro h
    split at h
    · rename_i t hmessage
      by_cases hblank : t.isAllBlank = true
      · exact .blank hmessage hblank
      · rw [if_neg hblank] at h
        cases h
    · exact .notText ‹_›

theorem nameless_iff (ctx : Context) : Nameless v ↔ groupOfItem? ctx v = none := by
  refine bind_fields?_eq_none (fun _ => .notObject) fun group => ?_
  rw [Option.map_eq_none_iff, targetOf?, Option.or_eq_none_iff, ← unusable_iff, ← unusable_iff]
  constructor
  · rintro (hobject | ⟨huri, hpath⟩)
    · exact absurd rfl (hobject group)
    · exact ⟨huri, hpath⟩
  · exact fun h => .nameless h.1 h.2

end Item

instance : DecidablePred Unplaced := fun _ => decidable_of_iff _ unplaced_iff.symm

instance : DecidablePred Mute := fun _ =>
  decidable_of_iff _ (mute_iff { requestedUri := "" }).symm

instance : DecidablePred Nameless := fun _ =>
  decidable_of_iff _ (nameless_iff { requestedUri := "" }).symm

/-! ### What a document tells -/

/-- The items of an array, none for other values. -/
def itemsOf : Value → List Value
  | .array items => items
  | _ => []

/-- **Each item but the malformed ones contributes one part of a result**, in order. -/
def Contribute {α : Type} (Junk : Value → Prop) [DecidablePred Junk] (Make : Value → α → Prop)
    (items : List Value) (results : List α) : Prop :=
  List.Forall₂ Make (items.filter fun v => ¬ Junk v) results

/-- An item makes a place elsewhere. -/
inductive MakesRelated : Value → Related → Prop where
  /-- It is an object with a location. -/
  | intro {item : Fields} {q : Related} (related : relatedItemOf? item = some q) :
      MakesRelated (.object item) q

/-- **An item makes a diagnostic**, to which its items for places elsewhere contribute. -/
inductive MakesRecord (ctx : Context) : Value → Record → Prop where
  /-- It is an object with a message. -/
  | intro {entry : Fields} {r : Record} (record : recordOf? ctx entry = some r)
      (related : Contribute Unplaced MakesRelated
        (itemsOf (Json.getD entry "relatedInformation")) r.related) :
      MakesRecord ctx (.object entry) r

/-- **An item makes a group**, to which its entries contribute. -/
inductive MakesGroup (ctx : Context) : Value → Group → Prop where
  /-- It is an object that names a file. -/
  | intro {group : Fields} {g : Group} (target : targetOf? group = some g.target)
      (diagnostics : Contribute Mute (MakesRecord ctx)
        (itemsOf (Json.getD group "diagnostics")) g.diagnostics) :
      MakesGroup ctx (.object group) g

/-- **What a document of each shape tells**: the groups that its items contribute. -/
inductive Tells (ctx : Context) : Shape → Value → List Group → Prop where
  /-- The entries of a flat list contribute to one group. -/
  | flat {fields : Fields} {items : List Value} {g : Group}
      (errors : Json.get? fields "errors" = some (.array items))
      (target : g.target = .ofString ctx.requestedUri)
      (diagnostics : Contribute Mute (MakesRecord { ctx with missingSeverity := .warning })
        items g.diagnostics) :
      Tells ctx .flatList (.object fields) [g]
  /-- The items of an inner document contribute groups. -/
  | inner {fields inside section_ : Fields} {text : Value} {items : List Value}
      {groups : List Group} (error : Json.get? fields "error" = some text)
      (read : innerDocument text = .ok (.object inside))
      (part : Json.getD inside "lsp" = .object section_)
      (array : Json.getD section_ "diagnostics" = .array items)
      (contribute : Contribute Nameless (MakesGroup ctx) items groups) :
      Tells ctx .nestedError (.object fields) groups
  /-- The items of an envelope contribute groups. -/
  | envelope {fields proto : Fields} {items : List Value} {groups : List Group}
      (envelope : Json.get? fields "lsp_proto" = some (.object proto))
      (array : Json.getD proto "diagnostics" = .array items)
      (contribute : Contribute Nameless (MakesGroup ctx) items groups) :
      Tells ctx .protoEnvelope (.object fields) groups

section Tells

variable {ctx : Context} {v : Value}

/-- What items contribute is what is made of them one by one. -/
theorem contribute_iff {α : Type} {Junk : Value → Prop} [DecidablePred Junk]
    {Make : Value → α → Prop} {read : Value → Option α} {items : List Value} {results : List α}
    (hjunk : ∀ v, Junk v ↔ read v = none) (hmake : ∀ v a, Make v a ↔ read v = some a) :
    Contribute Junk Make items results ↔ items.filterMap read = results := by
  unfold Contribute
  induction items generalizing results with
  | nil => simp [eq_comm]
  | cons v rest ih =>
    cases hread : read v with
    | none =>
      have hv : Junk v := (hjunk v).mpr hread
      rw [List.filter_cons_of_neg (by simpa using hv), List.filterMap_cons_none hread, ih]
    | some a =>
      have hv : ¬ Junk v := fun h => by cases hread.symm.trans ((hjunk v).mp h)
      rw [List.filter_cons_of_pos (by simpa using hv), List.filterMap_cons_some hread]
      cases results with
      | nil => simp
      | cons b results =>
        rw [List.forall₂_cons, ih, hmake, hread, List.cons.injEq, Option.some.injEq]

theorem objectsOf_eq : objectsOf v = (itemsOf v).filterMap fields? := by
  cases v <;> rfl

theorem relatedOf_eq : relatedOf v = (itemsOf v).filterMap relatedOfItem? := by
  rw [relatedOf, objectsOf_eq, List.filterMap_filterMap]
  rfl

theorem groupOf_eq (ctx : Context) (target : CodePoints) (v : Value) :
    groupOf ctx target v = ⟨target, (itemsOf v).filterMap (recordOfItem? ctx)⟩ := by
  rw [groupOf, objectsOf_eq, List.filterMap_filterMap]
  rfl

theorem groupsOf_eq (ctx : Context) (items : List Value) :
    groupsOf ctx items = items.filterMap (groupOfItem? ctx) := by
  rw [groupsOf, List.filterMap_filterMap]
  rfl

theorem makesRelated_iff {q : Related} : MakesRelated v q ↔ relatedOfItem? v = some q := by
  constructor
  · rintro ⟨hrelated⟩
    exact hrelated
  · intro h
    obtain ⟨item, hitem, hrelated⟩ := Option.bind_eq_some_iff.mp h
    cases v with
    | object fields =>
      cases hitem
      exact .intro hrelated
    | _ => cases hitem

theorem contribute_related_iff {items : List Value} {results : List Related} :
    Contribute Unplaced MakesRelated items results ↔
      items.filterMap relatedOfItem? = results :=
  contribute_iff (fun _ => unplaced_iff) fun _ _ => makesRelated_iff

theorem makesRecord_iff {r : Record} : MakesRecord ctx v r ↔ recordOfItem? ctx v = some r := by
  constructor
  · rintro ⟨hrecord, -⟩
    exact hrecord
  · intro h
    obtain ⟨entry, hentry, hrecord⟩ := Option.bind_eq_some_iff.mp h
    cases v with
    | object fields =>
      cases hentry
      refine .intro hrecord (contribute_related_iff.mpr ?_)
      rw [← relatedOf_eq]
      obtain ⟨message, -, rfl⟩ := Option.map_eq_some_iff.mp hrecord
      rfl
    | _ => cases hentry

theorem contribute_records_iff {items : List Value} {results : List Record} :
    Contribute Mute (MakesRecord ctx) items results ↔
      items.filterMap (recordOfItem? ctx) = results :=
  contribute_iff (fun _ => mute_iff ctx) fun _ _ => makesRecord_iff

theorem makesGroup_iff {g : Group} : MakesGroup ctx v g ↔ groupOfItem? ctx v = some g := by
  have hentries : ∀ group : Fields, Contribute Mute (MakesRecord ctx)
      (itemsOf (Json.getD group "diagnostics")) g.diagnostics ↔
        groupOf ctx g.target (Json.getD group "diagnostics") = g := by
    intro group
    rw [contribute_records_iff, groupOf_eq]
    exact ⟨fun h => h ▸ rfl, fun h => congrArg Group.diagnostics h⟩
  constructor
  · rintro ⟨htarget, hdiagnostics⟩
    exact Option.map_eq_some_iff.mpr ⟨_, htarget, (hentries _).mp hdiagnostics⟩
  · intro h
    obtain ⟨group, hgroup, h⟩ := Option.bind_eq_some_iff.mp h
    obtain ⟨target, htarget, rfl⟩ := Option.map_eq_some_iff.mp h
    cases v with
    | object fields =>
      cases hgroup
      exact .intro htarget ((hentries _).mpr rfl)
    | _ => cases hgroup

theorem contribute_groups_iff {items : List Value} {groups : List Group} :
    Contribute Nameless (MakesGroup ctx) items groups ↔ groupsOf ctx items = groups := by
  rw [groupsOf_eq]
  exact contribute_iff (fun _ => nameless_iff ctx) fun _ _ => makesGroup_iff

/-- **A decoder comes to the groups that a document tells.** -/
theorem decode_eq_decoded_iff_tells {shape : Shape} {groups : List Group} :
    shape.decode ctx v = .ok (.decoded groups) ↔ Tells ctx shape v groups := by
  rw [decode_eq_decoded]
  cases shape with
  | flatList =>
    rw [Shape.groups, mapError_eq_ok, flatGroups_eq_ok]
    constructor
    · rintro ⟨fields, items, rfl, herrors, rfl⟩
      refine .flat herrors rfl (contribute_records_iff.mpr ?_)
      rw [groupOf_eq]
      rfl
    · rintro ⟨herrors, htarget, hdiagnostics⟩
      refine ⟨_, _, rfl, herrors, ?_⟩
      rw [groupOf_eq, ← htarget]
      exact congrArg (fun records => [Group.mk _ records])
        (contribute_records_iff.mp hdiagnostics).symm
  | nestedError =>
    rw [Shape.groups, nestedGroups_eq_ok]
    constructor
    · rintro ⟨fields, text, inside, section_, items, rfl, herror, hread, hpart, harray, h⟩
      exact .inner herror hread hpart harray (contribute_groups_iff.mpr h.symm)
    · rintro (_ | ⟨herror, hread, hpart, harray, h⟩)
      exact ⟨_, _, _, _, _, rfl, herror, hread, hpart, harray, (contribute_groups_iff.mp h).symm⟩
  | protoEnvelope =>
    rw [Shape.groups, mapError_eq_ok, envelopeGroups_eq_ok]
    constructor
    · rintro ⟨fields, proto, items, rfl, hproto, harray, h⟩
      exact .envelope hproto harray (contribute_groups_iff.mpr h.symm)
    · rintro (_ | _ | ⟨hproto, harray, h⟩)
      exact ⟨_, _, _, rfl, hproto, harray, (contribute_groups_iff.mp h).symm⟩

end Tells

end LintBridge.Response
