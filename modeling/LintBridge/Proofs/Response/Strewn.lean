import LintBridge.Proofs.Json.Written
import LintBridge.Proofs.Response.Alike
import LintBridge.Proofs.Response.Malformed

/-!
# Malformed items strewn into a document

**A malformed item never disturbs its neighbours.** However many items that are passed over are
strewn into the arrays of a document, wherever they are put and at all depths at once, its decoder
comes to what it came to without them.

* `LintBridge.Response.Strewn` – a list with such items strewn into it;
* `LintBridge.Response.InFields` – an object with alterations inside some of its fields;
* `LintBridge.Response.StrewnDocument` – a document with malformed items in it, put together of the
  two from the inside out;
* `LintBridge.Response.decode_strewn` – the main result.
-/

namespace LintBridge.Response

open Json (Value)

/-! ### Malformed items strewn in -/

/-- **A list with malformed items strewn into it**, where the others stay as they are or are altered
inside. -/
inductive Strewn (Junk : Value → Prop) (Inside : Value → Value → Prop) :
    List Value → List Value → Prop where
  /-- The list is at its end. -/
  | nil : Strewn Junk Inside [] []
  /-- A malformed item is put in. -/
  | junk {w : Value} {vs ws : List Value} (junk : Junk w) (rest : Strewn Junk Inside vs ws) :
      Strewn Junk Inside vs (w :: ws)
  /-- An item stays as it is. -/
  | kept {v : Value} {vs ws : List Value} (rest : Strewn Junk Inside vs ws) :
      Strewn Junk Inside (v :: vs) (v :: ws)
  /-- An item is altered inside. -/
  | altered {v w : Value} {vs ws : List Value} (item : Inside v w)
      (rest : Strewn Junk Inside vs ws) : Strewn Junk Inside (v :: vs) (w :: ws)

/-- An array with malformed items strewn into it; other values stay as they are. -/
inductive StrewnArray (Junk : Value → Prop) (Inside : Value → Value → Prop) :
    Value → Value → Prop where
  /-- Nothing is altered. -/
  | same (v : Value) : StrewnArray Junk Inside v v
  /-- Items are put in or altered. -/
  | array {vs ws : List Value} (items : Strewn Junk Inside vs ws) :
      StrewnArray Junk Inside (.array vs) (.array ws)

/-- What may be altered in an object: the values of the named fields, each in its own way. -/
abbrev Changes := List (String × (Value → Value → Prop))

/-- A field that is altered in one of the given ways, or in none. -/
def Altered (changes : Changes) (x y : Json.CodePoints × Value) : Prop :=
  x.1 = y.1 ∧
    (x.2 = y.2 ∨ ∃ change ∈ changes, x.1 = .ofString change.1 ∧ change.2 x.2 y.2)

/-- An object with fields altered in the given ways; other values stay as they are. -/
inductive InFields (changes : Changes) : Value → Value → Prop where
  /-- Nothing is altered. -/
  | same (v : Value) : InFields changes v v
  /-- Values of fields are altered. -/
  | object {f g : Fields} (fields : List.Forall₂ (Altered changes) f g) :
      InFields changes (.object f) (.object g)

/-! From the inside out. -/

/-- Places elsewhere, with malformed ones among them. -/
def StrewnRelated : Value → Value → Prop :=
  StrewnArray Unplaced fun _ _ => False

/-- An entry with such places. -/
def StrewnEntry : Value → Value → Prop :=
  InFields [("relatedInformation", StrewnRelated)]

/-- Entries, with malformed ones among them. -/
def StrewnEntries : Value → Value → Prop :=
  StrewnArray Mute StrewnEntry

/-- A group with such entries. -/
def StrewnGroup : Value → Value → Prop :=
  InFields [("diagnostics", StrewnEntries)]

/-- Groups, with malformed ones among them. -/
def StrewnGroups : Value → Value → Prop :=
  StrewnArray Nameless StrewnGroup

/-- An object with such groups. -/
def StrewnSection : Value → Value → Prop :=
  InFields [("diagnostics", StrewnGroups)]

/-- An inner document with such a section. -/
def StrewnInner : Value → Value → Prop :=
  InFields [("lsp", StrewnSection)]

/-- **An inner document or its text**, with malformed items in it. -/
inductive StrewnNested : Value → Value → Prop where
  /-- The document itself. -/
  | value {v w : Value} (inner : StrewnInner v w) : StrewnNested v w
  /-- The texts of two documents. -/
  | text {s t : Json.CodePoints} {v w : Value}
      (read : Json.readText s = .ok v) (reread : Json.readText t = .ok w)
      (inner : StrewnInner v w) :
      StrewnNested (.string s) (.string t)

/-- **A document of any shape with malformed items strewn into its arrays.** -/
def StrewnDocument : Value → Value → Prop :=
  InFields [("errors", StrewnEntries), ("error", StrewnNested), ("lsp_proto", StrewnSection)]

/-! What is left of the alterations after a look-up. -/

section Look

variable {changes : Changes} {f g : Fields} {v w : Value}

theorem get?_altered (h : List.Forall₂ (Altered changes) f g) (key : String) :
    Option.Rel (fun v w => v = w ∨ ∃ change ∈ changes, change.1 = key ∧ change.2 v w)
      (Json.get? f key) (Json.get? g key) := by
  induction h with
  | nil => exact .none
  | @cons x y _ _ hfield _ ih =>
    obtain ⟨k, v⟩ := x
    obtain ⟨k', w⟩ := y
    obtain ⟨hkey, hvalue⟩ := hfield
    cases hkey
    rw [Json.get?_cons, Json.get?_cons]
    split
    · rename_i hk
      refine .some (hvalue.imp_right ?_)
      rintro ⟨change, hchange, hname, hinside⟩
      exact ⟨change, hchange, Json.CodePoints.ofString_injective (hname.symm.trans hk), hinside⟩
    · exact ih

theorem getD_altered (h : List.Forall₂ (Altered changes) f g) (key : String) :
    Json.getD f key = Json.getD g key ∨
      ∃ change ∈ changes, change.1 = key ∧ change.2 (Json.getD f key) (Json.getD g key) := by
  have hfield := get?_altered h key
  unfold Json.getD
  generalize Json.get? f key = v? at hfield ⊢
  generalize Json.get? g key = w? at hfield ⊢
  cases hfield with
  | none => exact .inl rfl
  | some hvalue => exact hvalue

/-- A field that is not named stays as it is. -/
theorem getD_unaltered (h : List.Forall₂ (Altered changes) f g) {key : String}
    (hkey : key ∉ changes.map (·.1)) : Json.getD f key = Json.getD g key := by
  rcases getD_altered h key with heq | ⟨change, hchange, rfl, -⟩
  · exact heq
  · exact absurd (List.mem_map_of_mem hchange) hkey

section Named

variable {R : Value → Value → Prop} {key : String}

/-- A field that is named is altered in the way that goes with the name. -/
theorem getD_named (h : List.Forall₂ (Altered changes) f g) (hrefl : ∀ v, R v v)
    (hnamed : ∀ change ∈ changes, change.1 = key → change.2 = R) :
    R (Json.getD f key) (Json.getD g key) := by
  rcases getD_altered h key with heq | ⟨change, hchange, hkey, hinside⟩
  · exact heq ▸ hrefl _
  · exact hnamed change hchange hkey ▸ hinside

theorem requireField_named (h : List.Forall₂ (Altered changes) f g) (hrefl : ∀ v, R v v)
    (hnamed : ∀ change ∈ changes, change.1 = key → change.2 = R) :
    Corresponding R (requireField f key) (requireField g key) := by
  have hfield := get?_altered h key
  unfold requireField
  generalize Json.get? f key = v? at hfield ⊢
  generalize Json.get? g key = w? at hfield ⊢
  cases hfield with
  | none => exact .error _
  | some hvalue =>
    refine .ok ?_
    rcases hvalue with rfl | ⟨change, hchange, hkey, hinside⟩
    · exact hrefl _
    · exact hnamed change hchange hkey ▸ hinside

end Named

theorem InFields.requireObject (h : InFields changes v w) (what : String) :
    Corresponding (List.Forall₂ (Altered changes)) (requireObject what v)
      (requireObject what w) := by
  cases h with
  | same => exact .refl (fun f => List.forall₂_same.mpr fun x _ => ⟨rfl, .inl rfl⟩) _
  | object hfields => exact .ok hfields

theorem Strewn.refl {Junk : Value → Prop} {Inside : Value → Value → Prop} (vs : List Value) :
    Strewn Junk Inside vs vs := by
  induction vs with
  | nil => exact .nil
  | cons v rest ih => exact .kept ih

theorem StrewnArray.requireArray {Junk : Value → Prop} {Inside : Value → Value → Prop}
    (h : StrewnArray Junk Inside v w) (what : String) :
    Corresponding (Strewn Junk Inside) (requireArray what v) (requireArray what w) := by
  cases h with
  | same => exact .refl Strewn.refl _
  | array hitems => exact .ok hitems

/-- An inner document is read in the text that it stands in. -/
theorem StrewnNested.innerDocument (h : StrewnNested v w) :
    Corresponding StrewnInner (innerDocument v) (innerDocument w) := by
  rcases h with ⟨_ | hfields⟩ | ⟨hread, hreread, hinner⟩
  · exact .refl InFields.same _
  · exact .ok (.object hfields)
  · unfold Response.innerDocument
    simp only [hread, hreread]
    exact .ok hinner

end Look

/-! ### Nothing comes of them -/

section Passed

variable {v w : Value}

/-- **A function that makes nothing of malformed items, and does not see what is altered inside the
others, selects the same.** -/
theorem filterMap_strewn {α : Type} {read : Value → Option α} {Junk : Value → Prop}
    {Inside : Value → Value → Prop} {vs ws : List Value} (h : Strewn Junk Inside vs ws)
    (hjunk : ∀ w, Junk w → read w = none) (hinside : ∀ v w, Inside v w → read v = read w) :
    vs.filterMap read = ws.filterMap read := by
  induction h with
  | nil => rfl
  | junk hw _ ih => rw [List.filterMap_cons_none (hjunk _ hw), ih]
  | kept _ ih => rw [List.filterMap_cons, List.filterMap_cons, ih]
  | altered hitem _ ih => rw [List.filterMap_cons, List.filterMap_cons, hinside _ _ hitem, ih]

theorem filterMap_itemsOf_strewn {α : Type} {read : Value → Option α} {Junk : Value → Prop}
    {Inside : Value → Value → Prop} (h : StrewnArray Junk Inside v w)
    (hjunk : ∀ w, Junk w → read w = none) (hinside : ∀ v w, Inside v w → read v = read w) :
    (itemsOf v).filterMap read = (itemsOf w).filterMap read := by
  cases h with
  | same => rfl
  | array hitems => exact filterMap_strewn hitems hjunk hinside

theorem relatedOf_strewn (h : StrewnRelated v w) : relatedOf v = relatedOf w := by
  rw [relatedOf_eq, relatedOf_eq]
  exact filterMap_itemsOf_strewn h (fun _ => unplaced_iff.mp) nofun

theorem recordOfItem?_strewn (ctx : Context) (h : StrewnEntry v w) :
    recordOfItem? ctx v = recordOfItem? ctx w := by
  cases h with
  | same => rfl
  | @object f g hfields =>
    have hother : ∀ key, key ≠ "relatedInformation" → Json.getD f key = Json.getD g key :=
      fun key hkey => getD_unaltered hfields (by simpa using hkey)
    have hrelated : StrewnRelated (Json.getD f "relatedInformation")
        (Json.getD g "relatedInformation") := getD_named hfields StrewnArray.same (by simp)
    have hmessage : messageOf? f = messageOf? g := by
      unfold messageOf?
      rw [hother "message" (by decide)]
    change recordOf? ctx f = recordOf? ctx g
    rw [recordOf?_eq, recordOf?_eq, hmessage, hother "range" (by decide),
      hother "severity" (by decide), hother "code" (by decide), relatedOf_strewn hrelated]

theorem groupOf_strewn (ctx : Context) (target : Json.CodePoints) (h : StrewnEntries v w) :
    groupOf ctx target v = groupOf ctx target w := by
  rw [groupOf_eq, groupOf_eq]
  exact congrArg _ (filterMap_itemsOf_strewn h (fun _ => (mute_iff ctx).mp)
    fun _ _ => recordOfItem?_strewn ctx)

theorem groupOfItem?_strewn (ctx : Context) (h : StrewnGroup v w) :
    groupOfItem? ctx v = groupOfItem? ctx w := by
  cases h with
  | same => rfl
  | @object f g hfields =>
    have hother : ∀ key, key ≠ "diagnostics" → Json.getD f key = Json.getD g key :=
      fun key hkey => getD_unaltered hfields (by simpa using hkey)
    have hentries : StrewnEntries (Json.getD f "diagnostics") (Json.getD g "diagnostics") :=
      getD_named hfields StrewnArray.same (by simp)
    have htarget : targetOf? f = targetOf? g := by
      unfold targetOf?
      rw [hother "uri" (by decide), hother "path" (by decide)]
    change (targetOf? f).map _ = (targetOf? g).map _
    rw [htarget]
    exact congrArg (Option.map · _) (funext fun target => groupOf_strewn ctx target hentries)

theorem groupsOf_strewn (ctx : Context) {vs ws : List Value}
    (h : Strewn Nameless StrewnGroup vs ws) : groupsOf ctx vs = groupsOf ctx ws := by
  rw [groupsOf_eq, groupsOf_eq]
  exact filterMap_strewn h (fun _ => (nameless_iff ctx).mp) fun _ _ => groupOfItem?_strewn ctx

theorem flatGroups_strewn (ctx : Context) (h : StrewnDocument v w) :
    flatGroups ctx v = flatGroups ctx w :=
  (InFields.requireObject h _).bind fun _ _ hfields =>
    (requireField_named (R := StrewnEntries) hfields StrewnArray.same (by simp)).bind
      fun _ _ hentries => (StrewnArray.requireArray hentries _).bind fun _ _ _ =>
        congrArg (fun group => Except.ok [group]) (groupOf_strewn _ _ hentries)

theorem innerGroups_strewn (ctx : Context) (h : StrewnInner v w) :
    innerGroups ctx v = innerGroups ctx w := by
  refine (InFields.requireObject h _).bind fun f g hfields => ?_
  have hlsp : StrewnSection (Json.getD f "lsp") (Json.getD g "lsp") :=
    getD_named hfields InFields.same (by simp)
  refine (InFields.requireObject hlsp _).bind fun f g hsection => ?_
  have hgroups : StrewnGroups (Json.getD f "diagnostics") (Json.getD g "diagnostics") :=
    getD_named hsection StrewnArray.same (by simp)
  exact (StrewnArray.requireArray hgroups _).bind fun _ _ hitems =>
    congrArg Except.ok (groupsOf_strewn ctx hitems)

theorem nestedGroups_strewn (ctx : Context) (h : StrewnDocument v w) :
    nestedGroups ctx v = nestedGroups ctx w := by
  refine ((InFields.requireObject h _).mapError DecodeError.shape).bind fun f g hfields => ?_
  have herror : Corresponding StrewnNested (requireField f "error") (requireField g "error") :=
    requireField_named hfields (fun v => .value (InFields.same v)) (by simp)
  refine (herror.mapError DecodeError.shape).bind fun _ _ hinner => ?_
  exact hinner.innerDocument.bind fun _ _ hdocument =>
    congrArg (Except.mapError DecodeError.shape) (innerGroups_strewn ctx hdocument)

theorem envelopeGroups_strewn (ctx : Context) (h : StrewnDocument v w) :
    envelopeGroups ctx v = envelopeGroups ctx w := by
  refine (InFields.requireObject h _).bind fun f g hfields => ?_
  refine (requireField_named (R := StrewnSection) hfields InFields.same (by simp)).bind
    fun _ _ hproto => ?_
  refine (InFields.requireObject hproto _).bind fun f g hsection => ?_
  have hgroups : StrewnGroups (Json.getD f "diagnostics") (Json.getD g "diagnostics") :=
    getD_named hsection StrewnArray.same (by simp)
  exact (StrewnArray.requireArray hgroups _).bind fun _ _ hitems =>
    congrArg Except.ok (groupsOf_strewn ctx hitems)

theorem decode_eq_of_strewn (ctx : Context) (h : StrewnDocument v w) (shape : Shape) :
    shape.decode ctx v = shape.decode ctx w := by
  have hgroups : shape.groups ctx v = shape.groups ctx w := by
    cases shape with
    | flatList => exact congrArg (Except.mapError DecodeError.shape) (flatGroups_strewn ctx h)
    | nestedError => exact nestedGroups_strewn ctx h
    | protoEnvelope =>
      exact congrArg (Except.mapError DecodeError.shape) (envelopeGroups_strewn ctx h)
  unfold Shape.decode
  rw [hgroups]

end Passed

/-- **Malformed items do not disturb their neighbours.** Wherever they are strewn into a document,
each decoder makes of it what it makes of the document without them, and so do all of them, the log
included. What the decoder of a shape makes of a document of the shape is what its other items tell,
each one part of it, in order. -/
theorem decode_strewn {v w : Value} (h : StrewnDocument v w) (ctx : Context) :
    (∀ shape : Shape, shape.decode ctx w = shape.decode ctx v) ∧
    (∀ shapes, decodeDocument shapes ctx w = decodeDocument shapes ctx v) ∧
    ∀ (shape : Shape) (groups : List Group),
      shape.decode ctx v = .ok (.decoded groups) ↔ Tells ctx shape v groups :=
  ⟨fun shape => (decode_eq_of_strewn ctx h shape).symm,
    fun shapes => (decodeDocument_eq_of_decode (decode_eq_of_strewn ctx h) shapes).symm,
    fun _ _ => decode_eq_decoded_iff_tells⟩

/-! ### A document of all shapes, littered -/

/-- A place elsewhere. -/
def placed : Value :=
  .ofFields [("location", .ofFields [("uri", .ofString "b")])]

/-- An entry with the given places elsewhere. -/
def entryAt (places : List Value) : Value :=
  .ofFields [("message", .ofString "m"), ("relatedInformation", .array places)]

/-- A group of the given entries. -/
def groupAt (entries : List Value) : Value :=
  .ofFields [("uri", .ofString "a"), ("diagnostics", .array entries)]

/-- A section of the given groups. -/
def sectionAt (groups : List Value) : Value :=
  .ofFields [("diagnostics", .array groups)]

/-- An inner document of the given groups. -/
def innerAt (groups : List Value) : Value :=
  .ofFields [("lsp", sectionAt groups)]

/-- A document of all three shapes. -/
def documentAt (entries : List Value) (text : String) (groups : List Value) : Value :=
  .ofFields [("errors", .array entries), ("error", .ofString text), ("lsp_proto", sectionAt groups)]

section At

variable {vs ws : List Value}

theorem strewn_entryAt (h : Strewn Unplaced (fun _ _ => False) vs ws) :
    StrewnEntry (entryAt vs) (entryAt ws) :=
  .object (.cons ⟨rfl, .inl rfl⟩ (.cons ⟨rfl, .inr ⟨_, .head _, rfl, .array h⟩⟩ .nil))

theorem strewn_groupAt (h : Strewn Mute StrewnEntry vs ws) :
    StrewnGroup (groupAt vs) (groupAt ws) :=
  .object (.cons ⟨rfl, .inl rfl⟩ (.cons ⟨rfl, .inr ⟨_, .head _, rfl, .array h⟩⟩ .nil))

theorem strewn_sectionAt (h : Strewn Nameless StrewnGroup vs ws) :
    StrewnSection (sectionAt vs) (sectionAt ws) :=
  .object (.cons ⟨rfl, .inr ⟨_, .head _, rfl, .array h⟩⟩ .nil)

theorem strewn_innerAt (h : Strewn Nameless StrewnGroup vs ws) :
    StrewnInner (innerAt vs) (innerAt ws) :=
  .object (.cons ⟨rfl, .inr ⟨_, .head _, rfl, strewn_sectionAt h⟩⟩ .nil)

theorem strewn_documentAt {entries entries' : List Value} {text text' : String}
    (hentries : Strewn Mute StrewnEntry entries entries')
    (hread : Json.read text = .ok (innerAt vs)) (hreread : Json.read text' = .ok (innerAt ws))
    (h : Strewn Nameless StrewnGroup vs ws) :
    StrewnDocument (documentAt entries text vs) (documentAt entries' text' ws) := by
  have htext : StrewnNested (.ofString text) (.ofString text') := by
    refine .text ?_ ?_ (strewn_innerAt h)
    · rwa [Json.readText_ofString]
    · rwa [Json.readText_ofString]
  exact .object (.cons ⟨rfl, .inr ⟨_, .head _, rfl, .array hentries⟩⟩
    (.cons ⟨rfl, .inr ⟨_, .tail _ (.head _), rfl, htext⟩⟩
      (.cons ⟨rfl, .inr ⟨_, .tail _ (.tail _ (.head _)), rfl, strewn_sectionAt h⟩⟩ .nil)))

theorem legible_entryAt {depth : Nat} (h : ∀ v ∈ vs, Json.Legible depth v) :
    Json.Legible (depth + 2) (entryAt vs) :=
  .pair (by decide) (.string _ _) (.array h)

theorem legible_groupAt {depth : Nat} (h : ∀ v ∈ vs, Json.Legible depth v) :
    Json.Legible (depth + 2) (groupAt vs) :=
  .pair (by decide) (.string _ _) (.array h)

theorem legible_innerAt {depth : Nat} (h : ∀ v ∈ vs, Json.Legible depth v) :
    Json.Legible (depth + 3) (innerAt vs) :=
  .single _ (.single _ (.array h))

theorem legible_placed (depth : Nat) : Json.Legible (depth + 2) placed :=
  .single _ (.single _ (.string _ _))

end At

/-- One entry with one place elsewhere. -/
def tidyEntries : List Value :=
  [entryAt [placed]]

/-- The entry between two malformed ones, and its place after another two. -/
def litteredEntries : List Value :=
  [.null, entryAt [.bool true, .ofFields [("location", placed)], placed],
    .ofFields [("message", .ofString " ")]]

/-- The group of the entry. -/
def tidyGroups : List Value :=
  [groupAt tidyEntries]

/-- The group of the entries before two malformed ones. -/
def litteredGroups : List Value :=
  [groupAt litteredEntries, .ofString "b", .ofFields [("path", .ofString "")]]

/-- A document of all shapes. -/
def tidy : Value :=
  documentAt tidyEntries (Json.compact (innerAt tidyGroups)) tidyGroups

/-- The document with malformed items strewn into all its arrays, those in its text included. -/
def littered : Value :=
  documentAt litteredEntries (Json.compact (innerAt litteredGroups)) litteredGroups

theorem read_tidy : Json.read (Json.compact (innerAt tidyGroups)) = .ok (innerAt tidyGroups) := by
  have hplaces : ∀ v ∈ [placed], Json.Legible (981 + 2) v :=
    List.forall_mem_singleton.mpr (legible_placed 981)
  have hentries : ∀ v ∈ tidyEntries, Json.Legible (981 + 2 + 2) v :=
    List.forall_mem_singleton.mpr (legible_entryAt hplaces)
  have hgroups : ∀ v ∈ tidyGroups, Json.Legible (981 + 2 + 2 + 2) v :=
    List.forall_mem_singleton.mpr (legible_groupAt hentries)
  exact (Json.read_compact (legible_innerAt hgroups)).trans rfl

theorem read_littered :
    Json.read (Json.compact (innerAt litteredGroups)) = .ok (innerAt litteredGroups) := by
  have hplaces : ∀ v ∈ [.bool true, .ofFields [("location", placed)], placed],
      Json.Legible (980 + 3) v := by
    simp only [List.forall_mem_cons]
    exact ⟨.bool _ _, .single _ (legible_placed 980), legible_placed 981,
      List.forall_mem_nil _⟩
  have hentries : ∀ v ∈ litteredEntries, Json.Legible (980 + 3 + 2) v := by
    simp only [litteredEntries, List.forall_mem_cons]
    exact ⟨.null _, legible_entryAt hplaces, .single _ (.string _ _), List.forall_mem_nil _⟩
  have hgroups : ∀ v ∈ litteredGroups, Json.Legible (980 + 3 + 2 + 2) v := by
    simp only [litteredGroups, List.forall_mem_cons]
    exact ⟨legible_groupAt hentries, .string _ _, .single _ (.string _ _),
      List.forall_mem_nil _⟩
  exact (Json.read_compact (legible_innerAt hgroups)).trans rfl

theorem strewn_littered : StrewnDocument tidy littered := by
  have hplaces : Strewn Unplaced (fun _ _ => False) [placed]
      [.bool true, .ofFields [("location", placed)], placed] :=
    .junk (by decide) (.junk (by decide) (.kept .nil))
  have hentries : Strewn Mute StrewnEntry tidyEntries litteredEntries :=
    .junk (by decide) (.altered (strewn_entryAt hplaces) (.junk (by decide) .nil))
  have hgroups : Strewn Nameless StrewnGroup tidyGroups litteredGroups :=
    .altered (strewn_groupAt hentries) (.junk (by decide) (.junk (by decide) .nil))
  exact strewn_documentAt hentries read_tidy read_littered hgroups

/-- What is strewn into the document is passed over: its one diagnostic is related to one place. -/
theorem decode_strewn_littered :
    StrewnDocument tidy littered ∧
    (∀ shape : Shape, shape.decode { requestedUri := "a" } littered =
      shape.decode { requestedUri := "a" } tidy) ∧
    (∀ shapes, decodeDocument shapes { requestedUri := "a" } littered =
      decodeDocument shapes { requestedUri := "a" } tidy) ∧
    (∀ (shape : Shape) (groups : List Group),
      shape.decode { requestedUri := "a" } tidy = .ok (.decoded groups) ↔
        Tells { requestedUri := "a" } shape tidy groups) ∧
    ∀ shape ∈ [Shape.flatList, .protoEnvelope],
      (shape.decoder.found? { requestedUri := "a" } littered).map
        (fun groups => groups.map fun g => g.diagnostics.map (·.related.length)) = some [[1]] := by
  obtain ⟨hdecode, hdocument, htells⟩ := decode_strewn strewn_littered { requestedUri := "a" }
  exact ⟨strewn_littered, hdecode, hdocument, htells, by decide +kernel⟩

end LintBridge.Response
