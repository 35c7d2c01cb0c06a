import LintBridge.Proofs.Json.Lookup
import LintBridge.Proofs.Response.Decoders
import LintBridge.Proofs.Response.Span

/-!
# Documents that read alike

A document is looked into by the names of fields. So two documents read alike if at every place they
have the same fields, in whatever order. **Nothing in the reading of a document tells such documents
apart**: every function of the reader, from the numbers of a place up to the groups inside a
document, has its lemma here.

* `LintBridge.Response.Alike`, `LintBridge.Response.AlikeFields` – values and objects that read
  alike;
* `LintBridge.Response.recordOf?_congr`, `LintBridge.Response.innerGroups_congr` – they make the
  same diagnostic, or the same groups;
* `LintBridge.Response.Corresponding` – two results that go on to the same.
-/

namespace LintBridge.Response

open Json (Value)

/-- **Two values that read alike.** -/
inductive Alike : Value → Value → Prop where
  /-- They are the same. -/
  | refl (v : Value) : Alike v v
  /-- They are arrays whose items read alike. -/
  | array {vs ws : List Value} (items : List.Forall₂ Alike vs ws) : Alike (.array vs) (.array ws)
  /-- They are objects with the same fields, whose values read alike. -/
  | object {f g : Fields}
      (fields : ∀ key, Option.Rel Alike (Json.get? f key) (Json.get? g key)) :
      Alike (.object f) (.object g)

/-- Objects with the same fields, whose values read alike. -/
def AlikeFields (f g : Fields) : Prop :=
  ∀ key, Option.Rel Alike (Json.get? f key) (Json.get? g key)

variable {v w : Value} {f g : Fields}

/-! ### Fields and items -/

theorem AlikeFields.refl (f : Fields) : AlikeFields f f := by
  intro key
  cases Json.get? f key with
  | none => exact .none
  | some v => exact .some (.refl v)

/-- **Objects with the same fields in another order read alike**, if no two fields share a key. -/
theorem AlikeFields.of_perm (h : f.Perm g) (hnodup : (f.map (·.1)).Nodup) : AlikeFields f g := by
  intro key
  rw [Json.get?_perm h hnodup key]
  exact AlikeFields.refl g key

theorem alike_getD_null {v? w? : Option Value} (h : Option.Rel Alike v? w?) :
    Alike (v?.getD .null) (w?.getD .null) := by
  cases h with
  | some hvalue => exact hvalue
  | none => exact .refl _

theorem AlikeFields.getD (h : AlikeFields f g) (key : String) :
    Alike (Json.getD f key) (Json.getD g key) :=
  alike_getD_null (h key)

theorem Alike.fieldsOf (h : Alike v w) : AlikeFields (fieldsOf v) (fieldsOf w) := by
  cases h with
  | refl => exact .refl _
  | array => exact .refl _
  | object hfields => exact hfields

theorem Alike.fields? (h : Alike v w) : Option.Rel AlikeFields (fields? v) (fields? w) := by
  cases h with
  | refl =>
    cases v with
    | object f => exact .some (.refl f)
    | _ => exact .none
  | array => exact .none
  | object hfields => exact .some hfields

theorem forall₂_fields? {vs ws : List Value} (h : List.Forall₂ Alike vs ws) :
    List.Forall₂ AlikeFields (vs.filterMap Response.fields?) (ws.filterMap Response.fields?) :=
  List.rel_filterMap (fun _ _ hitem => hitem.fields?) h

theorem Alike.objectsOf (h : Alike v w) :
    List.Forall₂ AlikeFields (objectsOf v) (objectsOf w) := by
  cases h with
  | refl => exact List.forall₂_same.mpr fun f _ => .refl f
  | array hitems => exact forall₂_fields? hitems
  | object => exact .nil

/-- Functions that do not tell objects apart select the same from two lists of them. -/
theorem filterMap_congr_alike {α : Type} {read : Fields → Option α} {fs gs : List Fields}
    (hread : ∀ f g, AlikeFields f g → read f = read g) (h : List.Forall₂ AlikeFields fs gs) :
    fs.filterMap read = gs.filterMap read := by
  induction h with
  | nil => rfl
  | cons hitem _ ih => rw [List.filterMap_cons, List.filterMap_cons, hread _ _ hitem, ih]

/-! ### Numbers and texts -/

theorem intOf?_congr (h : Alike v w) : intOf? v = intOf? w := by
  cases h with
  | refl => rfl
  | array => rfl
  | object => rfl

theorem textOf?_congr (h : Alike v w) : textOf? v = textOf? w := by
  cases h with
  | refl => rfl
  | array => rfl
  | object => rfl

theorem codeOf?_congr (h : Alike v w) : codeOf? v = codeOf? w := by
  unfold codeOf?
  cases h with
  | refl => rfl
  | array => rfl
  | object hfields => exact textOf?_congr (AlikeFields.getD hfields "value")

/-! ### Places and spans -/

theorem coordinate_congr (h : Alike v w) : coordinate v = coordinate w := by
  unfold coordinate
  rw [intOf?_congr h]

theorem positionOf_congr (h : Alike v w) : positionOf v = positionOf w := by
  unfold positionOf
  rw [coordinate_congr (h.fieldsOf.getD "line"), coordinate_congr (h.fieldsOf.getD "character")]

theorem rangeOf_congr (h : Alike v w) : rangeOf v = rangeOf w :=
  rangeOf_congr_ends (positionOf_congr (h.fieldsOf.getD "start"))
    (positionOf_congr (h.fieldsOf.getD "end"))

/-! ### Diagnostics -/

theorem relatedItemOf?_congr (h : AlikeFields f g) : relatedItemOf? f = relatedItemOf? g := by
  have hlocation := (h.getD "location").fieldsOf
  unfold relatedItemOf?
  dsimp only
  rw [textOf?_congr (hlocation.getD "uri"), rangeOf_congr (hlocation.getD "range"),
    textOf?_congr (h.getD "message")]

theorem relatedOf_congr (h : Alike v w) : relatedOf v = relatedOf w :=
  filterMap_congr_alike (fun _ _ => relatedItemOf?_congr) h.objectsOf

theorem messageOf?_congr (h : AlikeFields f g) : messageOf? f = messageOf? g := by
  have hmessage := h.getD "message"
  unfold messageOf?
  generalize Json.getD f "message" = v at hmessage ⊢
  generalize Json.getD g "message" = w at hmessage ⊢
  cases hmessage with
  | refl => rfl
  | array => rfl
  | object => rfl

/-- The severity of an entry with the given value for it: that of the value, or the given one where
there is none. -/
def severityOr (missing : Severity) : Value → Severity
  | .null => missing
  | v => Severity.ofValue v

theorem severityOr_congr (h : Alike v w) (missing : Severity) :
    severityOr missing v = severityOr missing w := by
  cases h with
  | refl => rfl
  | array => rfl
  | object => rfl

theorem recordOf?_eq (ctx : Context) (entry : Fields) :
    recordOf? ctx entry = (messageOf? entry).map fun message =>
      { range := rangeOf (Json.getD entry "range")
        message
        severity := severityOr ctx.missingSeverity (Json.getD entry "severity")
        code := codeOf? (Json.getD entry "code")
        source := ctx.source
        related := relatedOf (Json.getD entry "relatedInformation") } :=
  rfl

/-- **Entries that read alike make the same diagnostic.** -/
theorem recordOf?_congr (ctx : Context) (h : AlikeFields f g) :
    recordOf? ctx f = recordOf? ctx g := by
  rw [recordOf?_eq, recordOf?_eq, messageOf?_congr h, rangeOf_congr (h.getD "range"),
    severityOr_congr (h.getD "severity"), codeOf?_congr (h.getD "code"),
    relatedOf_congr (h.getD "relatedInformation")]

/-! ### Groups -/

theorem groupOf_congr (ctx : Context) (target : Json.CodePoints) (h : Alike v w) :
    groupOf ctx target v = groupOf ctx target w :=
  congrArg (Group.mk target) (filterMap_congr_alike (fun _ _ => recordOf?_congr ctx) h.objectsOf)

theorem targetOf?_congr (h : AlikeFields f g) : targetOf? f = targetOf? g := by
  unfold targetOf?
  rw [textOf?_congr (h.getD "uri"), textOf?_congr (h.getD "path")]

/-- **Items that read alike make the same groups.** -/
theorem groupsOf_congr (ctx : Context) {vs ws : List Value} (h : List.Forall₂ Alike vs ws) :
    groupsOf ctx vs = groupsOf ctx ws := by
  refine filterMap_congr_alike (fun f g hfields => ?_) (forall₂_fields? h)
  rw [targetOf?_congr hfields]
  cases targetOf? g with
  | none => rfl
  | some target => exact congrArg some (groupOf_congr ctx target (hfields.getD "diagnostics"))

/-! ### Responses -/

/-- Two results are values that correspond, or the same failure. -/
inductive Corresponding {ε α β : Type} (R : α → β → Prop) : Except ε α → Except ε β → Prop where
  /-- They are values that correspond. -/
  | ok {a : α} {b : β} (value : R a b) : Corresponding R (.ok a) (.ok b)
  /-- They are the same failure. -/
  | error (e : ε) : Corresponding R (.error e) (.error e)

section Corresponding

variable {ε ε' α β γ : Type} {R : α → β → Prop} {x : Except ε α} {y : Except ε β}

theorem Corresponding.refl {R : α → α → Prop} (hrefl : ∀ a, R a a) (x : Except ε α) :
    Corresponding R x x := by
  cases x with
  | ok a => exact .ok (hrefl a)
  | error e => exact .error e

/-- What goes on with values that correspond comes to the same. -/
theorem Corresponding.bind (h : Corresponding R x y) {k : α → Except ε γ} {l : β → Except ε γ}
    (hnext : ∀ a b, R a b → k a = l b) : (x >>= k) = (y >>= l) := by
  cases h with
  | ok hvalue => exact hnext _ _ hvalue
  | error e => rfl

theorem Corresponding.mapError (h : Corresponding R x y) (f : ε → ε') :
    Corresponding R (x.mapError f) (y.mapError f) := by
  cases h with
  | ok hvalue => exact .ok hvalue
  | error e => exact .error _

end Corresponding

theorem requireObject_corresponding (what : String) (h : Alike v w) :
    Corresponding AlikeFields (requireObject what v) (requireObject what w) := by
  cases h with
  | refl =>
    cases v with
    | object f => exact .ok (.refl f)
    | _ => exact .error _
  | array => exact .error _
  | object hfields => exact .ok hfields

theorem requireArray_corresponding (what : String) (h : Alike v w) :
    Corresponding (List.Forall₂ Alike) (requireArray what v) (requireArray what w) := by
  cases h with
  | refl =>
    cases v with
    | array vs => exact .ok (List.forall₂_same.mpr fun v _ => .refl v)
    | _ => exact .error _
  | array hitems => exact .ok hitems
  | object => exact .error _

theorem innerGroups_congr (ctx : Context) (h : Alike v w) :
    innerGroups ctx v = innerGroups ctx w :=
  (requireObject_corresponding _ h).bind fun _ _ hfields =>
    (requireObject_corresponding _ (hfields.getD "lsp")).bind fun _ _ hsection =>
      (requireArray_corresponding _ (hsection.getD "diagnostics")).bind fun _ _ hitems =>
        congrArg Except.ok (groupsOf_congr ctx hitems)

end LintBridge.Response
