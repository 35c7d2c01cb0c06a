import LintBridge.Proofs.Json.CodePoints
import LintBridge.Proofs.Response.Span

/-!
# Numbers that are written out

The releases of the linter disagree on whether a number is a number or its text. **A number and its
text read alike**, with any blanks around the text (`LintBridge.Response.intOf?_padded`,
`LintBridge.Response.textOf?_padded`), as long as the number is not too long to be read at all.

An entry has numbers at its ends of spans and for its code, and so have the places elsewhere that it
names. What may be written out at such a place is said part by part, from the outside in: an object
reads like another if the values of some of its fields do and its other fields are the same
(`LintBridge.Response.FieldsWith`).

* `LintBridge.Response.Written` – a value, and the same with the number written out;
* `LintBridge.Response.WrittenPlace`, `LintBridge.Response.WrittenSpan`,
  `LintBridge.Response.WrittenCode`, `LintBridge.Response.WrittenRelated`,
  `LintBridge.Response.WrittenEntry` – the same for the parts of an entry and for an entry;
* `LintBridge.Response.numerals_alike` – **an entry makes the same diagnostic with its numbers
  written out**.
-/

namespace LintBridge.Response

open Json (Value CodePoints)

/-! ### A number and its text -/

section Number

variable {n : Int} {before after : String}

theorem intOf?_padded (hshort : n.natAbs < 10 ^ Text.maxDigits)
    (hbefore : Text.isAllBlank before = true) (hafter : Text.isAllBlank after = true) :
    intOf? (.ofString (before ++ toString n ++ after)) = some n := by
  unfold intOf? Value.ofString
  dsimp only
  rw [CodePoints.toString_ofString, Text.readInt?_padded hshort hbefore hafter]

theorem textOf?_int (n : Int) : textOf? (.int n) = some (.ofString (toString n)) := by
  have hword := CodePoints.isWord_ofString (Text.isWord_of_int n)
  unfold textOf?
  exact Option.filter_some_pos (bne_iff_ne.mpr hword.ne_nil)

theorem textOf?_padded (hbefore : Text.isAllBlank before = true)
    (hafter : Text.isAllBlank after = true) :
    textOf? (.ofString (before ++ toString n ++ after)) = some (.ofString (toString n)) := by
  have hword := CodePoints.isWord_ofString (Text.isWord_of_int n)
  unfold textOf? Value.ofString
  dsimp only
  rw [CodePoints.strip_ofString, Text.strip_padded hbefore hafter, (Text.isWord_of_int n).trimmed]
  exact Option.filter_some_pos (bne_iff_ne.mpr hword.ne_nil)

end Number

/-- **A value, and the same with the number written out**, with any blanks around it. -/
inductive Written : Value → Value → Prop where
  /-- Nothing is written out. -/
  | refl (v : Value) : Written v v
  /-- A number that is not too long is. -/
  | numeral {n : Int} {before after : String} (short : n.natAbs < 10 ^ Text.maxDigits)
      (blank_before : Text.isAllBlank before = true) (blank_after : Text.isAllBlank after = true) :
      Written (.int n) (.ofString (before ++ toString n ++ after))

section Written

variable {v w : Value}

theorem Written.intOf?_eq (h : Written v w) : intOf? v = intOf? w := by
  cases h with
  | refl => rfl
  | numeral hshort hbefore hafter => rw [intOf?_padded hshort hbefore hafter]; rfl

theorem Written.textOf?_eq (h : Written v w) : textOf? v = textOf? w := by
  cases h with
  | refl => rfl
  | numeral _ hbefore hafter => rw [textOf?_padded hbefore hafter, textOf?_int]

theorem Written.coordinate_eq (h : Written v w) : coordinate v = coordinate w := by
  unfold coordinate
  rw [h.intOf?_eq]

end Written

/-! ### Fields with numbers in them -/

/-- What may be written out in each of some fields. -/
abbrev Parts := List (String × (Value → Value → Prop))

/-- **The fields of an object, and the same with numbers written out** in the given ones of them. -/
def FieldsWith (parts : Parts) (f g : Fields) : Prop :=
  ∀ key, Option.Rel ((parts.lookup key).getD Eq) (Json.get? f key) (Json.get? g key)

/-- A value, and the same with numbers written out in the given fields if it is an object. -/
inductive ObjectWith (parts : Parts) : Value → Value → Prop where
  /-- Nothing is written out. -/
  | refl (v : Value) : ObjectWith parts v v
  /-- It is an object, and numbers are written out in its fields. -/
  | object {f g : Fields} (fields : FieldsWith parts f g) : ObjectWith parts (.object f) (.object g)

section Parts

variable {α : Type} {parts : Parts} {R : Value → Value → Prop} {f g : Fields} {v w : Value}

/-- Numbers may be written out field by field. -/
theorem FieldsWith.of_forall₂ (h : List.Forall₂
    (fun a b => a.1 = b.1 ∧ ((parts.lookup (CodePoints.toString a.1)).getD Eq) a.2 b.2) f g) :
    FieldsWith parts f g := by
  intro key
  induction h with
  | nil => exact .none
  | @cons a b _ _ hentry _ ih =>
    obtain ⟨k, v⟩ := a
    obtain ⟨k', w⟩ := b
    obtain ⟨rfl, hvalue⟩ := hentry
    rw [Json.get?_cons, Json.get?_cons]
    by_cases hk : k = CodePoints.ofString key
    · rw [if_pos hk, if_pos hk]
      rw [hk, CodePoints.toString_ofString] at hvalue
      exact .some hvalue
    · rw [if_neg hk, if_neg hk]
      exact ih

/-- What is made of the value of a field does not depend on what may be written out in it. -/
theorem FieldsWith.getD_congr (h : FieldsWith parts f g) (read : Value → α) (key : String)
    (hkey : parts.lookup key = some R) (hread : ∀ v w, R v w → read v = read w) :
    read (Json.getD f key) = read (Json.getD g key) := by
  have hvalue := h key
  rw [hkey] at hvalue
  unfold Json.getD
  generalize Json.get? f key = v? at hvalue ⊢
  generalize Json.get? g key = w? at hvalue ⊢
  cases hvalue with
  | some hvalue => exact hread _ _ hvalue
  | none => rfl

/-- The other fields are the same. -/
theorem FieldsWith.getD_eq (h : FieldsWith parts f g) (key : String)
    (hkey : parts.lookup key = none) :
    Json.getD f key = Json.getD g key := by
  have hvalue := h key
  rw [hkey] at hvalue
  unfold Json.getD
  generalize Json.get? f key = v? at hvalue ⊢
  generalize Json.get? g key = w? at hvalue ⊢
  cases hvalue with
  | some hvalue => exact hvalue
  | none => rfl

theorem ObjectWith.getD_congr (h : ObjectWith parts v w) (read : Value → α) (key : String)
    (hkey : parts.lookup key = some R) (hread : ∀ v w, R v w → read v = read w) :
    read (Json.getD (fieldsOf v) key) = read (Json.getD (fieldsOf w) key) := by
  cases h with
  | refl => rfl
  | object hfields => exact hfields.getD_congr read key hkey hread

theorem ObjectWith.getD_eq (h : ObjectWith parts v w) (key : String)
    (hkey : parts.lookup key = none) :
    Json.getD (fieldsOf v) key = Json.getD (fieldsOf w) key := by
  cases h with
  | refl => rfl
  | object hfields => exact hfields.getD_eq key hkey

end Parts

/-! ### The parts of an entry -/

/-- A place, and the same with its numbers written out. -/
def WrittenPlace : Value → Value → Prop :=
  ObjectWith [("line", Written), ("character", Written)]

/-- A span, and the same with the numbers of its ends written out. -/
def WrittenSpan : Value → Value → Prop :=
  ObjectWith [("start", WrittenPlace), ("end", WrittenPlace)]

/-- A code, and the same with its number written out, in the object that describes it or as it is.
-/
inductive WrittenCode (v w : Value) : Prop where
  /-- It is no object. -/
  | plain (code : Written v w)
  /-- It is described by an object. -/
  | described (object : ObjectWith [("value", Written)] v w)

/-- A location, and the same with the numbers of its span written out. -/
def WrittenLocation : Value → Value → Prop :=
  ObjectWith [("range", WrittenSpan)]

/-- A place elsewhere, and the same with the numbers of its location written out. -/
def WrittenElsewhere : Value → Value → Prop :=
  ObjectWith [("location", WrittenLocation)]

/-- The places elsewhere, and the same with the numbers of their spans written out. -/
inductive WrittenRelated : Value → Value → Prop where
  /-- Nothing is written out. -/
  | refl (v : Value) : WrittenRelated v v
  /-- They are given in an array, and numbers are written out in its items. -/
  | array {vs ws : List Value} (items : List.Forall₂ WrittenElsewhere vs ws) :
      WrittenRelated (.array vs) (.array ws)

/-- **An entry, and the same with numbers written out**: those of its span, of its code and of the
spans of places elsewhere. -/
def WrittenEntry : Fields → Fields → Prop :=
  FieldsWith [("range", WrittenSpan), ("code", WrittenCode), ("relatedInformation", WrittenRelated)]

section Reading

variable {v w : Value} {f g : Fields}

theorem WrittenPlace.positionOf_eq (h : WrittenPlace v w) : positionOf v = positionOf w :=
  congrArg₂ Position.mk
    (h.getD_congr coordinate "line" rfl fun _ _ hline => hline.coordinate_eq)
    (h.getD_congr coordinate "character" rfl fun _ _ hcharacter => hcharacter.coordinate_eq)

theorem WrittenSpan.rangeOf_eq (h : WrittenSpan v w) : rangeOf v = rangeOf w :=
  rangeOf_congr_ends
    (h.getD_congr positionOf "start" rfl fun _ _ hstart => hstart.positionOf_eq)
    (h.getD_congr positionOf "end" rfl fun _ _ hend => hend.positionOf_eq)

theorem WrittenCode.codeOf?_eq (h : WrittenCode v w) : codeOf? v = codeOf? w := by
  cases h with
  | plain hcode =>
    cases hcode with
    | refl => rfl
    | numeral hshort hbefore hafter => exact (Written.numeral hshort hbefore hafter).textOf?_eq
  | described hobject =>
    cases hobject with
    | refl => rfl
    | object hfields =>
      exact hfields.getD_congr textOf? "value" rfl fun _ _ hvalue => hvalue.textOf?_eq

/-- The span of a location is the same, and its file is as it is. -/
theorem WrittenLocation.eq (h : WrittenLocation v w) :
    rangeOf (Json.getD (fieldsOf v) "range") = rangeOf (Json.getD (fieldsOf w) "range") ∧
      Json.getD (fieldsOf v) "uri" = Json.getD (fieldsOf w) "uri" :=
  ⟨h.getD_congr rangeOf "range" rfl fun _ _ hspan => hspan.rangeOf_eq, h.getD_eq "uri" rfl⟩

theorem WrittenElsewhere.bind_fields? (h : WrittenElsewhere v w) :
    (fields? v).bind relatedItemOf? = (fields? w).bind relatedItemOf? := by
  cases h with
  | refl => rfl
  | @object f g hfields =>
    have hrange : rangeOf (Json.getD (fieldsOf (Json.getD f "location")) "range") =
        rangeOf (Json.getD (fieldsOf (Json.getD g "location")) "range") :=
      hfields.getD_congr (fun v => rangeOf (Json.getD (fieldsOf v) "range")) "location" rfl
        fun _ _ hlocation => (WrittenLocation.eq hlocation).1
    have huri : Json.getD (fieldsOf (Json.getD f "location")) "uri" =
        Json.getD (fieldsOf (Json.getD g "location")) "uri" :=
      hfields.getD_congr (fun v => Json.getD (fieldsOf v) "uri") "location" rfl
        fun _ _ hlocation => (WrittenLocation.eq hlocation).2
    have hitem : relatedItemOf? f = relatedItemOf? g := by
      unfold relatedItemOf?
      dsimp only
      rw [huri, hrange, hfields.getD_eq "message" rfl]
    exact hitem

theorem WrittenRelated.relatedOf_eq (h : WrittenRelated v w) : relatedOf v = relatedOf w := by
  cases h with
  | refl => rfl
  | array hitems =>
    unfold relatedOf objectsOf
    dsimp only
    rw [List.filterMap_filterMap, List.filterMap_filterMap]
    induction hitems with
    | nil => rfl
    | cons hitem _ ih => rw [List.filterMap_cons, List.filterMap_cons, hitem.bind_fields?, ih]

/-- **An entry makes the same diagnostic with its numbers written out.** -/
theorem WrittenEntry.recordOf?_eq (ctx : Context) (h : WrittenEntry f g) :
    recordOf? ctx f = recordOf? ctx g := by
  have hrange := h.getD_congr rangeOf "range" rfl fun _ _ hspan => hspan.rangeOf_eq
  have hcode := h.getD_congr codeOf? "code" rfl fun _ _ hcode => hcode.codeOf?_eq
  have hrelated := h.getD_congr relatedOf "relatedInformation" rfl
    fun _ _ hrelated => hrelated.relatedOf_eq
  unfold recordOf? messageOf?
  rw [h.getD_eq "message" rfl, h.getD_eq "severity" rfl, hrange, hcode, hrelated]

end Reading

/-- **Numbers and their texts are read alike.** A number that is not too long and its text, with any
blanks around it, are the same integer and the same text, and an entry makes the same diagnostic
with any of the numbers of its places and of its code written out, its places elsewhere included. -/
theorem numerals_alike :
    (∀ (n : Int) (before after : String), n.natAbs < 10 ^ Text.maxDigits →
      Text.isAllBlank before = true → Text.isAllBlank after = true →
      intOf? (.int n) = some n ∧
      intOf? (.ofString (before ++ toString n ++ after)) = some n ∧
      textOf? (.int n) = some (.ofString (toString n)) ∧
      textOf? (.ofString (before ++ toString n ++ after)) = some (.ofString (toString n))) ∧
    ∀ (ctx : Context) (f g : Fields), WrittenEntry f g → recordOf? ctx f = recordOf? ctx g :=
  ⟨fun n _ _ hshort hbefore hafter => ⟨rfl, intOf?_padded hshort hbefore hafter, textOf?_int n,
    textOf?_padded hbefore hafter⟩, fun ctx _ _ h => h.recordOf?_eq ctx⟩

/-! An entry whose numbers are written in a given way. -/

section Entry

variable (write : Int → Value)

/-- A place on the third line. -/
def onThirdLine (character : Int) : Value :=
  .object [(CodePoints.ofString "line", write 2),
    (CodePoints.ofString "character", write character)]

/-- A word there. -/
def word : Value :=
  .object [(CodePoints.ofString "start", onThirdLine write 4),
    (CodePoints.ofString "end", onThirdLine write 9)]

/-- The same word in another file. -/
def elsewhere : Value :=
  .object [(CodePoints.ofString "location", .object
    [(CodePoints.ofString "uri", .ofString "/words"),
      (CodePoints.ofString "range", word write)])]

/-- An entry for the word. -/
def misspelled : Fields :=
  [(CodePoints.ofString "message", .ofString "misspelled"),
   (CodePoints.ofString "code", write 404),
   (CodePoints.ofString "range", word write),
   (CodePoints.ofString "relatedInformation", .array [elsewhere write])]

end Entry

/-- A number written out on a line of its own. -/
def onOwnLine (n : Int) : Value :=
  .ofString ("\n\t" ++ toString n ++ " \n")

theorem written_onOwnLine {n : Int} (h : n.natAbs < 10 ^ 3) : Written (.int n) (onOwnLine n) :=
  .numeral (h.trans (Nat.pow_lt_pow_right (by decide) (by decide))) (by decide) (by decide)

theorem writtenPlace_onThirdLine {character : Int} (h : character.natAbs < 10 ^ 3) :
    WrittenPlace (onThirdLine .int character) (onThirdLine onOwnLine character) :=
  .object (.of_forall₂ (.cons ⟨rfl, written_onOwnLine (by decide)⟩
    (.cons ⟨rfl, written_onOwnLine h⟩ .nil)))

theorem writtenSpan_word : WrittenSpan (word .int) (word onOwnLine) :=
  .object (.of_forall₂ (.cons ⟨rfl, writtenPlace_onThirdLine (by decide)⟩
    (.cons ⟨rfl, writtenPlace_onThirdLine (by decide)⟩ .nil)))

theorem writtenElsewhere_elsewhere : WrittenElsewhere (elsewhere .int) (elsewhere onOwnLine) := by
  refine .object (.of_forall₂ (.cons ⟨rfl, ?_⟩ .nil))
  exact .object (.of_forall₂ (.cons ⟨rfl, rfl⟩ (.cons ⟨rfl, writtenSpan_word⟩ .nil)))

theorem writtenEntry_misspelled : WrittenEntry (misspelled .int) (misspelled onOwnLine) :=
  .of_forall₂ (.cons ⟨rfl, rfl⟩ (.cons ⟨rfl, .plain (written_onOwnLine (by decide))⟩
    (.cons ⟨rfl, writtenSpan_word⟩
      (.cons ⟨rfl, .array (.cons writtenElsewhere_elsewhere .nil)⟩ .nil))))

/-- An entry all of whose numbers are written on lines of their own. -/
theorem numerals_alike_misspelled :
    intOf? (onOwnLine (-7)) = some (-7) ∧ textOf? (onOwnLine (-7)) = some (.ofString "-7") ∧
      recordOf? { requestedUri := "/words" } (misspelled .int) =
        recordOf? { requestedUri := "/words" } (misspelled onOwnLine) := by
  have hshort : (-7 : Int).natAbs < 10 ^ Text.maxDigits :=
    Nat.lt_of_lt_of_le (by decide : _ < 10 ^ 1) (Nat.pow_le_pow_right (by decide) (by decide))
  obtain ⟨hnumber, hentry⟩ := numerals_alike
  obtain ⟨-, hint, -, htext⟩ := hnumber (-7) "\n\t" " \n" hshort (by decide) (by decide)
  exact ⟨hint, htext, hentry _ _ _ writtenEntry_misspelled⟩

end LintBridge.Response
