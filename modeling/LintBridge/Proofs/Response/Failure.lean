import LintBridge.Proofs.Json.Overlong
import LintBridge.Proofs.Json.Surrogate
import LintBridge.Proofs.Response.Decoders

/-!
# When reading an output fails

Whatever is wrong with the output of a linter is reported in the log and counts as no problems, with
one exception: an integer with too many digits is not taken for something wrong with a document. It
ends the reading of the whole output wherever a document is read.

* `LintBridge.Response.Trips` – the reading comes upon such an integer: in the output as a whole, on
  one of its lines, or in the document that the field of a nested response holds as a text.
  `LintBridge.FirstOf` says that nothing before the line or the response has ended it already;
* `LintBridge.Response.Unreadable` – an output that holds no document at all.

The main result is `LintBridge.Response.parse_fails_iff`: the reading fails **exactly when it comes
upon an integer with too many digits**, and an output that is unreadable for any other reason ends
in no problems and one warning.
-/

namespace LintBridge

/-! ### The first of a list -/

section First

variable {α : Type} {P : α → Nat → Prop} {x : α} {xs : List α} {k : Nat}

/-- **The first element of a list to which a property gives a number**, and the number it is given.
-/
inductive FirstOf (P : α → Nat → Prop) : List α → Nat → Prop where
  /-- It is the head of the list. -/
  | here {x : α} {xs : List α} {k : Nat} (h : P x k) : FirstOf P (x :: xs) k
  /-- It comes after a head to which no number is given. -/
  | later {x : α} {xs : List α} {k : Nat} (none : ∀ j, ¬ P x j) (h : FirstOf P xs k) :
    FirstOf P (x :: xs) k

theorem firstOf_cons : FirstOf P (x :: xs) k ↔ P x k ∨ (∀ j, ¬ P x j) ∧ FirstOf P xs k := by
  constructor
  · intro h
    cases h with
    | here h => exact .inl h
    | later none h => exact .inr ⟨none, h⟩
  · rintro (h | ⟨none, h⟩)
    · exact .here h
    · exact .later none h

theorem not_firstOf_nil : ¬ FirstOf P [] k := nofun

/-- The number comes from an element of the list. -/
theorem FirstOf.exists_mem (h : FirstOf P xs k) : ∃ x ∈ xs, P x k := by
  induction h with
  | here h => exact ⟨_, List.mem_cons_self, h⟩
  | later _ _ ih =>
    obtain ⟨x, hx, h⟩ := ih
    exact ⟨x, List.mem_cons_of_mem _ hx, h⟩

end First

namespace Response

open Json (Value Overlong CodePoint)

/-! ### The documents of an output -/

/-- An output without the blanks at its two ends. -/
def trimmed (stdout : String) : List Char :=
  Text.stripList Text.isBlank stdout.toList

/-- A line comes upon an integer with too many digits. -/
def OverlongLine (line : List Char) (k : Nat) : Prop :=
  Overlong (Text.stripList Text.isBlank line) k

/-- Reading the lines fails at the first that comes upon an integer with too many digits. -/
theorem lineDocuments_eq_error {lines : List (List Char)} {m : Mishap} :
    lineDocuments lines = .error m ↔ ∃ k, m = .tooManyDigits k ∧ FirstOf OverlongLine lines k := by
  induction lines with
  | nil =>
    constructor
    · intro h
      cases h
    · rintro ⟨k, -, h⟩
      exact absurd h not_firstOf_nil
  | cons line rest ih =>
    simp only [firstOf_cons, OverlongLine]
    unfold lineDocuments
    split
    · rename_i heq
      simp [ih, heq, Json.not_overlong_nil]
    · simp only [← Json.read_eq_tooManyDigits]
      cases hread : Json.read (String.ofList (Text.stripList Text.isBlank line)) with
      | ok v =>
        simp only [reduceCtorEq, not_false_eq_true, implies_true, true_and, false_or, ← ih]
        cases lineDocuments rest with
        | ok vs => simp [Except.map]
        | error m' => simp [Except.map]
      | error e =>
        cases e with
        | malformed | tooDeep => simp [ih]
        | tooManyDigits j => simp [eq_comm]

/-- Reading the documents of an output fails in the output as a whole, or on one of its lines. -/
theorem documents_eq_mishap {stdout : String} {m : Mishap} :
    documents stdout = .error (.mishap m) ↔ ∃ k, m = .tooManyDigits k ∧
      (Overlong (trimmed stdout) k ∨
        (∀ v, Json.read (String.ofList (trimmed stdout)) ≠ .ok v) ∧
          (∀ j, ¬ Overlong (trimmed stdout) j) ∧
          FirstOf OverlongLine (Text.lines (trimmed stdout)) k) := by
  unfold documents trimmed
  split
  · rename_i heq
    simp [heq, Json.not_overlong_nil, Text.lines, not_firstOf_nil]
  · generalize Text.stripList Text.isBlank stdout.toList = text
    simp only [← Json.read_eq_tooManyDigits]
    cases hread : Json.read (String.ofList text) with
    | ok v => simp
    | error e =>
      cases e with
      | tooManyDigits j => simp [eq_comm]
      | malformed | tooDeep =>
        cases hlines : lineDocuments (Text.lines text) with
        | ok vs =>
          -- The lines have been read, so that no integer on them has too many digits.
          have hnot : ∀ k, ¬ FirstOf OverlongLine (Text.lines text) k := by
            intro k h
            rw [lineDocuments_eq_error.mpr ⟨k, rfl, h⟩] at hlines
            cases hlines
          cases vs with
          | nil => simp [hnot]
          | cons v vs => simp [hnot]
        | error m' =>
          have hfirst : m' = m ↔ ∃ k, m = .tooManyDigits k ∧
              FirstOf OverlongLine (Text.lines text) k := by
            rw [← lineDocuments_eq_error, hlines, Except.error.injEq]
          simp [hfirst]

/-! ### The decoders -/

/-- The text of the field of a nested response comes upon an integer with too many digits. -/
def OverlongField (response : Value) (k : Nat) : Prop :=
  ∃ fields t, response = .object fields ∧ Json.get? fields "error" = some (.string t) ∧
    Overlong (t.map CodePoint.toChar) k

theorem innerDocument_eq_mishap {v : Value} {m : Mishap} :
    innerDocument v = .error (.mishap m) ↔ ∃ t k, v = .string t ∧ m = .tooManyDigits k ∧
      Overlong (t.map CodePoint.toChar) k := by
  -- A text with surrogates in it is read as far as it would be without.
  have hread : ∀ (t : Json.CodePoints) (k : Nat), Overlong (t.map CodePoint.toChar) k ↔
      Json.readText t = .error (.tooManyDigits k) := fun t k => by
    rw [Json.readText_eq_error, ← Json.read_eq_tooManyDigits]
    rfl
  simp only [hread]
  unfold innerDocument
  split
  · rename_i t
    simp only [Value.string.injEq, exists_and_left, exists_eq_left']
    cases htext : Json.readText t with
    | ok v => simp
    | error e =>
      cases e with
      | malformed | tooDeep => simp
      | tooManyDigits j => simp [eq_comm]
  · rename_i hnot
    constructor
    · intro h
      cases h
    · rintro ⟨t, -, rfl, -⟩
      exact absurd rfl (hnot t)

/-- A refusal is no mishap. -/
theorem mapError_shape_ne_mishap {α : Type} (x : Except ShapeError α) (m : Mishap) :
    x.mapError DecodeError.shape ≠ .error (.mishap m) := by
  intro h
  obtain ⟨e, -, he⟩ := mapError_eq_error.mp h
  cases he

theorem requireField_eq_ok {fields : Fields} {name : String} {v : Value} :
    requireField fields name = .ok v ↔ Json.get? fields name = some v := by
  unfold requireField
  cases Json.get? fields name with
  | none => simp
  | some w => simp

theorem requireObject_eq_ok {what : String} {v : Value} {fields : Fields} :
    requireObject what v = .ok fields ↔ v = .object fields := by
  unfold requireObject
  cases v <;> simp

/-- The groups of a nested response are lost to the text that holds them. -/
theorem nestedGroups_eq_mishap {ctx : Context} {response : Value} {m : Mishap} :
    nestedGroups ctx response = .error (.mishap m) ↔
      ∃ k, m = .tooManyDigits k ∧ OverlongField response k := by
  unfold nestedGroups
  simp only [bind_eq_error, mapError_shape_ne_mishap, false_or, mapError_eq_ok,
    requireObject_eq_ok, requireField_eq_ok, innerDocument_eq_mishap, or_false, and_false,
    exists_false]
  constructor
  · rintro ⟨fields, rfl, _, hfield, t, k, rfl, rfl, h⟩
    exact ⟨k, rfl, fields, t, rfl, hfield, h⟩
  · rintro ⟨k, rfl, fields, t, rfl, hfield, h⟩
    exact ⟨fields, rfl, _, hfield, t, k, rfl, rfl, h⟩

/-- Of the decoders, only the one of nested responses can fail. -/
theorem decode_eq_error {shape : Shape} {ctx : Context} {response : Value} {m : Mishap} :
    shape.decode ctx response = .error m ↔
      shape = .nestedError ∧ ∃ k, m = .tooManyDigits k ∧ OverlongField response k := by
  have hgroups : shape.decode ctx response = .error m ↔
      shape.groups ctx response = .error (.mishap m) := by
    unfold Shape.decode
    cases shape.groups ctx response with
    | ok groups => simp
    | error e => cases e <;> simp
  rw [hgroups]
  cases shape with
  | flatList => simp [Shape.groups, mapError_shape_ne_mishap]
  | nestedError => simp [Shape.groups, nestedGroups_eq_mishap]
  | protoEnvelope => simp [Shape.groups, mapError_shape_ne_mishap]

/-- A decoder lets the others try. -/
def PassesOn (shape : Shape) (ctx : Context) (response : Value) : Prop :=
  ∀ groups, shape.groups ctx response = .ok groups → hasFindings groups = false

/-- Decoders fail on a document as the first of them that is asked and fails. -/
theorem tryShapes_cons_eq_error {ctx : Context} {document : Value} {shape : Shape}
    {rest : List Shape} {m : Mishap} :
    tryShapes ctx document (shape :: rest) = .error m ↔
      shape.decode ctx document = .error m ∨
        PassesOn shape ctx document ∧ (∀ m', shape.decode ctx document ≠ .error m') ∧
          tryShapes ctx document rest = .error m := by
  unfold PassesOn
  simp only [tryShapes_cons, bind_eq_error]
  unfold Shape.decode
  cases hgroups : shape.groups ctx document with
  | ok groups =>
    cases hfind : hasFindings groups with
    | true => simp [hfind, pure_ne_error]
    | false => simp [hfind, map_eq_error]
  | error e =>
    cases e with
    | shape e => simp [map_eq_error]
    | mishap m' => simp

/-- A document ends the reading in its field, unless the decoder of flat lists finds something in
it before that. -/
def OverlongResponse (ctx : Context) (document : Value) (k : Nat) : Prop :=
  PassesOn .flatList ctx document ∧ OverlongField document k

theorem tryShapes_eq_error {ctx : Context} {document : Value} {m : Mishap} :
    tryShapes ctx document Shape.all = .error m ↔
      ∃ k, m = .tooManyDigits k ∧ OverlongResponse ctx document k := by
  unfold Shape.all OverlongResponse
  rw [tryShapes_cons_eq_error, tryShapes_cons_eq_error, tryShapes_cons_eq_error]
  simp only [ne_eq, decode_eq_error, tryShapes_nil, reduceCtorEq, false_and, true_and, false_or,
    and_false, or_false, not_false_eq_true, implies_true]
  constructor
  · rintro ⟨hflat, k, rfl, h⟩
    exact ⟨k, rfl, hflat, h⟩
  · rintro ⟨k, rfl, hflat, h⟩
    exact ⟨hflat, k, rfl, h⟩

theorem decodeDocument_eq_error {ctx : Context} {document : Value} {m : Mishap} :
    (decodeDocument Shape.all ctx document).result = .error m ↔
      ∃ k, m = .tooManyDigits k ∧ OverlongResponse ctx document k := by
  rw [result_decodeDocument, ← tryShapes_eq_error]
  exact map_eq_error

/-- Reading the documents fails at the first that ends the reading in its field. -/
theorem decodeDocuments_eq_error {ctx : Context} {docs : List Value} {m : Mishap} :
    (decodeDocuments Shape.all ctx docs).result = .error m ↔
      ∃ k, m = .tooManyDigits k ∧ FirstOf (OverlongResponse ctx) docs k := by
  induction docs with
  | nil =>
    constructor
    · intro h
      cases h
    · rintro ⟨k, -, h⟩
      exact absurd h not_firstOf_nil
  | cons document rest ih =>
    simp only [decodeDocuments, Traced.result_bind, bind_eq_error, firstOf_cons,
      decodeDocument_eq_error, ih]
    -- A document after the first is read only if the first has been.
    constructor
    · rintro (⟨k, rfl, h⟩ | ⟨groups, hgroups, ⟨k, rfl, h⟩ | ⟨_, -, h⟩⟩)
      · exact ⟨k, rfl, .inl h⟩
      · refine ⟨k, rfl, .inr ⟨fun j hj => ?_, h⟩⟩
        rw [decodeDocument_eq_error.mpr ⟨j, rfl, hj⟩] at hgroups
        cases hgroups
      · cases h
    · rintro ⟨k, rfl, h | ⟨none, h⟩⟩
      · exact .inl ⟨k, rfl, h⟩
      · cases hgroups : (decodeDocument Shape.all ctx document).result with
        | ok groups => exact .inr ⟨groups, rfl, .inl ⟨k, rfl, h⟩⟩
        | error m =>
          obtain ⟨j, -, hj⟩ := decodeDocument_eq_error.mp hgroups
          exact absurd hj (none j)

/-! ### The whole output -/

/-- **The reading of an output comes upon an integer with too many digits.** -/
inductive Trips (ctx : Context) (stdout : String) : Nat → Prop where
  /-- It does in the output as a whole. -/
  | whole {k : Nat} (h : Overlong (trimmed stdout) k) : Trips ctx stdout k
  /-- The output is not one document, and it does on a line. -/
  | line {k : Nat} (unread : ∀ v, Json.read (String.ofList (trimmed stdout)) ≠ .ok v)
    (whole : ∀ j, ¬ Overlong (trimmed stdout) j)
    (h : FirstOf OverlongLine (Text.lines (trimmed stdout)) k) : Trips ctx stdout k
  /-- There are documents, and it does in the field of one. -/
  | response {k : Nat} {docs : List Value} (read : documents stdout = .ok docs)
    (h : FirstOf (OverlongResponse ctx) docs k) : Trips ctx stdout k

/-- An output that holds no document, neither as a whole nor on one of its lines. -/
structure Unreadable (stdout : String) : Prop where
  /-- There is something in it. -/
  nonblank : trimmed stdout ≠ []
  /-- It is no document. -/
  whole : ∀ v, Json.read (String.ofList (trimmed stdout)) ≠ .ok v
  /-- None of its lines is one. -/
  line : ∀ line ∈ Text.lines (trimmed stdout), ∀ v,
    Json.read (String.ofList (Text.stripList Text.isBlank line)) ≠ .ok v

/-- The reading fails exactly where it trips, for the digits of the integer. -/
theorem parse_eq_error {ctx : Context} {stdout : String} {m : Mishap} :
    (parse Shape.all ctx stdout).result = .error m ↔
      ∃ k, m = .tooManyDigits k ∧ Trips ctx stdout k := by
  constructor
  · intro h
    unfold parse at h
    split at h
    · cases h
    · rename_i m' hdocs
      cases h
      obtain ⟨k, rfl, hk | ⟨unread, whole, hk⟩⟩ := documents_eq_mishap.mp hdocs
      · exact ⟨k, rfl, .whole hk⟩
      · exact ⟨k, rfl, .line unread whole hk⟩
    · rename_i docs hdocs
      obtain ⟨k, rfl, hk⟩ := decodeDocuments_eq_error.mp h
      exact ⟨k, rfl, .response hdocs hk⟩
  · rintro ⟨k, rfl, h⟩
    unfold parse
    cases h with
    | whole h => rw [documents_eq_mishap.mpr ⟨k, rfl, .inl h⟩, Traced.result_fail]
    | line unread whole h =>
      rw [documents_eq_mishap.mpr ⟨k, rfl, .inr ⟨unread, whole, h⟩⟩, Traced.result_fail]
    | response read h =>
      rw [read]
      exact decodeDocuments_eq_error.mpr ⟨k, rfl, h⟩

/-- The integer that ends the reading has more digits than the reader takes. -/
theorem Trips.maxDigits_lt {ctx : Context} {stdout : String} {k : Nat} (h : Trips ctx stdout k) :
    Text.maxDigits < k := by
  cases h with
  | whole h => exact h.maxDigits_lt
  | line _ _ h =>
    obtain ⟨_, -, h⟩ := h.exists_mem
    exact h.maxDigits_lt
  | response _ h =>
    obtain ⟨_, -, -, _, _, -, -, h⟩ := h.exists_mem
    exact h.maxDigits_lt

/-- Lines of which none is a document hold no documents. -/
theorem lineDocuments_of_unreadable {lines : List (List Char)}
    (hread : ∀ line ∈ lines, ∀ v,
      Json.read (String.ofList (Text.stripList Text.isBlank line)) ≠ .ok v)
    {vs : List Value} (h : lineDocuments lines = .ok vs) : vs = [] := by
  induction lines generalizing vs with
  | nil =>
    cases h
    rfl
  | cons line rest ih =>
    have hrest : ∀ {vs}, lineDocuments rest = .ok vs → vs = [] :=
      ih fun l hl => hread l (List.mem_cons_of_mem _ hl)
    unfold lineDocuments at h
    split at h
    · exact hrest h
    · split at h
      · rename_i v hv
        exact absurd hv (hread line List.mem_cons_self v)
      · cases h
      · exact hrest h

theorem Unreadable.documents_ne_ok {stdout : String} (h : Unreadable stdout) (docs : List Value) :
    documents stdout ≠ .ok docs := by
  intro hdocs
  unfold documents at hdocs
  split at hdocs
  · rename_i hnil
    exact h.nonblank hnil
  · split at hdocs
    · rename_i v hv
      exact h.whole v hv
    · cases hdocs
    · split at hdocs
      · cases hdocs
      · rename_i hne heq
        exact hne (lineDocuments_of_unreadable h.line heq)
      · cases hdocs

/-- An unreadable output that does not trip the reading counts as no problems, which is reported. -/
theorem parse_of_unreadable {ctx : Context} {stdout : String} (hno : ∀ k, ¬ Trips ctx stdout k)
    (h : Unreadable stdout) : (parse Shape.all ctx stdout).result = .ok [] ∧
      ∃ message, (parse Shape.all ctx stdout).log = [{ level := .warning, message }] := by
  have hresult : ∀ m, (parse Shape.all ctx stdout).result ≠ .error m := by
    intro m hm
    obtain ⟨k, -, hk⟩ := parse_eq_error.mp hm
    exact hno k hk
  unfold parse at hresult ⊢
  split
  · exact ⟨rfl, _, rfl⟩
  · rename_i m hdocs
    rw [hdocs] at hresult
    exact absurd rfl (hresult m)
  · rename_i docs hdocs
    exact absurd hdocs (h.documents_ne_ok docs)

/-- A text of digits alone can be too long for an integer. -/
theorem overlong_replicate {n : Nat} (h : Text.maxDigits < n) :
    Overlong (List.replicate n '1') n := by
  have hskip : Json.skipBlanks (List.replicate n '1') = List.replicate n '1' := by
    cases n with
    | zero => rfl
    | succ n => rfl
  unfold Overlong
  rw [hskip]
  refine .integer ⟨[], List.replicate n '1', [], by simp, .inl rfl, ?_, ?_, by simp, h, ?_, ?_⟩
  · intro c hc
    rw [List.eq_of_mem_replicate hc]
    rfl
  · cases n with
    | zero => simp
    | succ n => simp [List.replicate_succ]
  · simp
  · exact ⟨rfl, rfl⟩

theorem trimmed_replicate (n : Nat) :
    trimmed (String.ofList (List.replicate n '1')) = List.replicate n '1' := by
  have hdrop : (List.replicate n '1').dropWhile Text.isBlank = List.replicate n '1' := by
    cases n with
    | zero => rfl
    | succ n => rfl
  unfold trimmed Text.stripList
  rw [String.toList_ofList, hdrop, List.reverse_replicate, hdrop, List.reverse_replicate]

/-- **Reading an output fails exactly when it comes upon an integer with too many digits**, with
that and nothing else as the reason. Otherwise an output that holds no document ends in no problems
and a warning. -/
theorem parse_fails_iff (ctx : Context) (stdout : String) :
    (∀ m, (parse Shape.all ctx stdout).result = .error m ↔
      ∃ k, m = .tooManyDigits k ∧ Trips ctx stdout k) ∧
    (∀ k, Trips ctx stdout k → Text.maxDigits < k) ∧
    ((∀ k, ¬ Trips ctx stdout k) → Unreadable stdout →
      (parse Shape.all ctx stdout).result = .ok [] ∧
        ∃ message, (parse Shape.all ctx stdout).log = [{ level := .warning, message }]) :=
  ⟨fun _ => parse_eq_error, fun _ h => h.maxDigits_lt, parse_of_unreadable⟩

/-- An output of `4301` digits is not taken for something wrong with the output. -/
theorem parse_fails_of_digits : ¬ ∀ (ctx : Context) (stdout : String),
    ∃ groups, (parse Shape.all ctx stdout).result = .ok groups := by
  intro h
  have hlong := overlong_replicate (show Text.maxDigits < 4301 by decide)
  obtain ⟨groups, hgroups⟩ :=
    h { requestedUri := "file:///app.py" } (String.ofList (List.replicate 4301 '1'))
  rw [parse_eq_error.mpr ⟨4301, rfl, .whole (by rwa [trimmed_replicate])⟩] at hgroups
  cases hgroups

end Response

end LintBridge
