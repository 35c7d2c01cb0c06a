import LintBridge.Proofs.Response.Failure
import LintBridge.Proofs.Text.Rows
import Mathlib.Data.List.Forall2

/-!
# Lines that are read separately

An output that is not one document is read line by line, and then **no line has a say in what
another one contributes**. `LintBridge.Response.parse_lines` says so without a word about lines that
are read: the groups of the whole are those of the outputs that each consist of one line, one after
the other. A line that is no document contributes none, whatever stands on it.

Both sides trim. The whole is trimmed before it is split and then each line is, while an output of
one line is trimmed once; the rows of a text (`LintBridge.Text.rows`) do not know the difference.
-/

namespace LintBridge.Response

open Json (Value)

/-! ### The documents on lines -/

/-- Reading lines looks at their rows only. -/
theorem lineDocuments_eq_rowsOf (ls : List (List Char)) :
    lineDocuments ls = lineDocuments (Text.rowsOf ls) := by
  induction ls with
  | nil => rfl
  | cons l ls ih =>
    rw [lineDocuments.eq_2, Text.rowsOf_cons]
    cases hl : Text.stripList Text.isBlank l with
    | nil =>
      have hrow : Text.rowsOf [l] = [] := by simp [Text.rowsOf, hl]
      rw [hrow]
      exact ih
    | cons c row =>
      have hrow : Text.rowsOf [l] = [c :: row] := by simp [Text.rowsOf, hl]
      have hstrip : Text.stripList Text.isBlank (c :: row) = c :: row := by
        rw [← hl, Text.stripList_stripList]
      rw [hrow, List.singleton_append, lineDocuments.eq_2, hstrip, ih]

/-- Reading the lines of a text does not depend on whether it has been trimmed. -/
theorem lineDocuments_trimmed (stdout : String) :
    lineDocuments (Text.lines (trimmed stdout)) = lineDocuments (Text.lines stdout.toList) := by
  rw [lineDocuments_eq_rowsOf, lineDocuments_eq_rowsOf (Text.lines stdout.toList)]
  exact congrArg lineDocuments (Text.rows_stripList stdout.toList)

/-- One line is read as it is when it stands in front of others. -/
theorem lineDocuments_cons (l : List Char) (ls : List (List Char)) :
    lineDocuments (l :: ls) =
      lineDocuments [l] >>= fun vs => (lineDocuments ls).map (vs ++ ·) := by
  have hnone : lineDocuments ls = (lineDocuments ls).map ([] ++ ·) := by
    cases lineDocuments ls <;> rfl
  simp only [lineDocuments.eq_2]
  split
  · exact hnone
  · split
    · rfl
    · rfl
    · exact hnone

/-! ### The groups of documents -/

section Groups

variable (shapes : List Shape) (ctx : Context)

/-- The groups of documents that are read together. -/
theorem result_decodeDocuments_append (vs ws : List Value) :
    (decodeDocuments shapes ctx (vs ++ ws)).result =
      (decodeDocuments shapes ctx vs).result >>= fun groups =>
        (decodeDocuments shapes ctx ws).result.map (groups ++ ·) := by
  induction vs with
  | nil =>
    change _ = (decodeDocuments shapes ctx ws).result.map ([] ++ ·)
    cases hws : (decodeDocuments shapes ctx ws).result with
    | ok groups => exact hws
    | error m => exact hws
  | cons v vs ih =>
    simp only [List.cons_append, decodeDocuments, Traced.result_bind, Traced.result_pure, ih,
      bind_assoc]
    refine bind_congr fun groups => bind_congr fun more => ?_
    cases (decodeDocuments shapes ctx ws).result with
    | ok rest => exact congrArg Except.ok (List.append_assoc groups more rest).symm
    | error m => rfl

/-- **The groups of the documents on lines**, once an output has been found to be none itself. -/
def lineGroups (ls : List (List Char)) : Except Mishap (List Group) :=
  lineDocuments ls >>= fun vs => (decodeDocuments shapes ctx vs).result

/-- The groups of lines are those of the first, and then those of the others. Where both fail it
need not be in the same way: all lines are read before any is decoded. -/
theorem lineGroups_cons_eq_ok {l : List Char} {ls : List (List Char)} {groups : List Group} :
    lineGroups shapes ctx (l :: ls) = .ok groups ↔
      ∃ first rest, lineGroups shapes ctx [l] = .ok first ∧ lineGroups shapes ctx ls = .ok rest ∧
        groups = first ++ rest := by
  unfold lineGroups
  rw [lineDocuments_cons]
  simp only [bind_eq_ok, map_eq_ok]
  constructor
  · rintro ⟨_, ⟨vs, hvs, ws, hws, rfl⟩, h⟩
    rw [result_decodeDocuments_append, bind_eq_ok] at h
    obtain ⟨first, hfirst, h⟩ := h
    obtain ⟨rest, hrest, rfl⟩ := map_eq_ok.mp h
    exact ⟨first, rest, ⟨vs, hvs, hfirst⟩, ⟨ws, hws, hrest⟩, rfl⟩
  · rintro ⟨first, rest, ⟨vs, hvs, hfirst⟩, ⟨ws, hws, hrest⟩, rfl⟩
    refine ⟨vs ++ ws, ⟨vs, hvs, ws, hws, rfl⟩, ?_⟩
    rw [result_decodeDocuments_append, bind_eq_ok]
    exact ⟨first, hfirst, map_eq_ok.mpr ⟨rest, hrest, rfl⟩⟩

/-- **The groups of lines are those of each line alone.** -/
theorem lineGroups_eq_ok {ls : List (List Char)} {groups : List Group} :
    lineGroups shapes ctx ls = .ok groups ↔
      ∃ parts, List.Forall₂ (fun l part => lineGroups shapes ctx [l] = .ok part) ls parts ∧
        groups = parts.flatten := by
  induction ls generalizing groups with
  | nil =>
    constructor
    · rintro ⟨⟩
      exact ⟨[], .nil, rfl⟩
    · rintro ⟨_, ⟨⟩, rfl⟩
      rfl
  | cons l ls ih =>
    rw [lineGroups_cons_eq_ok]
    constructor
    · rintro ⟨first, rest, hfirst, hrest, rfl⟩
      obtain ⟨parts, hparts, rfl⟩ := ih.mp hrest
      exact ⟨first :: parts, .cons hfirst hparts, rfl⟩
    · rintro ⟨_, hfirst | ⟨hfirst, hparts⟩, rfl⟩
      exact ⟨_, _, hfirst, ih.mpr ⟨_, hparts, rfl⟩, rfl⟩

variable {shapes ctx}

/-- A line that is no document contributes no groups. -/
theorem lineGroups_of_unread {l : List Char} {groups : List Group}
    (unread : ∀ v, Json.read (String.ofList (Text.stripList Text.isBlank l)) ≠ .ok v)
    (h : lineGroups shapes ctx [l] = .ok groups) : groups = [] := by
  obtain ⟨vs, hvs, hgroups⟩ := bind_eq_ok.mp h
  obtain rfl := lineDocuments_of_unreadable (List.forall_mem_singleton.mpr unread) hvs
  cases hgroups
  rfl

/-! ### Whole outputs -/

variable {stdout : String}

/-- An output that is not one document, and whose reading does not fail at once, is read by its
lines. -/
theorem result_parse_of_unread (unread : ∀ v, Json.read (String.ofList (trimmed stdout)) ≠ .ok v)
    (short : ∀ k, Json.read (String.ofList (trimmed stdout)) ≠ .error (.tooManyDigits k)) :
    (parse shapes ctx stdout).result = lineGroups shapes ctx (Text.lines stdout.toList) := by
  rw [lineGroups, ← lineDocuments_trimmed]
  cases htrimmed : trimmed stdout with
  | nil =>
    have hdocuments : documents stdout = .ok [] := by
      rw [documents.eq_1, ← trimmed, htrimmed]
    rw [parse, hdocuments]
    rfl
  | cons c text =>
    rw [htrimmed] at unread short
    rw [parse, documents.eq_1, ← trimmed, htrimmed]
    cases hread : Json.read (String.ofList (c :: text)) with
    | ok v => exact absurd hread (unread v)
    | error e =>
      cases e with
      | tooManyDigits k => exact absurd hread (short k)
      | malformed | tooDeep =>
        simp only [hread]
        cases lineDocuments (Text.lines (c :: text)) with
        | error m => rfl
        | ok vs => cases vs <;> rfl

/-- An output of one line is read as the line is. -/
theorem result_parse_line {l : List Char} (h : Text.Unbroken l) :
    (parse shapes ctx (String.ofList l)).result = lineGroups shapes ctx [l] := by
  have htrimmed : trimmed (String.ofList l) = Text.stripList Text.isBlank l := by
    rw [trimmed, String.toList_ofList]
  cases hl : Text.stripList Text.isBlank l with
  | nil =>
    rw [parse, documents.eq_1, ← trimmed, htrimmed, lineGroups, lineDocuments.eq_2, hl]
    rfl
  | cons c text =>
    rw [hl] at htrimmed
    cases hread : Json.read (String.ofList (c :: text)) with
    | ok v =>
      rw [parse, documents.eq_1, ← trimmed, htrimmed, lineGroups, lineDocuments.eq_2, hl]
      simp only [hread]
      rfl
    | error e =>
      cases e with
      | tooManyDigits k =>
        rw [parse, documents.eq_1, ← trimmed, htrimmed, lineGroups, lineDocuments.eq_2, hl]
        simp only [hread]
        rfl
      | malformed | tooDeep =>
        rw [result_parse_of_unread (by simp only [htrimmed, hread]; simp)
          (by simp only [htrimmed, hread]; simp), String.toList_ofList, lineGroups, lineGroups,
          lineDocuments_eq_rowsOf, lineDocuments_eq_rowsOf [l], ← Text.rows_of_unbroken h,
          Text.rows]

/-- **The lines of an output are read separately.** Where an output is not one document and reading
it does not fail, reading none of its lines alone does, and its groups are those of its lines, one
line after the other. A line that is no document contributes none. -/
theorem parse_lines {groups : List Group}
    (unread : ∀ v, Json.read (String.ofList (trimmed stdout)) ≠ .ok v)
    (h : (parse shapes ctx stdout).result = .ok groups) :
    ∃ parts, groups = parts.flatten ∧
      List.Forall₂ (fun l part => (parse shapes ctx (String.ofList l)).result = .ok part ∧
          ((∀ v, Json.read (String.ofList (trimmed (String.ofList l))) ≠ .ok v) → part = []))
        (Text.lines stdout.toList) parts := by
  have hshort : ∀ k, Json.read (String.ofList (trimmed stdout)) ≠ .error (.tooManyDigits k) := by
    intro k hread
    have hfail := documents_eq_mishap.mpr ⟨k, rfl, .inl (Json.read_eq_tooManyDigits.mp hread)⟩
    rw [parse, hfail] at h
    cases h
  rw [result_parse_of_unread unread hshort, lineGroups_eq_ok] at h
  obtain ⟨parts, hparts, rfl⟩ := h
  refine ⟨parts, rfl, ?_⟩
  refine ((List.forall₂_and_left _ _).mpr ⟨Text.unbroken_of_mem_lines, hparts⟩).imp ?_
  rintro l part ⟨hunbroken, hpart⟩
  refine ⟨(result_parse_line hunbroken).trans hpart, fun hline => lineGroups_of_unread ?_ hpart⟩
  rwa [trimmed, String.toList_ofList] at hline

end Groups

/-- Two documents among lines that are none: words, a blank, and a brace without its partner. -/
def mixed : String :=
  "starting\n\x7b\"errors\":[\x7b\"message\":\"a\"\x7d]\x7d\n\n\x7b\r\n" ++
    " \x7b\"errors\":[\x7b\"message\":\"b\"\x7d]\x7d "

/-- The group of a document with one message. -/
def said (message : String) : Group where
  target := .ofString "file:///app.py"
  diagnostics := [{ range := default, message := .ofString message, severity := .warning }]

theorem parse_mixed : (parse Shape.all { requestedUri := "file:///app.py" } mixed).result =
    .ok [said "a", said "b"] :=
  eq_ok_of_toOption (by decide +kernel)

/-- The groups come from the second line and from the fifth. -/
theorem parse_lines_mixed : (∀ v, Json.read (String.ofList (trimmed mixed)) ≠ .ok v) ∧
    ∃ parts, [said "a", said "b"] = parts.flatten ∧
      List.Forall₂ (fun l part => (parse Shape.all { requestedUri := "file:///app.py" }
            (String.ofList l)).result = .ok part ∧
          ((∀ v, Json.read (String.ofList (trimmed (String.ofList l))) ≠ .ok v) → part = []))
        (Text.lines mixed.toList) parts := by
  have unread : ∀ v, Json.read (String.ofList (trimmed mixed)) ≠ .ok v := by
    intro v h
    have hnone : (Json.read (String.ofList (trimmed mixed))).toOption = none := by decide +kernel
    rw [h] at hnone
    cases hnone
  exact ⟨unread, parse_lines unread parse_mixed⟩

end LintBridge.Response
