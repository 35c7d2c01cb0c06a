import LintBridge.Proofs.Settings.Valid

/-!
# The fields of settings

Settings are nine fields, and whatever is done to settings is done to each of them in the same way:
it is looked up under its name, checked, put in place, and written out again
(`LintBridge.Settings.Field`). What holds of settings as a whole is therefore said field by field:

* `LintBridge.Settings.check_eq_valid_iff`, `LintBridge.Settings.issues_check` – settings are read
  from an object field by field, and so are the issues with it, unless the check of the severity
  ends before there are any (`LintBridge.Settings.fault?_check`);
* `LintBridge.Settings.isValid_iff` – **settings can be used exactly if no check changes what a
  field is written out as**;
* `LintBridge.Settings.get_set_of_ne`, `LintBridge.Settings.ext_fields` – a field is put in place
  without the others, and the fields are all there is to settings.
-/

namespace LintBridge

open Json (Value CodePoints)

namespace Settings

open Response (Fields)

/-! ### Fields -/

/-- **A field of settings.** -/
structure Field where
  /-- What the field holds. -/
  Kind : Type
  /-- The name of the field in an object. -/
  name : String
  /-- The field of settings. -/
  get : Settings → Kind
  /-- Settings with the field replaced. -/
  set : Settings → Kind → Settings
  /-- The field as it is read. -/
  check : Value → Checked Kind
  /-- The field as it is written out. -/
  write : Kind → Value

/-- The fields of settings, in order. -/
def fields : List Field :=
  [{ Kind := CodePoints
     name := "executable"
     get := executable
     set := fun s x => { s with executable := x }
     check := checkExecutable
     write := .string },
   { Kind := List CodePoints
     name := "lint_args"
     get := lintArgs
     set := fun s x => { s with lintArgs := x }
     check := Checked.listOf Checked.text
     write := fun x => .array (x.map .string) },
   { Kind := Bool
     name := "lint_whole_project"
     get := lintWholeProject
     set := fun s x => { s with lintWholeProject := x }
     check := Checked.bool
     write := .bool },
   { Kind := List CodePoints
     name := "project_markers"
     get := projectMarkers
     set := fun s x => { s with projectMarkers := x }
     check := Checked.listOf Checked.text
     write := fun x => .array (x.map .string) },
   { Kind := Option Binary64
     name := "timeout_seconds"
     get := timeoutSeconds
     set := fun s x => { s with timeoutSeconds := x }
     check := checkTimeout
     write := fun x => (x.map Value.float).getD .null },
   { Kind := Binary64
     name := "debounce_seconds"
     get := debounceSeconds
     set := fun s x => { s with debounceSeconds := x }
     check := checkDebounce
     write := .float },
   { Kind := CodePoints
     name := "source"
     get := source
     set := fun s x => { s with source := x }
     check := Checked.text
     write := .string },
   { Kind := Severity
     name := "minimum_severity"
     get := minimumSeverity
     set := fun s x => { s with minimumSeverity := x }
     check := checkSeverity
     write := fun x => .int x.number },
   { Kind := Option Nat
     name := "max_problems"
     get := maxProblems
     set := fun s x => { s with maxProblems := x }
     check := Checked.optional (Checked.atLeast 1)
     write := fun x => (x.map fun n : Nat => Value.int (n : Int)).getD .null }]

theorem names_nodup : (fields.map (·.name)).Nodup := by
  decide

/-- No two fields have one name. -/
theorem eq_of_name_eq : ∀ f ∈ fields, ∀ g ∈ fields, f.name = g.name → f = g :=
  fun _ hf _ hg h => List.inj_on_of_nodup_map names_nodup hf hg h

section Lens

variable {s t : Settings}

/-- A field that is put in place is there. -/
theorem get_set : ∀ f ∈ fields, ∀ (s : Settings) (x : f.Kind), f.get (f.set s x) = x := by
  simp [fields]

/-- **Putting a field in place leaves the others alone.** -/
theorem get_set_of_ne : ∀ f ∈ fields, ∀ g ∈ fields, g.name ≠ f.name →
    ∀ (s : Settings) (x : f.Kind), g.get (f.set s x) = g.get s := by
  simp [fields]

/-- **Settings are their fields.** -/
theorem ext_fields (h : ∀ f ∈ fields, f.get s = f.get t) : s = t := by
  simp only [fields, List.forall_mem_cons] at h
  obtain ⟨h0, h1, h2, h3, h4, h5, h6, h7, h8, -⟩ := h
  cases s
  cases t
  simp only [mk.injEq]
  exact ⟨h0, h1, h2, h3, h4, h5, h6, h7, h8⟩

/-- Settings are written out field by field. -/
theorem toFields_eq (s : Settings) :
    s.toFields = fields.map fun f => (f.name, f.write (f.get s)) := by
  obtain ⟨_, _, _, _, timeout, _, _, _, max⟩ := s
  cases timeout <;> cases max <;> rfl

/-- A field is written out under its name. -/
theorem lookup_toFields (s : Settings) :
    ∀ f ∈ fields, s.toFields.lookup f.name = some (f.write (f.get s)) := by
  rw [toFields_eq]
  simp only [fields, List.forall_mem_cons, List.not_mem_nil, false_imp_iff, implies_true, and_true]
  exact ⟨rfl, rfl, rfl, rfl, rfl, rfl, rfl, rfl, rfl⟩

end Lens

/-! ### Fields read as they are written out -/

section Written

theorem checkExecutable_write {text : CodePoints} :
    checkExecutable (.string text) = .valid text ↔ text.IsWord := by
  refine ⟨checkExecutable_isWord, fun h => ?_⟩
  simp only [checkExecutable, Checked.text, Checked.andThen, if_neg h.not_isAllBlank, h.trimmed]

theorem checkTimeout_write {x : Option Binary64} :
    checkTimeout ((x.map Value.float).getD .null) = .valid x ↔ ∀ y ∈ x, y.isPositive = true := by
  constructor
  · rintro h y rfl
    exact checkTimeout_isPositive h
  · intro h
    cases x with
    | none => rfl
    | some x =>
      simp only [Option.map_some, Option.getD_some, checkTimeout, Checked.optional, Checked.float,
        Checked.andThen, h x rfl, if_true]
      rfl

theorem checkDebounce_write {x : Binary64} :
    checkDebounce (.float x) = .valid x ↔ x.isNonnegative = true := by
  refine ⟨checkDebounce_isNonnegative, fun h => ?_⟩
  simp only [checkDebounce, Checked.float, Checked.andThen, h, if_true]

theorem checkSeverity_write (severity : Severity) :
    checkSeverity (.int severity.number) = .valid severity := by
  cases severity <;> rfl

theorem atLeast_write {bound : Nat} {x : Option Nat} :
    Checked.optional (Checked.atLeast bound)
        ((x.map fun n : Nat => Value.int (n : Int)).getD .null) = .valid x ↔
      ∀ n ∈ x, bound ≤ n := by
  constructor
  · rintro h n rfl
    exact atLeast_le (Checked.optional_eq_valid h)
  · intro h
    cases x with
    | none => rfl
    | some n =>
      have hle : (bound : Int) ≤ n := Int.ofNat_le.mpr (h n rfl)
      simp only [Option.map_some, Option.getD_some, Checked.optional, Checked.atLeast, Checked.int,
        Checked.andThen, if_pos hle]
      rfl

/-- **Settings can be used exactly if no check changes what a field is written out as.** -/
theorem isValid_iff {s : Settings} :
    s.IsValid ↔ ∀ f ∈ fields, f.check (f.write (f.get s)) = .valid (f.get s) := by
  simp only [fields, List.forall_mem_cons, List.not_mem_nil, false_imp_iff, implies_true, and_true,
    checkExecutable_write, checkTimeout_write, checkDebounce_write, checkSeverity_write,
    atLeast_write, true_and]
  constructor
  · intro h
    exact ⟨h.executable, Checked.items_text 0 s.lintArgs, rfl,
      Checked.items_text 0 s.projectMarkers, h.timeout, h.debounce, rfl, h.maxProblems⟩
  · rintro ⟨hexecutable, -, -, -, htimeout, hdebounce, -, hmax⟩
    exact ⟨hexecutable, htimeout, hdebounce, hmax⟩

end Written

/-! ### Settings read field by field -/

section Check

variable {s : Settings}

/-- **Settings are read from an object field by field**, with the default where a field is absent.
-/
theorem check_eq_valid_iff {entries : Fields} :
    check (.object entries) = .valid s ↔
      ∀ f ∈ fields, Checked.defaulted f.name (f.get {}) f.check entries = .valid (f.get s) := by
  simp only [fields, List.forall_mem_cons, List.not_mem_nil, false_imp_iff, implies_true, and_true,
    check, Checked.entries, Checked.andThen, Checked.seq_eq_valid, Checked.map_eq_valid]
  constructor
  · rintro ⟨_, _, ⟨_, _, ⟨_, _, ⟨_, _, ⟨_, _, ⟨_, _, ⟨_, _, ⟨_, _, ⟨_, h0, rfl⟩, h1, rfl⟩, h2, rfl⟩,
      h3, rfl⟩, h4, rfl⟩, h5, rfl⟩, h6, rfl⟩, h7, rfl⟩, h8, rfl⟩
    exact ⟨h0, h1, h2, h3, h4, h5, h6, h7, h8⟩
  · rintro ⟨h0, h1, h2, h3, h4, h5, h6, h7, h8⟩
    exact ⟨_, _, ⟨_, _, ⟨_, _, ⟨_, _, ⟨_, _, ⟨_, _, ⟨_, _, ⟨_, _, ⟨_, h0, rfl⟩, h1, rfl⟩, h2, rfl⟩,
      h3, rfl⟩, h4, rfl⟩, h5, rfl⟩, h6, rfl⟩, h7, rfl⟩, h8, rfl⟩

/-- **The check of an object ends with that of the severity**, and with no other. -/
theorem fault?_check (entries : Fields) : (check (.object entries)).fault? =
    (Checked.defaulted "minimum_severity" Severity.hint checkSeverity entries).fault? := by
  have hexecutable : ∀ v, (checkExecutable v).fault? = none := fun v =>
    Checked.fault?_andThen (Checked.fault?_text v) fun t => by split <;> rfl
  have htimeout : ∀ v, (checkTimeout v).fault? = none :=
    Checked.fault?_optional fun v => Checked.fault?_andThen (Checked.fault?_float v) fun x => by
      split <;> rfl
  have hdebounce : ∀ v, (checkDebounce v).fault? = none := fun v =>
    Checked.fault?_andThen (Checked.fault?_float v) fun x => by split <;> rfl
  simp only [check, Checked.entries, Checked.andThen, Checked.fault?_seq, Checked.fault?_map,
    Checked.fault?_defaulted hexecutable, Checked.fault?_defaulted htimeout,
    Checked.fault?_defaulted hdebounce, Checked.fault?_defaulted Checked.fault?_text,
    Checked.fault?_defaulted Checked.fault?_bool,
    Checked.fault?_defaulted (Checked.fault?_listOf Checked.fault?_text),
    Checked.fault?_defaulted (Checked.fault?_optional (Checked.fault?_atLeast 1)),
    Option.none_or, Option.or_none]

/-- **The issues with an object are those with its fields**, in order, where its check comes to an
end. -/
theorem issues_check {entries : Fields} (h : (check (.object entries)).fault? = none) :
    (check (.object entries)).issues =
      fields.flatMap fun f => (Checked.defaulted f.name (f.get {}) f.check entries).issues := by
  simp only [check, Checked.entries, Checked.andThen, Checked.fault?_seq, Checked.fault?_map,
    Option.or_eq_none_iff] at h
  obtain ⟨⟨⟨⟨⟨⟨⟨⟨h0, h1⟩, h2⟩, h3⟩, h4⟩, h5⟩, h6⟩, h7⟩, h8⟩ := h
  simp only [check, Checked.entries, Checked.andThen, Checked.issues_seq, Checked.fault?_seq,
    Checked.fault?_map, h0, h1, h2, h3, h4, h5, h6, h7, h8, Option.or_none, Checked.issues_map,
    fields, List.flatMap_cons, List.flatMap_nil, List.append_nil, List.append_assoc]

end Check

end Settings

end LintBridge
