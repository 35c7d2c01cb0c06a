import LintBridge.Proofs.Settings.Layers

/-!
# Settings through updates

Settings change in two ways: a layer is put on top of them, or one field is replaced. **Settings
that can be used stay so through any updates**, since nothing gets into a field that its check has
not let pass, and what has passed once passes again. An update that is refused changes nothing.

* `LintBridge.Settings.Update` – the updates; `LintBridge.Settings.updates` – any number of them;
* `LintBridge.Settings.check_write` – **what a check lets pass is read again as it is written out**;
* `LintBridge.Settings.assign_eq_valid_iff` – when a field is replaced, and what becomes of the
  others;
* `LintBridge.Settings.isValid_updates` – settings after any updates.
-/

namespace LintBridge.Settings

open Json (Value)
open Response (Fields)

/-! ### One field replaced -/

/-- **What a check lets pass is read again as it is written out.** -/
theorem check_write : ∀ f ∈ fields, ∀ (v : Value) (x : f.Kind),
    f.check v = .valid x → f.check (f.write x) = .valid x := by
  simp only [fields, List.forall_mem_cons, List.not_mem_nil, false_imp_iff, implies_true, and_true]
  refine ⟨fun v x h => ?_, fun v x h => ?_, fun v x h => ?_, fun v x h => ?_, fun v x h => ?_,
    fun v x h => ?_, fun v x h => ?_, fun v x h => ?_, fun v x h => ?_⟩
  · exact checkExecutable_write.mpr (checkExecutable_isWord h)
  · exact Checked.items_text 0 x
  · rfl
  · exact Checked.items_text 0 x
  · exact checkTimeout_write.mpr fun y hy => checkTimeout_isPositive (hy ▸ h)
  · exact checkDebounce_write.mpr (checkDebounce_isNonnegative h)
  · rfl
  · exact checkSeverity_write x
  · exact atLeast_write.mpr fun n hn => atLeast_le (Checked.optional_eq_valid (hn ▸ h))

section Assign

variable {s t : Settings} {field : String} {v : Value}

/-- A field is replaced by what its check makes of the value. -/
theorem assign_name (s : Settings) (v : Value) : ∀ f ∈ fields,
    s.assign f.name v = ((f.check v).map (f.set s)).under (.field f.name) := by
  simp only [fields, List.forall_mem_cons, List.not_mem_nil, false_imp_iff, implies_true, and_true]
  exact ⟨rfl, rfl, rfl, rfl, rfl, rfl, rfl, rfl, rfl⟩

/-- A field that settings do not have is not replaced. -/
theorem assign_unknown (h : ∀ f ∈ fields, f.name ≠ field) :
    s.assign field v = .invalid [⟨[.field field], .noSuchField field⟩] := by
  simp only [fields, List.forall_mem_cons, List.not_mem_nil, false_imp_iff, implies_true,
    and_true] at h
  unfold assign
  split
  case h_10 => rfl
  all_goals simp at h

/-- **When a field is replaced, and by what.** -/
theorem assign_eq_valid_iff : s.assign field v = .valid t ↔
    ∃ f ∈ fields, f.name = field ∧ ∃ x, f.check v = .valid x ∧ t = f.set s x := by
  constructor
  · intro h
    by_cases hknown : ∃ f ∈ fields, f.name = field
    · obtain ⟨f, hf, rfl⟩ := hknown
      rw [assign_name s v f hf, Checked.under_eq_valid] at h
      obtain ⟨x, hx, rfl⟩ := Checked.map_eq_valid.mp h
      exact ⟨f, hf, rfl, x, hx, rfl⟩
    · rw [assign_unknown fun f hf hname => hknown ⟨f, hf, hname⟩] at h
      cases h
  · rintro ⟨f, hf, rfl, x, hx, rfl⟩
    rw [assign_name s v f hf, Checked.under_eq_valid]
    exact Checked.map_eq_valid.mpr ⟨x, hx, rfl⟩

/-- A field that is replaced leaves settings that can be used. -/
theorem assign_isValid (hs : s.IsValid) (h : s.assign field v = .valid t) : t.IsValid := by
  obtain ⟨f, hf, -, x, hx, rfl⟩ := assign_eq_valid_iff.mp h
  refine isValid_iff.mpr fun g hg => ?_
  by_cases hname : g.name = f.name
  · obtain rfl := eq_of_name_eq g hg f hf hname
    rw [get_set g hg]
    exact check_write g hg v x hx
  · rw [get_set_of_ne f hf g hg hname]
    exact isValid_iff.mp hs g hg

end Assign

/-! ### Any updates -/

/-- An update of settings. -/
inductive Update where
  /-- A layer is put on top. -/
  | merge (layer : Fields)
  /-- One field is replaced. -/
  | assign (field : String) (value : Value)

/-- The settings that an update asks for, if it is accepted. -/
def updated? (s : Settings) : Update → Option Settings
  | .merge layer => (s.merge layer).toOption
  | .assign field v => (s.assign field v).toExcept.toOption

/-- Settings after an update, as they were if it is refused. -/
def update (s : Settings) (u : Update) : Settings :=
  (s.updated? u).getD s

/-- Settings after any number of updates. -/
def updates (s : Settings) (us : List Update) : Settings :=
  us.foldl update s

section Updates

variable {s t : Settings}

theorem updated?_assign_eq_some {field : String} {v : Value} :
    s.updated? (.assign field v) = some t ↔ s.assign field v = .valid t := by
  change (s.assign field v).toExcept.toOption = some t ↔ _
  cases s.assign field v with
  | valid a => simp [Checked.toExcept, Except.toOption]
  | invalid issues => simp [Checked.toExcept, Except.toOption]
  | broken fault => simp [Checked.toExcept, Except.toOption]

theorem updated?_isValid {u : Update} (hs : s.IsValid) (h : s.updated? u = some t) :
    t.IsValid := by
  cases u with
  | merge layer => exact merge_isValid hs (eq_ok_of_toOption h)
  | assign field v => exact assign_isValid hs (updated?_assign_eq_some.mp h)

/-- **An update leaves settings that can be used.** -/
theorem update_isValid (hs : s.IsValid) (u : Update) : (s.update u).IsValid := by
  unfold update
  cases h : s.updated? u with
  | none => exact hs
  | some t => exact updated?_isValid hs h

/-- **Any updates leave settings that can be used.** -/
theorem updates_isValid (hs : s.IsValid) (us : List Update) : (s.updates us).IsValid := by
  induction us generalizing s with
  | nil => exact hs
  | cons u rest ih => exact ih (update_isValid hs u)

/-- A layer is refused exactly if the last entry for some field is. -/
theorem updated?_merge_eq_none {layer : Fields} (hs : s.IsValid) :
    s.updated? (.merge layer) = none ↔ IsRefused layer := by
  rw [← not_iff_not, ← exists_merge_eq_ok_iff hs]
  change (s.merge layer).toOption ≠ none ↔ _
  cases s.merge layer with
  | ok t => simp [Except.toOption]
  | error e => simp [Except.toOption]

/-- Settings that can be used are read again as they are written out. -/
theorem check_toFields (hs : s.IsValid) : check (Value.ofFields s.toFields) = .valid s :=
  check_eq_valid_iff.mpr fun f hf => defaulted_overlay hs [] f hf

/-- A field is replaced exactly if there is such a field and its check lets the value pass, and then
it is the only one that changes. -/
theorem assign_eq_valid_iff_fields {field : String} {v : Value} : s.assign field v = .valid t ↔
    ∃ f ∈ fields, f.name = field ∧ f.check v = .valid (f.get t) ∧
      ∀ g ∈ fields, g.name ≠ field → g.get t = g.get s := by
  rw [assign_eq_valid_iff]
  constructor
  · rintro ⟨f, hf, rfl, x, hx, rfl⟩
    refine ⟨f, hf, rfl, ?_, fun g hg hname => get_set_of_ne f hf g hg hname s x⟩
    rw [get_set f hf, hx]
  · rintro ⟨f, hf, rfl, hx, hothers⟩
    refine ⟨f, hf, rfl, f.get t, hx, ext_fields fun g hg => ?_⟩
    by_cases hname : g.name = f.name
    · obtain rfl := eq_of_name_eq g hg f hf hname
      rw [get_set g hg]
    · rw [get_set_of_ne f hf g hg hname, hothers g hg hname]

/-- **No updates lead from settings that can be used to settings that cannot.** However the settings
are updated, there is a program to run, without blanks around its name; a time limit is greater than
zero; nobody waits for a negative time; at least one diagnostic is shown, from one of the four
severities on; and written out, the settings are read as they are. A layer is refused exactly if its
last entry for some field is, and what is refused changes nothing. A field is replaced exactly if
there is such a field and its check lets the value pass, and then no other field changes. -/
theorem isValid_updates (hs : s.IsValid) (us : List Update) :
    ((s.updates us).IsValid ∧ (s.updates us).minimumSeverity ∈ Severity.all ∧
      check (Value.ofFields (s.updates us).toFields) = .valid (s.updates us)) ∧
    (∀ u : Update, (s.updates us).updated? u = none → (s.updates us).update u = s.updates us) ∧
    (∀ layer : Fields, (s.updates us).updated? (.merge layer) = none ↔ IsRefused layer) ∧
    ∀ (field : String) (v : Value) (t : Settings),
      (s.updates us).updated? (.assign field v) = some t ↔
        ∃ f ∈ fields, f.name = field ∧ f.check v = .valid (f.get t) ∧
          ∀ g ∈ fields, g.name ≠ field → g.get t = g.get (s.updates us) := by
  have hvalid := updates_isValid hs us
  refine ⟨⟨hvalid, ?_, check_toFields hvalid⟩, fun u hu => ?_,
    fun layer => updated?_merge_eq_none hvalid, fun field v t => ?_⟩
  · cases (s.updates us).minimumSeverity <;> decide
  · rw [update, hu, Option.getD_none]
  · rw [← assign_eq_valid_iff_fields, updated?_assign_eq_some]

end Updates

/-- Updates of which every other one is refused. -/
def attempts : List Update :=
  [.assign "executable" (.ofString " "), .assign "executable" (.ofString " lint "),
    .assign "debounce_seconds" (.float .nan), .merge spellings, .merge noProblems,
    .assign "minimum_severity" (.ofString "Warning"), .assign "colour" .null]

/-- What is left are the updates that were accepted. -/
theorem isValid_updates_attempts :
    IsValid {} ∧ updates {} attempts = { respelt with minimumSeverity := .warning } ∧
      (updates {} attempts).IsValid ∧
      (updates {} attempts).updated? (.merge noProblems) = none ∧
      (updates {} attempts).update (.merge noProblems) = updates {} attempts := by
  have hrefused : (updates {} attempts).updated? (.merge noProblems) = none := by decide +kernel
  obtain ⟨⟨hvalid, -, -⟩, hunchanged, -, -⟩ := isValid_updates isValid_default attempts
  exact ⟨isValid_default, by decide +kernel, hvalid, hrefused, hunchanged _ hrefused⟩

end LintBridge.Settings
