import LintBridge.Checked.Scalar
import LintBridge.Proofs.Json.Lookup

/-!
# Checks taken apart

A structure is read from an object field by field, and each field goes through a check of its own.
The checks are passed together if each of them is (`LintBridge.Checked.seq_eq_valid`), they have
ended if the one or the other has (`LintBridge.Checked.fault?_seq`), and otherwise the issues are
those of the one and then those of the other (`LintBridge.Checked.issues_seq`). **No check of a
single value ends like that** (`LintBridge.Checked.fault?_int` and its like).

What the program writes passes the checks that it is read with: texts, lists of anything that does
(`LintBridge.Checked.items_map`), and the fields of an object with such values
(`LintBridge.Checked.required_of_lookup`, `LintBridge.Checked.defaulted_of_lookup`).
-/

namespace LintBridge.Checked

open Json (Value CodePoints)

variable {α β : Type}

/-! ### Checks that are not passed -/

/-- What has ended a check. -/
def fault? : Checked α → Option Json.Unencodable
  | .broken fault => some fault
  | _ => none

/-- Why a check is not passed, if it is not. -/
def errorOf (x : Checked α) : CheckError :=
  match x.fault? with
  | some fault => .broken fault
  | none => .issues x.issues

section Failed

theorem toExcept_eq_ok {x : Checked α} {a : α} : x.toExcept = .ok a ↔ x = .valid a := by
  cases x <;> simp [toExcept]

/-- A check is not passed because it has ended, or else because of its issues. -/
theorem toExcept_eq_error {x : Checked α} {e : CheckError} :
    x.toExcept = .error e ↔ (∀ a, x ≠ .valid a) ∧ e = x.errorOf := by
  cases x <;> simp [toExcept, errorOf, fault?, issues, eq_comm]

@[simp] theorem fault?_map (f : α → β) (x : Checked α) : (f <$> x).fault? = x.fault? := by
  change (Checked.map f x).fault? = _
  cases x <;> rfl

/-- Of two checks the first has ended both, or else the second. -/
@[simp] theorem fault?_seq (f : Checked (α → β)) (x : Checked α) :
    (f <*> x).fault? = f.fault?.or x.fault? := by
  change (Checked.ap f x).fault? = _
  cases f <;> cases x <;> rfl

@[simp] theorem fault?_under (selector : Selector) (x : Checked α) :
    (x.under selector).fault? = x.fault? := by
  cases x <;> rfl

@[simp] theorem issues_map (f : α → β) (x : Checked α) : (f <$> x).issues = x.issues := by
  change (Checked.map f x).issues = _
  cases x <;> rfl

/-- The issues of two checks that come to an end are those of the one and then those of the other.
-/
theorem issues_seq {f : Checked (α → β)} {x : Checked α} (hf : f.fault? = none)
    (hx : x.fault? = none) : (f <*> x).issues = f.issues ++ x.issues := by
  change (Checked.ap f x).issues = _
  cases f with
  | broken fault => cases hf
  | _ =>
    cases x with
    | broken fault => cases hx
    | _ => rfl

end Failed

/-! ### Checks that come to an end -/

section Ended

theorem fault?_andThen {x : Checked α} {f : α → Checked β} (hx : x.fault? = none)
    (hf : ∀ a, (f a).fault? = none) : (x.andThen f).fault? = none := by
  cases x with
  | valid a => exact hf a
  | invalid issues => rfl
  | broken fault => cases hx

theorem fault?_spelled {t : CodePoints} {check : String → Checked α}
    (hcheck : ∀ s, (check s).fault? = none) : (spelled t check).fault? = none := by
  unfold spelled
  split
  · exact hcheck _
  · rfl

theorem fault?_text (v : Value) : (text v).fault? = none := by
  cases v <;> rfl

theorem fault?_bool (v : Value) : (bool v).fault? = none := by
  have hint : ∀ n, (bool.ofInt n).fault? = none := by
    intro n
    unfold bool.ofInt
    split
    · rfl
    · split <;> rfl
  cases v with
  | int n => exact hint n
  | float x =>
    unfold bool
    dsimp only
    split
    · split
      · exact hint _
      · rfl
    · rfl
  | string t =>
    refine fault?_spelled fun s => ?_
    split <;> rfl
  | _ => rfl

theorem fault?_int (v : Value) : (int v).fault? = none := by
  cases v with
  | float x =>
    cases x with
    | finite =>
      unfold int
      dsimp only
      split
      · split <;> rfl
      · rfl
    | _ => rfl
  | string t =>
    refine fault?_spelled fun s => ?_
    split
    · split <;> rfl
    · rfl
  | _ => rfl

theorem fault?_float (v : Value) : (float v).fault? = none := by
  cases v with
  | int n =>
    unfold float
    dsimp only
    split <;> rfl
  | string t =>
    refine fault?_spelled fun s => ?_
    split <;> rfl
  | _ => rfl

theorem fault?_atLeast (bound : Nat) (v : Value) : (atLeast bound v).fault? = none := by
  refine fault?_andThen (fault?_int v) fun n => ?_
  split <;> rfl

theorem fault?_optional {check : Value → Checked α} (hcheck : ∀ v, (check v).fault? = none)
    (v : Value) : (optional check v).fault? = none := by
  unfold optional
  split
  · rfl
  · exact (fault?_map some (check v)).trans (hcheck v)

theorem fault?_listOf {check : Value → Checked α} (hcheck : ∀ v, (check v).fault? = none)
    (v : Value) : (listOf check v).fault? = none := by
  have hitems : ∀ (vs : List Value) (start : Nat), (items check start vs).fault? = none := by
    intro vs
    induction vs with
    | nil => exact fun _ => rfl
    | cons v rest ih =>
      intro start
      have hseq := fault?_seq (List.cons <$> (check v).under (.index start))
        (items check (start + 1) rest)
      rw [fault?_map, fault?_under, hcheck, ih, Option.or_none] at hseq
      exact hseq
  cases v with
  | array vs => exact hitems vs 0
  | _ => rfl

theorem fault?_defaulted {name : String} {default : α} {check : Value → Checked α}
    {fields : List (CodePoints × Value)} (hcheck : ∀ v, (check v).fault? = none) :
    (defaulted name default check fields).fault? = none := by
  unfold defaulted
  split
  · exact (fault?_under _ _).trans (hcheck _)
  · rfl

end Ended

/-! ### Checks that are passed -/

section Passed

theorem map_eq_valid {f : α → β} {x : Checked α} {b : β} :
    f <$> x = .valid b ↔ ∃ a, x = .valid a ∧ f a = b := by
  change Checked.map f x = _ ↔ _
  cases x <;> simp [Checked.map]

/-- Two checks are passed together if each is. -/
theorem seq_eq_valid {f : Checked (α → β)} {x : Checked α} {b : β} :
    f <*> x = .valid b ↔ ∃ g a, f = .valid g ∧ x = .valid a ∧ g a = b := by
  change Checked.ap f x = _ ↔ _
  cases f <;> cases x <;> simp [Checked.ap]

theorem map_of_valid {x : Checked α} {a : α} (f : α → β) (hx : x = .valid a) :
    f <$> x = .valid (f a) :=
  map_eq_valid.mpr ⟨a, hx, rfl⟩

theorem seq_of_valid {f : Checked (α → β)} {g : α → β} {x : Checked α} {a : α}
    (hf : f = .valid g) (hx : x = .valid a) : f <*> x = .valid (g a) :=
  seq_eq_valid.mpr ⟨g, a, hf, hx, rfl⟩

theorem andThen_eq_valid {x : Checked α} {f : α → Checked β} {b : β} :
    x.andThen f = .valid b ↔ ∃ a, x = .valid a ∧ f a = .valid b := by
  cases x <;> simp [Checked.andThen]

theorem under_eq_valid {x : Checked α} {selector : Selector} {a : α} :
    x.under selector = .valid a ↔ x = .valid a := by
  cases x <;> simp [Checked.under]

/-- A field is as its check leaves it, or has its default. -/
theorem defaulted_eq_valid {name : String} {default a : α} {check : Value → Checked α}
    {fields : List (CodePoints × Value)} (h : defaulted name default check fields = .valid a) :
    a = default ∨ ∃ v, check v = .valid a := by
  unfold defaulted at h
  split at h
  · rename_i v _
    exact .inr ⟨v, under_eq_valid.mp h⟩
  · cases h
    exact .inl rfl

/-- A value that may be `null` is as its check leaves it if it is not. -/
theorem optional_eq_valid {check : Value → Checked α} {v : Value} {a : α}
    (h : optional check v = .valid (some a)) : check v = .valid a := by
  unfold optional at h
  split at h
  · cases h
  · obtain ⟨b, hb, hsome⟩ := map_eq_valid.mp h
    cases hsome
    exact hb

end Passed

/-! ### Values read as they are written -/

section Written

variable {check : Value → Checked α}

/-- The items of a list are read one by one. -/
theorem items_map {write : α → Value} {as : List α} (h : ∀ a ∈ as, check (write a) = .valid a)
    (start : Nat) : items check start (as.map write) = .valid as := by
  induction as generalizing start with
  | nil => rfl
  | cons a rest ih =>
    obtain ⟨ha, hrest⟩ := List.forall_mem_cons.mp h
    rw [List.map_cons, items, ha, ih hrest]
    rfl

/-- Texts that are written out are read as they are. -/
theorem items_text (start : Nat) (texts : List CodePoints) :
    items text start (texts.map Value.string) = .valid texts := by
  have hread : ∀ t ∈ texts, text (.string t) = .valid t := fun _ _ => rfl
  exact items_map hread start

section Fields

variable {name : String} {fields : List (String × Value)} {v : Value} {a : α}

/-- A field of an object that is written passes its check if its value does. -/
theorem required_of_lookup (hv : fields.lookup name = some v) (ha : check v = .valid a) :
    required name check (fields.map fun (k, v) => (CodePoints.ofString k, v)) = .valid a := by
  rw [required, Json.get?_ofFields, hv]
  exact under_eq_valid.mpr ha

theorem defaulted_of_lookup {default : α} (hv : fields.lookup name = some v)
    (ha : check v = .valid a) :
    defaulted name default check (fields.map fun (k, v) => (CodePoints.ofString k, v)) =
      .valid a := by
  rw [defaulted, Json.get?_ofFields, hv]
  exact under_eq_valid.mpr ha

end Fields

end Written

end LintBridge.Checked
