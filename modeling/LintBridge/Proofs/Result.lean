import LintBridge.Log
import Mathlib.Data.List.Forall2

/-!
# Results taken apart

Most of the program is written as steps one after the other, each of which may fail. A sequence of
steps succeeds when all of them do, and otherwise fails as the first of them that does:

* `LintBridge.bind_eq_ok`, `LintBridge.bind_eq_error` – for two steps;
* `LintBridge.map_bind_congr` – for two steps of which not all is looked at;
* `LintBridge.mapM_eq_ok` – for a step that is taken for each item of a list;
* `LintBridge.mapError_eq_ok`, `LintBridge.mapError_eq_error` – for a step whose failure is reported
  as another;
* `LintBridge.Traced.result_bind` – for steps that also report.
-/

namespace LintBridge

section Except

variable {ε ε' α β : Type}

/-- Two steps succeed when both do. -/
theorem bind_eq_ok {x : Except ε α} {f : α → Except ε β} {b : β} :
    (x >>= f) = .ok b ↔ ∃ a, x = .ok a ∧ f a = .ok b := by
  cases x with
  | ok a =>
    constructor
    · exact fun h => ⟨a, rfl, h⟩
    · rintro ⟨a', ha, h⟩
      cases ha
      exact h
  | error e =>
    constructor
    · intro h
      cases h
    · rintro ⟨a, ha, -⟩
      cases ha

/-- Two steps fail as the first that does. -/
theorem bind_eq_error {x : Except ε α} {f : α → Except ε β} {e : ε} :
    (x >>= f) = .error e ↔ x = .error e ∨ ∃ a, x = .ok a ∧ f a = .error e := by
  cases x with
  | ok a =>
    constructor
    · exact fun h => .inr ⟨a, rfl, h⟩
    · rintro (h | ⟨a', ha, h⟩)
      · cases h
      · cases ha
        exact h
  | error e' =>
    constructor
    · intro h
      cases h
      exact .inl rfl
    · rintro (h | ⟨a, ha, -⟩)
      · cases h
        rfl
      · cases ha

theorem pure_ne_error (a : α) (e : ε) : (pure a : Except ε α) ≠ .error e := nofun

/-- A result that is worked on fails as it did. -/
theorem map_eq_error {f : α → β} {x : Except ε α} {e : ε} : f <$> x = .error e ↔ x = .error e := by
  cases x with
  | ok a => simp [Functor.map, Except.map]
  | error e' => simp [Functor.map, Except.map]

/-- A result that is worked on is there if it was. -/
theorem map_eq_ok {f : α → β} {x : Except ε α} {b : β} :
    x.map f = .ok b ↔ ∃ a, x = .ok a ∧ b = f a := by
  cases x with
  | ok a => simp [Except.map, eq_comm]
  | error e => simp [Except.map]

theorem mapError_eq_ok {f : ε → ε'} {x : Except ε α} {a : α} :
    x.mapError f = .ok a ↔ x = .ok a := by
  cases x with
  | ok b =>
    change (Except.ok b : Except ε' α) = .ok a ↔ _
    simp
  | error e =>
    change (Except.error (f e) : Except ε' α) = .ok a ↔ _
    simp

theorem mapError_eq_error {f : ε → ε'} {x : Except ε α} {e' : ε'} :
    x.mapError f = .error e' ↔ ∃ e, x = .error e ∧ f e = e' := by
  cases x with
  | ok b =>
    change (Except.ok b : Except ε' α) = .error e' ↔ _
    simp
  | error e =>
    change (Except.error (f e) : Except ε' α) = .error e' ↔ _
    simp

/-- Steps that are the same up to what is looked at in their results, one after the other. -/
theorem map_bind_congr {γ δ : Type} {x y : Except ε α} {f : α → γ} {k k' : α → Except ε β}
    {g : β → δ} (h : x.map f = y.map f)
    (hk : ∀ a b, f a = f b → (k a).map g = (k' b).map g) :
    (x >>= k).map g = (y >>= k').map g := by
  cases x with
  | error e =>
    cases y with
    | error e' =>
      cases h
      rfl
    | ok b => cases h
  | ok a =>
    cases y with
    | error e' => cases h
    | ok b => exact hk a b (Except.ok.inj h)

/-- A step that is taken for each item of a list succeeds when it does for all of them. -/
theorem mapM_eq_ok {f : α → Except ε β} {xs : List α} {ys : List β} :
    xs.mapM f = .ok ys ↔ List.Forall₂ (fun x y => f x = .ok y) xs ys := by
  induction xs generalizing ys with
  | nil => cases ys <;> simp [pure, Except.pure]
  | cons x rest ih =>
    simp only [List.mapM_cons, bind_eq_ok, ih, List.forall₂_cons_left_iff]
    constructor
    · rintro ⟨y, hy, more, hmore, ⟨⟩⟩
      exact ⟨y, more, hy, hmore, rfl⟩
    · rintro ⟨y, more, hy, hmore, rfl⟩
      exact ⟨y, hy, more, hmore, rfl⟩

theorem eq_ok_of_toOption {x : Except ε α} {a : α} (h : x.toOption = some a) : x = .ok a := by
  cases x with
  | ok b => exact congrArg Except.ok (Option.some.inj h)
  | error e => cases h

end Except

namespace Traced

variable {ε α β : Type}

@[simp] theorem result_bind (x : Traced ε α) (f : α → Traced ε β) :
    (x >>= f).result = x.result >>= fun a => (f a).result := by
  change (Traced.bind x f).result = _
  unfold Traced.bind
  cases x.result <;> rfl

@[simp] theorem result_pure (a : α) : (pure a : Traced ε α).result = .ok a := rfl

@[simp] theorem result_of (x : Except ε α) : (Traced.of x).result = x := rfl

@[simp] theorem result_say (level : LogLevel) (message : String) :
    (Traced.say level message : Traced ε Unit).result = .ok () := rfl

@[simp] theorem result_fail (e : ε) : (Traced.fail e : Traced ε α).result = .error e := rfl

end Traced

end LintBridge
