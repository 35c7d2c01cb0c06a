import LintBridge.Proofs.Schedule.Tracking

/-!
# Validations coalesce

A validation that was scheduled waits for further changes before it begins. While it waits, it is
put aside where its document is scheduled anew or closed, or where everything is shut down
(`LintBridge.Schedule.Event.disturbs`), and by nothing else. So it begins **exactly once if nothing
has disturbed it while it waited, and never otherwise**: not even where it is disturbed after its
delay has passed and before it runs on, since it counts as waiting until then.

* `LintBridge.Schedule.Event.begun?` – the validation that begins with an event. What can be seen of
  it is that the linter is called, or that the log says why it was not;
* `LintBridge.Schedule.Debounced` – how often a task has begun, by the stage that it is in;
* `LintBridge.Schedule.Debounced.step`, `LintBridge.Schedule.Debounced.run` – every event keeps it
  so;
* `LintBridge.Schedule.validations_coalesce` – what follows for whole runs. However often a document
  is scheduled before a validation of it begins, **one validation begins, and that of the last
  snapshot**.

A validation that was asked for directly does not wait for anything, and disturbs none that does.
-/

namespace LintBridge

namespace Schedule

/-! ### Beginning a validation -/

/-- Whether a task begins its validation when it runs next: it is past its delay, it has not been
cancelled, and its document is a file. -/
def Task.begins (t : Task) : Bool :=
  t.isDue && !t.cancelRequested && namesFile t.document.uri

/-- **The validation that begins with an event**, if one does: the number of its task, and the
task. -/
def Event.begun? (s : Schedule) : Event → Option (Nat × Task)
  | .resume n => ((s.task? n).filter Task.begins).map fun t => (n, t)
  | _ => none

/-- The validations that begin in a run, one after the other. -/
def beginnings (around : Surroundings) (s : Schedule) : List Event → List (Nat × Task)
  | [] => []
  | e :: rest => (e.begun? s).toList ++ beginnings around (step around s e).1 rest

/-- The validations of a document that were scheduled, each with the snapshot that it is made
for. -/
def scheduledOf (uri : String) (xs : List (Nat × Task)) : List (Nat × Document) :=
  (xs.filter fun x => x.2.isScheduled && x.2.document.uri == uri).map fun x => (x.1, x.2.document)

/-- Whether an event puts aside the validation of a document that waits. -/
def Event.disturbs (uri : String) : Event → Bool
  | .shutdown => true
  | e => e.renews uri

/-- Whether a task is disturbed in a run while it waits. -/
def isDisturbed (around : Surroundings) (uri : String) (n : Nat) (s : Schedule) :
    List Event → Bool
  | [] => false
  | e :: rest =>
    (e.disturbs uri && (s.task? n).any Task.isWaiting) ||
      isDisturbed around uri n (step around s e).1 rest

theorem Task.begins_iff {t : Task} :
    t.begins = true ↔
      t.isDue = true ∧ t.cancelRequested = false ∧ namesFile t.document.uri = true := by
  simp [Task.begins, and_assoc]

section Beginning

variable {s : Schedule} {n : Nat} {t : Task} {e : Event}

theorem Event.begun?_eq_some :
    e.begun? s = some (n, t) ↔ e = .resume n ∧ s.task? n = some t ∧ t.begins = true := by
  cases e with
  | resume m =>
    simp only [Event.begun?, Option.map_eq_some_iff, Option.filter_eq_some_iff, Prod.mk.injEq,
      Event.resume.injEq]
    constructor
    · rintro ⟨t', ⟨ht', hb⟩, rfl, rfl⟩
      exact ⟨rfl, ht', hb⟩
    · rintro ⟨rfl, ht, hb⟩
      exact ⟨t, ⟨ht, hb⟩, rfl, rfl⟩
  | _ => simp [Event.begun?]

/-- How often a task begins with one event. -/
theorem countP_begun (ht : s.task? n = some t) :
    ((e.begun? s).toList.countP fun x => x.1 == n) =
      if e.begun? s = some (n, t) then 1 else 0 := by
  rcases hx : e.begun? s with _ | ⟨m, t'⟩
  · simp
  · obtain ⟨-, ht', -⟩ := Event.begun?_eq_some.mp hx
    by_cases hm : m = n
    · subst hm
      obtain rfl : t = t' := Option.some.inj (ht.symm.trans ht')
      simp
    · simp [hm]

end Beginning

/-! ### What can be seen of it -/

section Effects

variable (around : Surroundings) {s : Schedule} {n : Nat} {call : Linter.Call}

/-- **What can be seen of a validation that begins**: the linter is called, or the log says that the
directory to lint in cannot be found out. -/
theorem effects_of_begun {e : Event} {t : Task} (h : e.begun? s = some (n, t)) :
    ∃ file, Uri.toPath? t.document.uri = .ok (some file) ∧
      (step around s e).2 =
        match Linter.callFor around.host s.settings s.workspace file with
        | .ok call => [.called n call]
        | .error m => [.logged (failureEntry t.document.uri (.mishap (.system m)))] := by
  obtain ⟨rfl, ht, hbegins⟩ := Event.begun?_eq_some.mp h
  obtain ⟨due, kept, hfile⟩ := Task.begins_iff.mp hbegins
  obtain ⟨file, hnamed⟩ := namesFile_iff.mp hfile
  refine ⟨file, hnamed, ?_⟩
  rw [step]
  generalize hx : resume around s n = x
  have hcases := resume_cases around ht
  rw [hx] at hcases
  cases hcases with
  | idle notWaiting =>
    exact absurd (notWaiting.symm.trans (Task.isWaiting_of_isDue due)) Bool.false_ne_true
  | cancelled _ cancelled => exact absurd (kept.symm.trans cancelled) Bool.false_ne_true
  | slept delay stage _ positive => simp [Task.isDue, stage, positive] at due
  | unreadable e _ _ file' => cases hnamed.symm.trans file'
  | skipped _ _ file' => cases hnamed.symm.trans file'
  | stuck file' m _ _ named hcall =>
    obtain rfl : file = file' := by cases hnamed.symm.trans named; rfl
    simp only [hcall]
  | called file' call _ _ named hcall =>
    obtain rfl : file = file' := by cases hnamed.symm.trans named; rfl
    simp only [hcall]

theorem not_called_cancel (m : Nat) : .called n call ∉ (s.cancel m).2 := by
  unfold cancel
  split <;> simp

theorem not_called_cancelAll (ms : List Nat) : .called n call ∉ (s.cancelAll ms).2 := by
  induction ms generalizing s with
  | nil => exact List.not_mem_nil
  | cons m rest ih =>
    simp only [cancelAll, List.mem_append, not_or]
    exact ⟨not_called_cancel m, ih⟩

theorem not_called_schedule (document : Document) (delay : Option Binary64) :
    .called n call ∉ (s.schedule document delay).2 := by
  simp only [schedule, create]
  cases (s.follow document.uri).2.pending with
  | none => simp
  | some m => simpa using not_called_cancel m

theorem not_called_close (uri : String) : .called n call ∉ (close around s uri).2 := by
  have hsend : ∀ p, .called n call ∉ send around p := by
    intro p
    unfold send
    split <;> simp
  simp only [close, List.mem_append, not_or]
  refine ⟨?_, hsend _⟩
  cases (s.tracked? uri).bind (·.pending) with
  | none => exact List.not_mem_nil
  | some m => exact not_called_cancel m

theorem not_called_complete (m : Nat) (answer : Except Mishap ToolOutput) :
    .called n call ∉ (complete around s m answer).2 := by
  by_cases hlint : ∃ t pass, s.task? m = some t ∧ t.stage = .linting pass
  · obtain ⟨t, pass, ht, hs⟩ := hlint
    generalize hx : complete around s m answer = x
    have hcases := complete_cases around answer ht hs
    rw [hx] at hcases
    cases hcases with
    | cancelled | failed | outdated | published | undelivered => simp
  · rw [complete_of_not_linting around answer fun t pass ht hs => hlint ⟨t, pass, ht, hs⟩]
    exact List.not_mem_nil

/-- **The linter is called where a validation begins**, and nowhere else. -/
theorem begun_of_called {e : Event} (h : .called n call ∈ (step around s e).2) :
    ∃ t, e.begun? s = some (n, t) := by
  cases e with
  | schedule document delay => exact absurd h (not_called_schedule document delay)
  | validate => cases List.mem_singleton.mp h
  | close uri => exact absurd h (not_called_close around uri)
  | shutdown => exact absurd h (not_called_cancelAll s.outstanding)
  | configure | moveTo => cases h
  | complete m answer => exact absurd h (not_called_complete around m answer)
  | resume m =>
    cases ht : s.task? m with
    | none =>
      rw [step, resume_of_absent around ht] at h
      cases h
    | some t =>
      rw [step] at h
      generalize hx : resume around s m = x at h
      have hcases := resume_cases around ht
      rw [hx] at hcases
      cases hcases with
      | idle | cancelled | slept | unreadable | skipped | stuck => simp at h
      | called file call' due kept named =>
        cases List.mem_singleton.mp h
        exact ⟨t, Event.begun?_eq_some.mpr
          ⟨rfl, ht, Task.begins_iff.mpr ⟨due, kept, namesFile_iff.mpr ⟨file, named⟩⟩⟩⟩

end Effects

/-! ### What disturbs a task that waits -/

section Disturbance

variable (around : Surroundings) {s : Schedule} {n : Nat} {t : Task} {e : Event}

/-- What disturbs a document marks the task that it waits for. -/
theorem task?_step_of_disturbs (hc : Consistent s) (ht : s.task? n = some t)
    (hexpected : t.isExpected = true) (he : e.disturbs t.document.uri = true) :
    (step around s e).1.task? n = some t.requestCancel := by
  obtain ⟨d, hd, hp⟩ := hc.expected_pending n t ht hexpected
  cases e with
  | schedule document delay =>
    have hu : document.uri = t.document.uri := beq_iff_eq.mp he
    have hpending : (s.entry document.uri).pending = some n := by rw [hu, entry_of_tracked hd, hp]
    rw [step, task?_schedule, if_neg (Nat.ne_of_lt (task?_lt ht)), if_pos hpending, ht,
      Option.map_some]
  | close u =>
    obtain rfl : u = t.document.uri := beq_iff_eq.mp he
    rw [step, task?_close, if_pos (pendingOf_eq_some.mpr ⟨d, hd, hp⟩), ht, Option.map_some]
  | shutdown =>
    rw [step, task?_shutdown, ht, Option.map_some, if_pos (Task.isExpected_iff.mp hexpected).1]
  | _ => cases he

/-- Where a document is not disturbed, tasks of it that do not run themselves stay as they are. -/
theorem task?_step_of_not_disturbs (hc : Consistent s) (ht : s.task? n = some t)
    (hn : n ≠ e.task s) (he : e.disturbs t.document.uri = false) :
    (step around s e).1.task? n = some t := by
  cases e with
  | schedule document delay =>
    have hu : document.uri ≠ t.document.uri := by simpa [Event.disturbs, Event.renews] using he
    exact task?_step_of_ne around hc rfl ht fun heq => hu (Option.some.inj heq)
  | validate document sequence =>
    rw [step, task?_validate, if_neg (Nat.ne_of_lt (task?_lt ht))]
    exact ht
  | close u =>
    have hu : u ≠ t.document.uri := by simpa [Event.disturbs, Event.renews] using he
    exact task?_step_of_ne around hc rfl ht fun heq => hu (Option.some.inj heq)
  | shutdown => cases he
  | configure | moveTo => exact ht
  | resume m => exact (task?_resume_of_ne around hn).trans ht
  | complete m answer => exact (task?_complete_of_ne around answer hn).trans ht

/-- **A waiting task that does not run itself goes on to wait**, and is marked if it was before or
is disturbed now. -/
theorem waiting_step (hc : Consistent s) (ht : s.task? n = some t) (hsch : t.isScheduled = true)
    (hw : t.isWaiting = true) (he : e ≠ .resume n) :
    ∃ t', (step around s e).1.task? n = some t' ∧ t'.isWaiting = true ∧
      t'.cancelRequested = (t.cancelRequested || e.disturbs t.document.uri) := by
  -- An answer of the linter is not for a task that waits.
  by_cases hcomplete : ∃ answer, e = .complete n answer
  · obtain ⟨answer, rfl⟩ := hcomplete
    refine ⟨t, ?_, hw, (Bool.or_false _).symm⟩
    rw [step, complete_of_not_linting around answer, ht]
    intro t' pass ht' hs
    obtain rfl : t = t' := Option.some.inj (ht.symm.trans ht')
    simp [Task.isWaiting, hs] at hw
  have hn : n ≠ e.task s := by
    have hlt := task?_lt ht
    cases e with
    | resume m =>
      rintro rfl
      exact he rfl
    | complete m answer =>
      rintro rfl
      exact hcomplete ⟨answer, rfl⟩
    | _ => exact Nat.ne_of_lt hlt
  cases hdisturbs : e.disturbs t.document.uri with
  | false =>
    exact ⟨t, task?_step_of_not_disturbs around hc ht hn hdisturbs, hw, (Bool.or_false _).symm⟩
  | true =>
    cases hkept : t.cancelRequested with
    | false =>
      have hexpected := Task.isExpected_iff.mpr ⟨hsch, hw, hkept⟩
      exact ⟨_, task?_step_of_disturbs around hc ht hexpected hdisturbs, by simpa using hw,
        Task.requestCancel_cancelRequested (Task.isDone_of_isWaiting hw)⟩
    | true =>
      obtain ⟨t', ht', hmark⟩ := (step_focus around s e "").task_after hn ht
      refine ⟨t', ht', hmark.isWaiting.trans hw, ?_⟩
      by_contra hnot
      exact Bool.false_ne_true ((hmark.kept (by simpa using hnot)).symm.trans hkept)

end Disturbance

/-! ### How often a task begins -/

/-- **How often a task has begun**, by whether it was disturbed while it waited. -/
structure Debounced (t : Task) (disturbed : Bool) (count : Nat) : Prop where
  /-- A task that waits has not begun, and is marked if it was disturbed. -/
  waiting : t.isWaiting = true → t.cancelRequested = disturbed ∧ count = 0
  /-- A task that waits no longer has begun once if it was not disturbed, and never if it was. -/
  past : t.isWaiting = false → count = if disturbed then 0 else 1

section Counting

variable (around : Surroundings) {s : Schedule} {n : Nat} {t : Task} {disturbed : Bool}
  {count : Nat}

theorem Debounced.count_eq (h : Debounced t disturbed count) :
    count = if t.isWaiting || disturbed then 0 else 1 := by
  cases hw : t.isWaiting with
  | true => exact (h.waiting hw).2
  | false => exact h.past hw

/-- The task runs itself: it goes on to wait, or begins if it was not marked. -/
theorem Debounced.resume (h : Debounced t disturbed count) (ht : s.task? n = some t)
    (hw : t.isWaiting = true) (hfile : namesFile t.document.uri = true) {t' : Task}
    (ht' : (resume around s n).1.task? n = some t') :
    Debounced t' disturbed (count + if (Event.resume n).begun? s = some (n, t) then 1 else 0) := by
  obtain ⟨hmarked, rfl⟩ := h.waiting hw
  obtain ⟨file, hnamed⟩ := namesFile_iff.mp hfile
  have hbegun : (Event.resume n).begun? s = some (n, t) ↔
      t.isDue = true ∧ t.cancelRequested = false := by
    rw [Event.begun?_eq_some, Task.begins_iff]
    exact ⟨fun ⟨_, _, due, kept, _⟩ => ⟨due, kept⟩, fun ⟨due, kept⟩ => ⟨rfl, ht, due, kept, hfile⟩⟩
  -- Whatever was done before, a task that was put somewhere is there.
  have hmoved : ∀ {s₁ : Schedule} {stage : Stage}, (∀ m, s₁.task? m = s.task? m) →
      (s₁.setStage n stage).task? n = some t' → t' = { t with stage } :=
    fun htasks hmem => Option.some.inj (hmem.symm.trans (task?_setStage_own ht htasks))
  have hpast : ∀ {s₁ : Schedule} {stage : Stage}, (∀ m, s₁.task? m = s.task? m) →
      ({ t with stage } : Task).isWaiting = false → t.isDue = true → t.cancelRequested = false →
      (s₁.setStage n stage).task? n = some t' →
        Debounced t' disturbed
          (0 + if (Event.resume n).begun? s = some (n, t) then 1 else 0) := by
    intro s₁ stage htasks hpast due kept hmem
    obtain rfl := hmoved htasks hmem
    refine ⟨fun hw => absurd (hpast.symm.trans hw) Bool.false_ne_true, fun _ => ?_⟩
    rw [if_pos (hbegun.mpr ⟨due, kept⟩), ← hmarked, kept]
    rfl
  generalize hx : Schedule.resume around s n = x at ht'
  have hcases := resume_cases around ht
  rw [hx] at hcases
  cases hcases with
  | idle notWaiting => exact absurd (notWaiting.symm.trans hw) Bool.false_ne_true
  | cancelled _ cancelled =>
    obtain rfl := hmoved (fun _ => rfl) ht'
    refine ⟨fun hw => (by cases hw), fun _ => ?_⟩
    rw [if_neg fun hb => Bool.false_ne_true ((hbegun.mp hb).2.symm.trans cancelled), ← hmarked,
      cancelled]
    rfl
  | slept delay stage kept positive =>
    obtain rfl := hmoved (fun _ => rfl) ht'
    have hdue : t.isDue = false := by simp [Task.isDue, stage, positive]
    refine ⟨fun _ => ⟨hmarked, ?_⟩, fun hw => (by cases hw)⟩
    rw [if_neg fun hb => Bool.false_ne_true (hdue.symm.trans (hbegun.mp hb).1)]
  | unreadable e _ _ file => cases hnamed.symm.trans file
  | skipped _ _ file => cases hnamed.symm.trans file
  | stuck _ _ due kept => exact hpast (fun m => by simp [release]) rfl due kept ht'
  | called _ _ due kept => exact hpast (fun m => by simp [release]) rfl due kept ht'

/-- **Every event keeps count.** -/
theorem Debounced.step (h : Debounced t disturbed count) (hc : Consistent s)
    (ht : s.task? n = some t) (hsch : t.isScheduled = true)
    (hfile : namesFile t.document.uri = true) (e : Event) :
    ∃ t', (step around s e).1.task? n = some t' ∧ t.Progress t' ∧
      Debounced t'
        (disturbed || (e.disturbs t.document.uri && (s.task? n).any Task.isWaiting))
        (count + (e.begun? s).toList.countP fun x => x.1 == n) := by
  obtain ⟨t', ht', hprogress⟩ := step_progress around e ht
  refine ⟨t', ht', hprogress, ?_⟩
  rw [countP_begun ht, ht, Option.any_some]
  cases hw : t.isWaiting with
  | false =>
    -- A task that waits no longer is not disturbed, and does not begin again.
    have hpast : t'.isWaiting = false := by
      by_contra hnot
      exact Bool.false_ne_true (hw.symm.trans (hprogress.waiting (by simpa using hnot)))
    have hbegun : e.begun? s ≠ some (n, t) := by
      intro hb
      obtain ⟨-, -, hbegins⟩ := Event.begun?_eq_some.mp hb
      have hwaits := Task.isWaiting_of_isDue (Task.begins_iff.mp hbegins).1
      exact Bool.false_ne_true (hw.symm.trans hwaits)
    rw [Bool.and_false, Bool.or_false, if_neg hbegun, Nat.add_zero]
    exact ⟨fun hnot => absurd (hpast.symm.trans hnot) Bool.false_ne_true, fun _ => h.past hw⟩
  | true =>
    by_cases he : e = .resume n
    · subst he
      simpa [Event.disturbs, Event.renews] using h.resume around ht hw hfile ht'
    · obtain ⟨t₁, ht₁, hw₁, hmarked⟩ := waiting_step around hc ht hsch hw he
      obtain rfl : t₁ = t' := Option.some.inj (ht₁.symm.trans ht')
      obtain ⟨hdisturbed, rfl⟩ := h.waiting hw
      rw [if_neg fun hb => he (Event.begun?_eq_some.mp hb).1, Bool.and_true, ← hdisturbed]
      exact ⟨fun _ => ⟨hmarked, rfl⟩, fun hnot => absurd (hnot.symm.trans hw₁) Bool.false_ne_true⟩

/-- **Every run keeps count.** -/
theorem Debounced.run (h : Debounced t disturbed count) (hc : Consistent s)
    (ht : s.task? n = some t) (hsch : t.isScheduled = true)
    (hfile : namesFile t.document.uri = true) (es : List Event) :
    ∃ t', (run around s es).1.task? n = some t' ∧ t.Progress t' ∧
      Debounced t' (disturbed || isDisturbed around t.document.uri n s es)
        (count + (beginnings around s es).countP fun x => x.1 == n) := by
  induction es generalizing s t disturbed count with
  | nil => exact ⟨t, ht, (Task.Marked.rfl t).progress, by simpa [isDisturbed, beginnings] using h⟩
  | cons e rest ih =>
    obtain ⟨t₁, ht₁, hp₁, h₁⟩ := h.step around hc ht hsch hfile e
    obtain ⟨t', ht', hp', h'⟩ := ih h₁ (hc.step around e) ht₁ (hp₁.isScheduled.trans hsch)
      (hp₁.document ▸ hfile)
    refine ⟨t', ht', hp₁.trans hp', ?_⟩
    rw [isDisturbed, beginnings, List.countP_append, ← Bool.or_assoc, ← Nat.add_assoc,
      ← hp₁.document]
    rw [← hp₁.document] at h'
    exact h'

end Counting

/-! ### Whole runs -/

section Runs

variable (around : Surroundings) {s : Schedule} {n : Nat} {t : Task}

theorem beginnings_append (es es' : List Event) :
    beginnings around s (es ++ es') =
      beginnings around s es ++ beginnings around (run around s es).1 es' := by
  induction es generalizing s with
  | nil => rfl
  | cons e rest ih => simp only [List.cons_append, beginnings, run, ih, List.append_assoc]

/-- Scheduling a validation is not to begin it. -/
theorem beginnings_schedule (document : Document) (delay : Option Binary64) (es : List Event) :
    beginnings around s (.schedule document delay :: es) =
      beginnings around (s.schedule document delay).1 es :=
  rfl

theorem scheduledOf_append (uri : String) (xs ys : List (Nat × Task)) :
    scheduledOf uri (xs ++ ys) = scheduledOf uri xs ++ scheduledOf uri ys := by
  simp [scheduledOf]

theorem isDisturbed_eq_false {uri : String} {es : List Event}
    (hes : ∀ e ∈ es, e.disturbs uri = false) : isDisturbed around uri n s es = false := by
  induction es generalizing s with
  | nil => rfl
  | cons e rest ih =>
    rw [isDisturbed, hes e List.mem_cons_self, Bool.false_and, Bool.false_or]
    exact ih fun e' he' => hes e' (List.mem_cons_of_mem _ he')

/-- What has begun is still there, at a later time. -/
theorem progress_of_mem_beginnings {es : List Event} {x : Nat × Task}
    (hx : x ∈ beginnings around s es) :
    ∃ t', (run around s es).1.task? x.1 = some t' ∧ x.2.Progress t' := by
  induction es generalizing s with
  | nil => cases hx
  | cons e rest ih =>
    rcases List.mem_append.mp hx with hx | hx
    · obtain ⟨-, ht, -⟩ := Event.begun?_eq_some.mp (Option.mem_toList.mp hx)
      exact run_progress around (e :: rest) ht
    · exact ih hx

/-- Where a document is not scheduled anew, no task of it is created that was scheduled. -/
theorem scheduled_before_run {uri : String} {es : List Event}
    (hes : ∀ e ∈ es, e.disturbs uri = false) {t' : Task}
    (ht' : (run around s es).1.task? n = some t') (hsch : t'.isScheduled = true)
    (hu : t'.document.uri = uri) : ∃ t, s.task? n = some t ∧ t.Progress t' := by
  induction es using List.reverseRecOn generalizing t' with
  | nil => exact ⟨t', ht', (Task.Marked.rfl t').progress⟩
  | append_singleton es e ih =>
    rw [run_snoc] at ht'
    rcases step_task_before around e ht' with
      ⟨t₁, ht₁, hp₁⟩ | ⟨-, ⟨document, delay, rfl, rfl⟩ | ⟨_, _, -, rfl⟩⟩
    · obtain ⟨t, ht, hp⟩ := ih (fun e' he' => hes e' (List.mem_append_left _ he')) ht₁
        (hp₁.isScheduled.symm.trans hsch) (hp₁.document ▸ hu)
      exact ⟨t, ht, hp.trans hp₁⟩
    · have hnot : document.uri ≠ uri := by
        simpa [Event.disturbs, Event.renews] using
          hes (.schedule document delay) (List.mem_append_right _ List.mem_cons_self)
      exact absurd hu hnot
    · cases hsch

/-- **At most one task of a document is to go on to its validation.** -/
theorem Consistent.expected_unique (hc : Consistent s) (ht : s.task? n = some t)
    (hexpected : t.isExpected = true) {m : Nat} {t' : Task} (ht' : s.task? m = some t')
    (hexpected' : t'.isExpected = true) (hu : t'.document.uri = t.document.uri) : m = n := by
  obtain ⟨d, hd, hp⟩ := hc.expected_pending n t ht hexpected
  obtain ⟨d', hd', hp'⟩ := hc.expected_pending m t' ht' hexpected'
  rw [hu] at hd'
  obtain rfl : d = d' := Option.some.inj (hd.symm.trans hd')
  exact Option.some.inj (hp'.symm.trans hp)

/-- A task that is to go on has not begun. -/
theorem debounced_of_expected (hexpected : t.isExpected = true) : Debounced t false 0 := by
  obtain ⟨-, hw, hkept⟩ := Task.isExpected_iff.mp hexpected
  exact ⟨fun _ => ⟨hkept, rfl⟩, fun hpast => absurd (hpast.symm.trans hw) Bool.false_ne_true⟩

/-- While one task of a document is to go on, no other one begins any more. -/
theorem debounced_of_other (hc : Consistent s) (ht : s.task? n = some t)
    (hexpected : t.isExpected = true) {m : Nat} (hm : m ≠ n) {t' : Task}
    (ht' : s.task? m = some t') (hsch : t'.isScheduled = true)
    (hu : t'.document.uri = t.document.uri) : Debounced t' true 0 := by
  refine ⟨fun hw => ⟨?_, rfl⟩, fun _ => rfl⟩
  by_contra hnot
  exact hm (hc.expected_unique ht hexpected ht'
    (Task.isExpected_iff.mpr ⟨hsch, hw, by simpa using hnot⟩) hu)

/-- **What is to go on and is not disturbed is what begins**, and nothing else of its document. -/
theorem scheduledOf_beginnings (hc : Consistent s) (ht : s.task? n = some t)
    (hexpected : t.isExpected = true) (hfile : namesFile t.document.uri = true) {es : List Event}
    (hes : ∀ e ∈ es, e.disturbs t.document.uri = false) {t' : Task}
    (ht' : (run around s es).1.task? n = some t') (hpast : t'.isWaiting = false) :
    scheduledOf t.document.uri (beginnings around s es) = [(n, t.document)] := by
  have hsch := (Task.isExpected_iff.mp hexpected).1
  obtain ⟨t₁, ht₁, hprogress, hown⟩ :=
    (debounced_of_expected hexpected).run around hc ht hsch hfile es
  obtain rfl : t₁ = t' := Option.some.inj (ht₁.symm.trans ht')
  have hone : ((beginnings around s es).filter fun x => x.1 == n).length = 1 := by
    rw [← List.countP_eq_length_filter]
    simpa [isDisturbed_eq_false around hes, hpast] using hown.count_eq
  -- Whatever else has begun is a task of another document, or one that was asked for directly.
  have hothers : ∀ x ∈ beginnings around s es, x.1 ≠ n →
      ¬ (x.2.isScheduled = true ∧ x.2.document.uri = t.document.uri) := by
    rintro x hx hne ⟨hsch', hu'⟩
    obtain ⟨t₂, ht₂, hp₂⟩ := progress_of_mem_beginnings around hx
    obtain ⟨t₀, ht₀, hp₀⟩ := scheduled_before_run around hes ht₂ (hp₂.isScheduled.trans hsch')
      (hp₂.document ▸ hu')
    have hu₀ : t₀.document.uri = t.document.uri := by
      rw [← hp₀.document, hp₂.document, hu']
    have hsch₀ : t₀.isScheduled = true := by rw [← hp₀.isScheduled, hp₂.isScheduled, hsch']
    obtain ⟨t₃, -, -, hnever⟩ := (debounced_of_other hc ht hexpected hne ht₀ hsch₀ hu₀).run around
      hc ht₀ hsch₀ (hu₀ ▸ hfile) es
    have hnone : ((beginnings around s es).countP fun y => y.1 == x.1) = 0 := by
      simpa using hnever.count_eq
    exact absurd (List.countP_eq_zero.mp hnone x hx) (by simp)
  have hdocument : ∀ x ∈ beginnings around s es, x.1 = n →
      x.2.isScheduled = true ∧ x.2.document = t.document := by
    rintro x hx rfl
    obtain ⟨t₂, ht₂, hp₂⟩ := progress_of_mem_beginnings around hx
    obtain rfl : t₁ = t₂ := Option.some.inj (ht'.symm.trans ht₂)
    exact ⟨by rw [← hp₂.isScheduled, hprogress.isScheduled, hsch],
      hp₂.document.symm.trans hprogress.document⟩
  have hfilter : ∀ x ∈ beginnings around s es,
      (x.2.isScheduled && x.2.document.uri == t.document.uri) = (x.1 == n) := by
    intro x hx
    by_cases hn : x.1 = n
    · obtain ⟨hsch', hdoc⟩ := hdocument x hx hn
      simp [hn, hsch', hdoc]
    · have hnot := hothers x hx hn
      rw [beq_false_of_ne hn]
      simpa using hnot
  obtain ⟨x, hx⟩ := List.length_eq_one_iff.mp hone
  obtain ⟨hmem, hn⟩ := List.mem_filter.mp (hx ▸ List.mem_singleton_self x)
  rw [scheduledOf, List.filter_congr hfilter, hx, List.map_singleton,
    (hdocument x hmem (beq_iff_eq.mp hn)).2, beq_iff_eq.mp hn]

/-- A task that has just been scheduled is to go on. -/
theorem isExpected_scheduledTask (document : Document) (delay : Option Binary64) :
    (s.scheduledTask document delay).isExpected = true :=
  Task.isExpected_iff.mpr ⟨rfl, rfl, rfl⟩

/-- Nothing has begun yet with the number that the next task gets. -/
theorem countP_beginnings_next {es : List Event} :
    ((beginnings around s es).countP fun x => x.1 == (run around s es).1.tasks.length) = 0 := by
  refine List.countP_eq_zero.mpr fun x hx heq => ?_
  obtain ⟨t', ht', -⟩ := progress_of_mem_beginnings around hx
  exact Nat.lt_irrefl _ (beq_iff_eq.mp heq ▸ task?_lt ht')

/-- **Validations coalesce.** In every run,

* a validation of a file that is scheduled has not begun while it waits; from then on it has begun
  exactly once, unless its document was scheduled anew or closed or everything was shut down while
  it waited, and if so it never begins;
* at most one validation of a document that was scheduled waits without having been cancelled;
* if no scheduled validation of a document begins in the course of any events, the document is
  scheduled then, and nothing disturbs it until this last validation waits no longer, then of all
  validations of the document that were scheduled this one has begun, once, for the last snapshot,
  and no other.

That a validation begins is what can be seen of it: the linter is called, or the log says that the
directory to lint in cannot be found out; and the linter is called nowhere else. -/
theorem validations_coalesce (settings : Settings) (workspace : Option Path) :
    (∀ before s, (run around { settings, workspace } before).1 = s →
      (∀ document delay after, namesFile document.uri = true →
        ∃ t, (run around s (.schedule document delay :: after)).1.task? s.tasks.length = some t ∧
          t.document = document ∧ t.isScheduled = true ∧
          ((beginnings around { settings, workspace }
              (before ++ .schedule document delay :: after)).countP
            fun x => x.1 == s.tasks.length) =
            if t.isWaiting || isDisturbed around document.uri s.tasks.length
                (s.schedule document delay).1 after then 0 else 1) ∧
      (∀ m n t u, s.task? m = some t → s.task? n = some u → t.isExpected = true →
        u.isExpected = true → t.document.uri = u.document.uri → m = n) ∧
      ∀ burst document delay rest, namesFile document.uri = true →
        scheduledOf document.uri (beginnings around s burst) = [] →
        (∀ e ∈ rest, e.disturbs document.uri = false) →
        (∀ t, (run around s (burst ++ .schedule document delay :: rest)).1.task?
            (run around s burst).1.tasks.length = some t → t.isWaiting = false) →
          scheduledOf document.uri
              (beginnings around s (burst ++ .schedule document delay :: rest)) =
            [((run around s burst).1.tasks.length, document)]) ∧
    ∀ s e n,
      (∀ t, e.begun? s = some (n, t) → ∃ file, Uri.toPath? t.document.uri = .ok (some file) ∧
        (step around s e).2 =
          match Linter.callFor around.host s.settings s.workspace file with
          | .ok call => [.called n call]
          | .error m => [.logged (failureEntry t.document.uri (.mishap (.system m)))]) ∧
      ∀ call, .called n call ∈ (step around s e).2 → ∃ t, e.begun? s = some (n, t) := by
  refine ⟨?_, fun s e n => ⟨fun t => effects_of_begun around, fun call => begun_of_called around⟩⟩
  rintro before s rfl
  have hc := (consistent_empty settings workspace).run around before
  have hnew : ∀ (s : Schedule) document delay,
      (s.schedule document delay).1.task? s.tasks.length =
        some (s.scheduledTask document delay) := by
    intro s document delay
    rw [task?_schedule, if_pos rfl]
  refine ⟨fun document delay after hfile => ?_, fun m n t u ht hu het heu huri => ?_,
    fun burst document delay rest hfile hburst hrest hpast => ?_⟩
  · obtain ⟨t, ht, hprogress, hcount⟩ :=
      (debounced_of_expected (isExpected_scheduledTask document delay)).run around
        (hc.schedule document delay) (hnew _ document delay) rfl hfile after
    refine ⟨t, ht, hprogress.document, hprogress.isScheduled, ?_⟩
    have htotal := hcount.count_eq
    rw [Bool.false_or, Nat.zero_add] at htotal
    rw [beginnings_append, beginnings_schedule, List.countP_append, countP_beginnings_next,
      Nat.zero_add]
    exact htotal
  · exact hc.expected_unique hu heu ht het huri
  · have hc' := (hc.run around burst).schedule document delay
    obtain ⟨t, ht, -⟩ := run_progress around rest (hnew (run around _ burst).1 document delay)
    rw [run_append] at hpast
    have hlast := scheduledOf_beginnings around hc' (hnew _ document delay)
      (isExpected_scheduledTask document delay) hfile hrest ht (hpast t ht)
    rw [beginnings_append, beginnings_schedule, scheduledOf_append, hburst, List.nil_append]
    exact hlast

end Runs

/-! ### A burst of changes -/

/-- A document is opened and changed twice, at a time when each of the first two validations of it
waits for further changes. -/
def hurried : List Event :=
  [.schedule (app 1) none, .resume 0, .schedule (app 2) none, .resume 0, .resume 1]

/-- The second validation is done away with, and the third one takes its course. -/
def unhurried : List Event :=
  [.resume 1, .resume 2, .resume 2, .complete 2 (.ok { exitCode := some 0 })]

/-- One validation begins, that of the last snapshot, and the first one never does. -/
theorem validations_coalesce_hurried :
    namesFile "file:///app.py" = true ∧
      scheduledOf "file:///app.py"
        (beginnings .calm { settings := { projectMarkers := [] } } hurried) = [] ∧
      (∀ e ∈ unhurried, e.disturbs "file:///app.py" = false) ∧
      scheduledOf "file:///app.py" (beginnings .calm { settings := { projectMarkers := [] } }
        (hurried ++ .schedule (app 3) none :: unhurried)) = [(2, app 3)] ∧
      ((beginnings .calm { settings := { projectMarkers := [] } }
        (hurried ++ .schedule (app 3) none :: unhurried)).countP fun x => x.1 == 0) = 0 := by
  have hfile : namesFile "file:///app.py" = true := by decide +kernel
  have hburst : scheduledOf "file:///app.py"
      (beginnings .calm { settings := { projectMarkers := [] } } hurried) = [] := by decide +kernel
  have hrest : ∀ e ∈ unhurried, e.disturbs "file:///app.py" = false := by decide +kernel
  obtain ⟨hcount, -, hlast⟩ :=
    (validations_coalesce .calm { projectMarkers := [] } none).1 [] _ rfl
  refine ⟨hfile, hburst, hrest, hlast hurried (app 3) none unhurried hfile hburst hrest ?_, ?_⟩
  · decide +kernel
  · obtain ⟨t, -, -, -, ht⟩ := hcount (app 1) none
      (hurried.tail ++ .schedule (app 3) none :: unhurried) hfile
    have hdisturbed : isDisturbed .calm "file:///app.py" 0
        (({ settings := { projectMarkers := [] } } : Schedule).schedule (app 1) none).1
        (hurried.tail ++ .schedule (app 3) none :: unhurried) = true := by decide +kernel
    refine Eq.trans ht ?_
    rw [if_pos]
    exact (congrArg (t.isWaiting || ·) hdisturbed).trans (Bool.or_true _)

end Schedule

end LintBridge
