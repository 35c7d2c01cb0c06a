import LintBridge.Proofs.Schedule.Underway

/-!
# The phase of a document

A document is being validated as long as a validation of it is under way, or the one that was
scheduled last still waits. **The phase that is reported is just that**: of what a document names as
waiting for it, nothing but its last task still waits, and its last task is named as long as it
does, even when its cancellation has been asked for.

* `LintBridge.Schedule.Eases` – a document waits for nothing new, which is so in every step by which
  it is neither scheduled nor closed (`LintBridge.Schedule.eases_step`);
* `LintBridge.Schedule.IsLatest` – the task that was scheduled last for a document that has not been
  closed since, which is what the document waits for (`LintBridge.Schedule.isLatest_of_pendingOf`,
  `LintBridge.Schedule.IsLatest.pendingOf`);
* `LintBridge.Schedule.phase_eq_validating_iff`, `LintBridge.Schedule.phase_run_eq_validating_iff` –
  **when a document is being validated**;
* `LintBridge.Schedule.Counted.inFlight_eq_zero`, `LintBridge.Schedule.phase_eq_idle` – **all are
  idle once no scheduled validation is left**;
* `LintBridge.Schedule.Drains` – waiting for that, and `LintBridge.Schedule.drains_iff` – how it
  ends.
-/

namespace LintBridge

namespace Schedule

/-! ### What a document waits for -/

/-- **A document comes to wait for no task that it has not waited for**, and to wait no longer only
for one that has got past its delay. -/
structure Eases (s s' : Schedule) (uri : String) : Prop where
  /-- What it waits for, it has waited for. -/
  before : ∀ n, s'.pendingOf uri = some n → s.pendingOf uri = some n
  /-- It goes on to wait for a task as long as that waits. -/
  after : ∀ n t, s.pendingOf uri = some n → s'.task? n = some t → t.isWaiting = true →
    s'.pendingOf uri = some n

section Eases

variable (around : Surroundings) {s s' : Schedule} {uri : String} {n : Nat}

theorem Eases.of_pendingOf (h : s'.pendingOf uri = s.pendingOf uri) : Eases s s' uri where
  before _ hn := h ▸ hn
  after _ _ hn _ _ := h.trans hn

theorem Eases.of_tracked (h : s'.tracked? uri = s.tracked? uri) : Eases s s' uri :=
  .of_pendingOf (by rw [pendingOf, h, pendingOf])

/-- A task is moved past its delay, and is not waited for any more. -/
theorem Eases.of_past {s₁ : Schedule} {t : Task} {stage : Stage} (ht : s.task? n = some t)
    (htasks : ∀ m, s₁.task? m = s.task? m) (hpast : ({ t with stage } : Task).isWaiting = false)
    (hpending : ∀ m, s₁.pendingOf uri = some m ↔ s.pendingOf uri = some m ∧ m ≠ n) :
    Eases s (s₁.setStage n stage) uri where
  before m hm := ((hpending m).mp hm).1
  after m t' hm ht' hw := by
    refine (hpending m).mpr ⟨hm, ?_⟩
    rintro rfl
    rw [task?_setStage_own ht htasks] at ht'
    cases ht'
    rw [hpast] at hw
    cases hw

theorem eases_resume {t : Task} (ht : s.task? n = some t) :
    Eases s (resume around s n).1 t.document.uri := by
  generalize hx : resume around s n = x
  have hcases := resume_cases around ht
  rw [hx] at hcases
  cases hcases with
  | idle | cancelled | slept => exact .of_tracked rfl
  | unreadable | skipped => exact .of_past ht (fun _ => rfl) rfl fun m => pendingOf_release
  | stuck =>
    refine .of_past ht (fun m => by simp [release]) rfl fun m => ?_
    rw [pendingOf_leave, pendingOf_enroll, pendingOf_release]
  | called =>
    refine .of_past ht (fun m => by simp [release]) rfl fun m => ?_
    rw [pendingOf_enroll, pendingOf_release]

/-- An answer of the linter changes nothing about what documents wait for. -/
theorem pendingOf_complete (answer : Except Mishap ToolOutput) :
    (complete around s n answer).1.pendingOf uri = s.pendingOf uri := by
  by_cases hlint : ∃ t pass, s.task? n = some t ∧ t.stage = .linting pass
  · obtain ⟨t, pass, ht, hs⟩ := hlint
    generalize hx : complete around s n answer = x
    have hcases := complete_cases around answer ht hs
    rw [hx] at hcases
    cases hcases with
    | cancelled | failed | outdated => exact pendingOf_leave s _ uri _
    | published | undelivered =>
      exact (pendingOf_record _ _ uri _).trans (pendingOf_leave s _ uri _)
  · rw [complete_of_not_linting around answer fun t pass ht hs => hlint ⟨t, pass, ht, hs⟩]

/-- **A document waits for another task only where a validation of it is scheduled or it is
closed.** -/
theorem eases_step {e : Event} (hrenews : e.renews uri = false) :
    Eases s (step around s e).1 uri := by
  by_cases hu : e.uri s = some uri
  · cases e with
    | schedule | close =>
      cases hu
      simp [Event.renews] at hrenews
    | validate => exact .of_tracked rfl
    | shutdown | configure | moveTo => cases hu
    | resume n =>
      obtain ⟨t, ht, rfl⟩ := Option.map_eq_some_iff.mp hu
      exact eases_resume around ht
    | complete n answer => exact .of_pendingOf (pendingOf_complete around answer)
  · exact .of_tracked (tracked?_step_of_ne around hu)

end Eases

/-! ### The task that was scheduled last -/

/-- Whether a validation of a document is scheduled with an event. -/
def Event.schedules (uri : String) : Event → Bool
  | .schedule document _ => document.uri == uri
  | _ => false

/-- **The task that was scheduled last for a document** in a run, if the document has not been
closed since. -/
def IsLatest (around : Surroundings) (s : Schedule) (es : List Event) (uri : String) (n : Nat) :
    Prop :=
  ∃ before e after, es = before ++ e :: after ∧
    (e.schedules uri = true ∧ n = (run around s before).1.tasks.length) ∧
      ∀ e' ∈ after, e'.renews uri = false

section Latest

variable {around : Surroundings} {s : Schedule} {es : List Event} {uri : String} {n : Nat}

/-- One more event is the last one by which the document was scheduled, or does not renew it. -/
theorem isLatest_snoc {e : Event} :
    IsLatest around s (es ++ [e]) uri n ↔
      (e.schedules uri = true ∧ n = (run around s es).1.tasks.length) ∨
        (IsLatest around s es uri n ∧ e.renews uri = false) := by
  unfold IsLatest
  rw [exists_split_snoc]
  simp only [List.not_mem_nil, false_implies, implies_true, and_true, List.mem_append,
    List.mem_singleton, or_imp, forall_and, forall_eq]
  refine or_congr_right ⟨?_, ?_⟩
  · rintro ⟨before, e', after, heq, hlast, hafter, hrenews⟩
    exact ⟨⟨before, e', after, heq, hlast, hafter⟩, hrenews⟩
  · rintro ⟨⟨before, e', after, heq, hlast, hafter⟩, hrenews⟩
    exact ⟨before, e', after, heq, hlast, hafter, hrenews⟩

variable (around) (settings : Settings) (workspace : Option Path)

/-- **A document waits for no other task than the one that was scheduled last for it.** -/
theorem isLatest_of_pendingOf
    (h : (run around { settings, workspace } es).1.pendingOf uri = some n) :
    IsLatest around { settings, workspace } es uri n := by
  induction es using List.reverseRecOn with
  | nil => cases h
  | append_singleton es e ih =>
    rw [run_snoc] at h
    rw [isLatest_snoc]
    cases hrenews : e.renews uri with
    | false => exact .inr ⟨ih ((eases_step around hrenews).before n h), rfl⟩
    | true =>
      cases e with
      | schedule document delay =>
        obtain rfl : document.uri = uri := by simpa [Event.renews] using hrenews
        obtain ⟨d, hd, hp⟩ := pendingOf_eq_some.mp h
        rw [step, tracked?_schedule, if_pos rfl] at hd
        cases hd
        exact .inl ⟨by simp [Event.schedules], (Option.some.inj hp).symm⟩
      | close u =>
        obtain rfl : u = uri := by simpa [Event.renews] using hrenews
        obtain ⟨d, hd, -⟩ := pendingOf_eq_some.mp h
        rw [step, tracked?_close, if_pos rfl] at hd
        cases hd
      | _ => cases hrenews

/-- **A document waits for the task that was scheduled last for it**, as long as that waits. -/
theorem IsLatest.pendingOf (h : IsLatest around { settings, workspace } es uri n) :
    ∃ t, (run around { settings, workspace } es).1.task? n = some t ∧ t.document.uri = uri ∧
      t.isScheduled = true ∧
        (t.isWaiting = true →
          (run around { settings, workspace } es).1.pendingOf uri = some n) := by
  induction es using List.reverseRecOn with
  | nil =>
    obtain ⟨before, e, after, heq, -⟩ := h
    simp at heq
  | append_singleton es e ih =>
    rw [run_snoc]
    rcases isLatest_snoc.mp h with ⟨hschedules, rfl⟩ | ⟨hlatest, hrenews⟩
    · cases e with
      | schedule document delay =>
        obtain rfl : document.uri = uri := by simpa [Event.schedules] using hschedules
        refine ⟨_, (task?_schedule _ document delay _).trans (if_pos rfl), rfl, rfl, fun _ => ?_⟩
        exact pendingOf_eq_some.mpr
          ⟨_, (tracked?_schedule _ document delay _).trans (if_pos rfl), rfl⟩
      | _ => cases hschedules
    · obtain ⟨t, ht, hu, hsch, hpending⟩ := ih hlatest
      obtain ⟨t', ht', hp⟩ := step_progress around e ht
      refine ⟨t', ht', hp.document ▸ hu, hp.isScheduled.trans hsch, fun hw => ?_⟩
      exact (eases_step around hrenews).after n t' (hpending (hp.waiting hw)) ht' hw

end Latest

/-! ### Phases -/

section Phase

variable {s : Schedule} {uri : String} {d : Tracked}

/-- **A document is being validated** where a validation of it is under way, or where the task that
it waits for has not got past its delay. -/
theorem phase_eq_validating_iff (hc : Consistent s) (hd : s.tracked? uri = some d) :
    s.phase uri = .validating ↔
      0 < d.inFlight ∨
        ∃ n t, s.pendingOf uri = some n ∧ s.task? n = some t ∧ t.isWaiting = true := by
  have hpending : ∀ n, s.pendingOf uri = some n ↔ d.pending = some n := fun n => by
    rw [pendingOf, hd, Option.bind_some]
  have hphase : s.phase uri = .validating ↔
      (∃ n, d.pending = some n ∧ s.isOutstanding n = true) ∨ d.inFlight ≠ 0 := by
    simp only [phase, hd]
    cases d.pending with
    | none => simp
    | some n => cases hn : s.isOutstanding n <;> simp [hn]
  rw [hphase, or_comm, Nat.pos_iff_ne_zero]
  refine or_congr_right ⟨?_, ?_⟩
  · rintro ⟨n, hn, houtstanding⟩
    obtain ⟨t, k, ht, -, -, -, hw⟩ := hc.pending_waits uri d n hd hn
    refine ⟨n, t, (hpending n).mpr hn, ht, hw.resolve_right fun hs => ?_⟩
    rw [isOutstanding_of_task? ht] at houtstanding
    simp [Task.isDone, hs] at houtstanding
  · rintro ⟨n, t, hn, ht, hw⟩
    refine ⟨n, (hpending n).mp hn, ?_⟩
    rw [isOutstanding_of_task? ht, Task.isDone_of_isWaiting hw]
    rfl

/-- **When a document is being validated, in terms of what has happened**: a validation of it is
under way, or the one that was scheduled last has not got past its delay. -/
theorem phase_run_eq_validating_iff (around : Surroundings) (settings : Settings)
    (workspace : Option Path) (es : List Event)
    (hd : (run around { settings, workspace } es).1.tracked? uri = some d) :
    (run around { settings, workspace } es).1.phase uri = .validating ↔
      0 < (run around { settings, workspace } es).1.underway uri d.life ∨
        ∃ n t, IsLatest around { settings, workspace } es uri n ∧
          (run around { settings, workspace } es).1.task? n = some t ∧ t.isWaiting = true := by
  have hempty := consistent_empty settings workspace
  have hcounted := (counted_empty settings workspace).run around hempty es
  rw [phase_eq_validating_iff (hempty.run around es) hd, hcounted uri d hd]
  refine or_congr_right ⟨?_, ?_⟩
  · rintro ⟨n, t, hn, ht, hw⟩
    exact ⟨n, t, isLatest_of_pendingOf around settings workspace hn, ht, hw⟩
  · rintro ⟨n, t, hlatest, ht, hw⟩
    obtain ⟨t', ht', -, -, hpending⟩ := hlatest.pendingOf around settings workspace
    obtain rfl : t' = t := Option.some.inj (ht'.symm.trans ht)
    exact ⟨n, t', hpending hw, ht, hw⟩

/-- **Once no scheduled validation is left, none of a document is under way**, unless it was asked
for directly. -/
theorem Counted.inFlight_eq_zero (hcounted : Counted s) (hquiet : s.outstanding = [])
    (hd : s.tracked? uri = some d)
    (hdirect : ∀ n t pass, s.task? n = some t → t.document.uri = uri → t.stage = .linting pass →
      t.isScheduled = true) : d.inFlight = 0 := by
  rw [hcounted uri d hd]
  refine underway_eq_zero fun n t ht => ?_
  cases hs : t.stage with
  | linting pass =>
    have hu : t.document.uri ≠ uri := by
      intro hu
      have hover := done_of_outstanding hquiet ht (hdirect n t pass ht hu hs)
      simp [Task.isDone, hs] at hover
    rw [Task.isUnderway_of_linting hs, beq_eq_false_iff_ne.mpr hu, Bool.false_and]
  | _ => exact Task.isUnderway_of_not_linting fun pass h => by simp [hs] at h

/-- A document of which no validation is under way is idle once no scheduled validation is left. -/
theorem phase_eq_idle_of_inFlight (hc : Consistent s) (hquiet : s.outstanding = [])
    (hfree : ∀ d, s.tracked? uri = some d → d.inFlight = 0) : s.phase uri = .idle := by
  cases hd : s.tracked? uri with
  | none => simp only [phase, hd]
  | some d =>
    cases hphase : s.phase uri with
    | idle => rfl
    | validating =>
      exfalso
      rcases (phase_eq_validating_iff hc hd).mp hphase with hpos | ⟨n, t, hn, ht, hw⟩
      · rw [hfree d hd] at hpos
        exact Nat.lt_irrefl 0 hpos
      · obtain ⟨d', hd', hp⟩ := pendingOf_eq_some.mp hn
        obtain ⟨t', k, ht', -, ho, -⟩ := hc.pending_waits uri d' n hd' hp
        obtain rfl : t' = t := Option.some.inj (ht'.symm.trans ht)
        have hover := done_of_outstanding hquiet ht (by simp [Task.isScheduled, ho])
        rw [Task.isDone_of_isWaiting hw] at hover
        cases hover

/-- **Once no scheduled validation is left, all documents are idle**, unless one that was asked for
directly is under way. -/
theorem phase_eq_idle (hc : Consistent s) (hcounted : Counted s) (hquiet : s.outstanding = [])
    (hdirect : ∀ n t pass, s.task? n = some t → t.stage = .linting pass → t.isScheduled = true)
    (uri : String) : s.phase uri = .idle :=
  phase_eq_idle_of_inFlight hc hquiet fun _ hd =>
    hcounted.inFlight_eq_zero hquiet hd fun n t pass ht _ hs => hdirect n t pass ht hs

end Phase

/-! ### Waiting for the scheduled validations -/

/-- **Waiting until no scheduled validation is left.** Those that are outstanding are waited for,
whatever else happens in the meantime; then those are looked at that are outstanding by then. -/
inductive Drains (around : Surroundings) : Schedule → Schedule → Prop where
  /-- Nothing is outstanding. -/
  | settled {s : Schedule} (quiet : s.outstanding = []) : Drains around s s
  /-- What is outstanding is waited for. -/
  | again {s t : Schedule} (es : List Event)
      (awaited : ∀ n ∈ s.outstanding, (run around s es).1.isOutstanding n = false)
      (rest : Drains around (run around s es).1 t) : Drains around s t

/-- **The waiting ends where a run has come to a schedule without outstanding validations**, those
among them that were scheduled meanwhile. -/
theorem drains_iff {around : Surroundings} {s t : Schedule} :
    Drains around s t ↔ ∃ es, t = (run around s es).1 ∧ t.outstanding = [] := by
  constructor
  · intro h
    induction h with
    | settled quiet => exact ⟨[], rfl, quiet⟩
    | again es _ _ ih =>
      obtain ⟨es', rfl, hquiet⟩ := ih
      exact ⟨es ++ es', by rw [run_append], hquiet⟩
  · rintro ⟨es, rfl, hquiet⟩
    refine .again es (fun n hn => ?_) (.settled hquiet)
    obtain ⟨t, ht, hs, -⟩ := mem_outstanding.mp hn
    obtain ⟨t', ht', hp⟩ := run_progress around es ht
    rw [isOutstanding_of_task? ht', done_of_outstanding hquiet ht' (hp.isScheduled.trans hs)]
    rfl

end Schedule

end LintBridge
