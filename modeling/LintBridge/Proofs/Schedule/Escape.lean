import LintBridge.Proofs.Publication.Deliverable
import LintBridge.Proofs.Schedule.Chronicle

/-!
# Failures that escape a validation

A validation that fails is meant to end all the same: it says so in the log, and what was published
before stays (`LintBridge.Schedule.ProvidedFor`). That holds of everything between the call of the
linter and the reading of what it wrote (`LintBridge.Schedule.Failing`). Two things are done outside
of that stretch, and what goes wrong with them ends the task itself (`LintBridge.Schedule.Escape`):
**the URI is read before it, and the set is handed to the editor after it**.

Neither list depends on how the schedule came about. The main result is about whole runs all the
same, since a task that has failed stays failed:
`LintBridge.Schedule.validation_escapes_iff`.
-/

namespace LintBridge

namespace Schedule

/-- The world around a server, in which a publication is told to an editor. -/
def Surroundings.editor (host : Host) : Surroundings where
  host := host
  deliver p := p.notice.map fun _ => ()

/-- An editor that can be told all of a publication is told it. -/
theorem deliver_editor (host : Host) (p : Publication) :
    (∃ m, (Surroundings.editor host).deliver p = .error m) ↔ ¬ p.Deliverable := by
  rw [← Publication.notice_fails_iff]
  exact exists_congr fun m => map_eq_error

/-- The task has failed in a way nobody provides for. -/
def HasFailed (s : Schedule) (n : Nat) : Prop :=
  ∃ t m, s.task? n = some t ∧ t.stage = .done (.failed m)

/-- **The ways in which a task fails in an event** that nobody provides for. -/
inductive Escape (s : Schedule) (n : Nat) : Event → Prop where
  /-- It is due, and its URI cannot be read. -/
  | unreadable {t : Task} (task : s.task? n = some t) (due : t.isDue = true)
      (kept : t.cancelRequested = false) (uri : ¬ Uri.Readable t.document.uri) :
      Escape s n (.resume n)
  /-- The linter has answered it, and the editor cannot be told what was found. -/
  | undeliverable {t : Task} {pass : Pass} {answer : Except Mishap ToolOutput}
      {records : List Record} (task : s.task? n = some t) (stage : t.stage = .linting pass)
      (kept : t.cancelRequested = false)
      (read : (pass.read t.document.uri answer).result = .ok records)
      (current : s.isCurrent t.document.uri pass.life pass.sequence = true)
      (set : ¬ (publicationOf t.document records).Deliverable) :
      Escape s n (.complete n answer)

/-- **The ways in which a validation fails in an event** that are provided for. -/
inductive Failing (host : Host) (s : Schedule) (n : Nat) (uri : String) : Event → Failure →
    Prop where
  /-- The directory to lint in cannot be found out. -/
  | stuck {t : Task} {file : Path} {e : Host.Error} (task : s.task? n = some t)
      (document : t.document.uri = uri) (due : t.isDue = true) (kept : t.cancelRequested = false)
      (named : Uri.toPath? uri = .ok (some file))
      (call : Linter.callFor host s.settings s.workspace file = .error e) :
      Failing host s n uri (.resume n) (.mishap (.system e))
  /-- The linter has not done its work, or what it wrote cannot be read. -/
  | read {t : Task} {pass : Pass} {answer : Except Mishap ToolOutput} {f : Failure}
      (task : s.task? n = some t) (document : t.document.uri = uri)
      (stage : t.stage = .linting pass) (kept : t.cancelRequested = false)
      (read : (pass.read uri answer).result = .error f) :
      Failing host s n uri (.complete n answer) f

variable {s : Schedule} {n : Nat}

/-! ### Failures that escape -/

section Escape

theorem not_hasFailed_of_not_done {t : Task} (ht : s.task? n = some t) (hd : t.isDone = false) :
    ¬ HasFailed s n := by
  rintro ⟨t', m, ht', hm⟩
  obtain rfl : t = t' := Option.some.inj (ht.symm.trans ht')
  rw [Task.isDone_iff.mpr ⟨_, hm⟩] at hd
  cases hd

theorem hasFailed_setStage {s₁ : Schedule} {t : Task} {stage : Stage} (ht : s.task? n = some t)
    (htasks : ∀ m, s₁.task? m = s.task? m) :
    HasFailed (s₁.setStage n stage) n ↔ ∃ m, stage = .done (.failed m) := by
  unfold HasFailed
  rw [task?_setStage_own ht htasks]
  simp

/-- The path behind a URI is found only where the URI can be read. -/
theorem readable_of_toPath? {uri : String} {file? : Option Path}
    (h : Uri.toPath? uri = .ok file?) : Uri.Readable uri := by
  by_contra hnot
  obtain ⟨e, he⟩ := Uri.split_fails_iff.mpr hnot
  rw [Uri.toPath?_eq_error.mpr he] at h
  cases h

/-- A task that fails when it is resumed has a URI that cannot be read. -/
theorem hasFailed_resume (around : Surroundings) {t : Task} (ht : s.task? n = some t)
    (hd : t.isDone = false) :
    HasFailed (resume around s n).1 n ↔
      t.isDue = true ∧ t.cancelRequested = false ∧ ¬ Uri.Readable t.document.uri := by
  generalize hx : resume around s n = x
  have hcases := resume_cases around ht
  rw [hx] at hcases
  cases hcases with
  | idle notWaiting =>
    constructor
    · intro h
      exact absurd h (not_hasFailed_of_not_done ht hd)
    · rintro ⟨due, -, -⟩
      rw [Task.isWaiting_of_isDue due] at notWaiting
      cases notWaiting
  | cancelled waiting cancelled =>
    refine (hasFailed_setStage ht fun _ => rfl).trans ?_
    constructor
    · rintro ⟨m, hm⟩
      cases hm
    · rintro ⟨-, kept, -⟩
      rw [kept] at cancelled
      cases cancelled
  | slept delay stage kept positive =>
    refine (hasFailed_setStage ht fun _ => rfl).trans ?_
    constructor
    · rintro ⟨m, hm⟩
      cases hm
    · rintro ⟨due, -, -⟩
      simp [Task.isDue, stage, positive] at due
  | unreadable e due kept file =>
    have huri := Uri.split_fails_iff.mp ⟨e, Uri.toPath?_eq_error.mp file⟩
    refine (hasFailed_setStage ht fun m => by simp [release]).trans ?_
    exact iff_of_true ⟨_, rfl⟩ ⟨due, kept, huri⟩
  | skipped _ _ file | stuck _ _ _ _ file | called _ _ _ _ file =>
    refine (hasFailed_setStage ht fun m => by simp [release]).trans ?_
    constructor
    · rintro ⟨m, hm⟩
      cases hm
    · rintro ⟨-, -, hnot⟩
      exact absurd (readable_of_toPath? file) hnot

/-- A task that fails when the linter has answered it cannot deliver what it has found. -/
theorem hasFailed_complete (around : Surroundings) {t : Task} {pass : Pass}
    (answer : Except Mishap ToolOutput) (ht : s.task? n = some t) (hs : t.stage = .linting pass) :
    HasFailed (complete around s n answer).1 n ↔
      t.cancelRequested = false ∧ ∃ records,
        (pass.read t.document.uri answer).result = .ok records ∧
          s.isCurrent t.document.uri pass.life pass.sequence = true ∧
          ∃ m, around.deliver (publicationOf t.document records) = .error m := by
  generalize hx : complete around s n answer = x
  have hcases := complete_cases around answer ht hs
  rw [hx] at hcases
  cases hcases with
  | cancelled cancelled =>
    refine (hasFailed_setStage ht fun _ => rfl).trans ?_
    constructor
    · rintro ⟨m, hm⟩
      cases hm
    · rintro ⟨kept, -⟩
      rw [kept] at cancelled
      cases cancelled
  | failed e kept read =>
    refine (hasFailed_setStage ht fun _ => rfl).trans ?_
    constructor
    · rintro ⟨m, hm⟩
      cases hm
    · rintro ⟨-, records, read', -⟩
      cases read.symm.trans read'
  | outdated records kept read stale =>
    refine (hasFailed_setStage ht fun _ => rfl).trans ?_
    constructor
    · rintro ⟨m, hm⟩
      cases hm
    · rintro ⟨-, records', -, current, -⟩
      rw [stale] at current
      cases current
  | published records kept read current delivered =>
    refine (hasFailed_setStage ht fun _ => rfl).trans ?_
    constructor
    · rintro ⟨m, hm⟩
      cases hm
    · rintro ⟨-, records', read', -, m, hm⟩
      obtain rfl : records = records' := Except.ok.inj (read.symm.trans read')
      rw [delivered] at hm
      cases hm
  | undelivered records m kept read current refused =>
    refine (hasFailed_setStage ht fun _ => rfl).trans ?_
    exact iff_of_true ⟨m, rfl⟩ ⟨kept, records, read, current, m, refused⟩

/-- What is asked for makes no task fail. -/
theorem hasFailed_of_request (around : Surroundings) {e : Event} (he : e.task s = s.tasks.length)
    (h : HasFailed (step around s e).1 n) : HasFailed s n := by
  obtain ⟨t', m, ht', hm⟩ := h
  by_cases hn : n = e.task s
  · -- The task is the one that is created, which has not run.
    rcases step_task_before around e ht' with ⟨t, ht, -⟩ | ⟨-, hnew⟩
    · exact absurd (task?_lt ht) (by omega)
    · rcases hnew with ⟨_, _, -, rfl⟩ | ⟨_, _, -, rfl⟩ <;> cases hm
  · obtain ⟨t, ht, hmark⟩ := (step_focus around s e "").task_before hn ht'
    exact ⟨t, m, ht, hmark.stage.symm.trans hm⟩

/-- A task that has failed stays failed. -/
theorem HasFailed.step (around : Surroundings) (h : HasFailed s n) (e : Event) :
    HasFailed (step around s e).1 n := by
  obtain ⟨t, m, ht, hm⟩ := h
  obtain ⟨t', ht', hprogress⟩ := step_progress around e ht
  exact ⟨t', m, ht', hprogress.outcome _ hm⟩

/-- A task that is resumed fails for its URI. -/
theorem hasFailed_step_resume (around : Surroundings) (m : Nat) (hnot : ¬ HasFailed s n) :
    HasFailed (resume around s m).1 n ↔ Escape s n (.resume m) := by
  constructor
  · intro h
    obtain rfl : n = m := by
      by_contra hne
      unfold HasFailed at h
      rw [task?_resume_of_ne around hne] at h
      exact hnot h
    cases ht : s.task? n with
    | none =>
      rw [resume_of_absent around ht] at h
      exact absurd h hnot
    | some t =>
      cases hw : t.isWaiting with
      | false =>
        rw [resume_of_not_waiting around ht hw] at h
        exact absurd h hnot
      | true =>
        obtain ⟨due, kept, huri⟩ :=
          (hasFailed_resume around ht (Task.isDone_of_isWaiting hw)).mp h
        exact .unreadable ht due kept huri
  · intro h
    cases h with
    | unreadable task due kept huri =>
      have hd := Task.isDone_of_isWaiting (Task.isWaiting_of_isDue due)
      exact (hasFailed_resume around task hd).mpr ⟨due, kept, huri⟩

/-- A task that the linter has answered fails for what it cannot deliver. -/
theorem hasFailed_step_complete (host : Host) (m : Nat) (answer : Except Mishap ToolOutput)
    (hnot : ¬ HasFailed s n) :
    HasFailed (complete (.editor host) s m answer).1 n ↔ Escape s n (.complete m answer) := by
  constructor
  · intro h
    obtain rfl : n = m := by
      by_contra hne
      unfold HasFailed at h
      rw [task?_complete_of_ne _ answer hne] at h
      exact hnot h
    by_cases hlint : ∃ t pass, s.task? n = some t ∧ t.stage = .linting pass
    · obtain ⟨t, pass, ht, hs⟩ := hlint
      obtain ⟨kept, records, read, current, hset⟩ := (hasFailed_complete _ answer ht hs).mp h
      exact .undeliverable ht hs kept read current ((deliver_editor host _).mp hset)
    · rw [complete_of_not_linting _ answer fun t pass ht hs => hlint ⟨t, pass, ht, hs⟩] at h
      exact absurd h hnot
  · intro h
    cases h with
    | undeliverable task stage kept read current hset =>
      exact (hasFailed_complete _ answer task stage).mpr
        ⟨kept, _, read, current, (deliver_editor host _).mpr hset⟩

/-- **A task fails in an event in one of the ways listed**, if it has not failed before. -/
theorem hasFailed_step (host : Host) (e : Event) (hnot : ¬ HasFailed s n) :
    HasFailed (step (.editor host) s e).1 n ↔ Escape s n e := by
  cases e with
  | resume m => exact hasFailed_step_resume _ m hnot
  | complete m answer => exact hasFailed_step_complete host m answer hnot
  | _ =>
    constructor
    · intro h
      exact absurd (hasFailed_of_request _ rfl h) hnot
    · intro h
      cases h

/-- A task that has failed in a run has failed in one of its events. -/
theorem hasFailed_run (host : Host) (s : Schedule) (hnot : ¬ HasFailed s n) (es : List Event) :
    HasFailed (run (.editor host) s es).1 n ↔
      ∃ before e after, es = before ++ e :: after ∧
        Escape (run (.editor host) s before).1 n e := by
  induction es using List.reverseRecOn with
  | nil =>
    refine ⟨fun h => absurd h hnot, ?_⟩
    rintro ⟨before, e, after, heq, -⟩
    simp at heq
  | append_singleton es e ih =>
    rw [run_snoc]
    -- The task has failed before the last event, or the last event is the one it fails in.
    by_cases hfailed : HasFailed (run (.editor host) s es).1 n
    · refine iff_of_true (hfailed.step _ e) ?_
      obtain ⟨before, e', after, rfl, h⟩ := ih.mp hfailed
      exact ⟨before, e', after ++ [e], by simp, h⟩
    · rw [hasFailed_step host e hfailed]
      constructor
      · exact fun h => ⟨es, e, [], rfl, h⟩
      · rintro ⟨before, e', after, heq, h⟩
        rcases List.eq_nil_or_concat after with rfl | ⟨after, last, rfl⟩
        · obtain ⟨hbefore, hlast⟩ := List.append_inj' heq rfl
          cases hbefore
          cases hlast
          exact h
        · have heq' : es = before ++ e' :: after := by
            rw [List.concat_eq_append, ← List.cons_append, ← List.append_assoc] at heq
            exact (List.append_inj' heq rfl).1
          exact absurd (ih.mpr ⟨before, e', after, heq', h⟩) hfailed

end Escape

/-! ### Failures that are provided for -/

section Failing

/-- A change that leaves the set published last alone. -/
theorem published_modify {f : Tracked → Tracked} (s : Schedule) (uri : String)
    (hf : ∀ d, (f d).published = d.published) (v : String) :
    (s.modify uri f).published v = s.published v := by
  unfold published
  rw [tracked?_modify]
  by_cases hv : v = uri
  · rw [if_pos hv]
    cases s.tracked? v with
    | none => rfl
    | some d => exact hf d
  · rw [if_neg hv]

@[simp] theorem published_setStage (s : Schedule) (n : Nat) (stage : Stage) (v : String) :
    (s.setStage n stage).published v = s.published v := rfl

@[simp] theorem published_release (s : Schedule) (n : Nat) (uri v : String) :
    (s.release n uri).published v = s.published v :=
  published_modify s uri (fun d => d.release_published n) v

@[simp] theorem published_leave (s : Schedule) (uri : String) (life : Nat) (v : String) :
    (s.leave uri life).published v = s.published v :=
  published_modify s uri (fun d => d.leave_published life) v

@[simp] theorem published_enroll (s : Schedule) (t : Task) (v : String) :
    (s.enroll t).published v = s.published v := by
  unfold published
  rw [tracked?_enroll]
  by_cases hv : v = t.document.uri
  · subst hv
    rw [if_pos rfl]
    cases hd : s.tracked? t.document.uri with
    | none => simp [enrolled, entry_of_untracked hd]
    | some d => simp [enrolled, entry_of_tracked hd]
  · rw [if_neg hv]

/-- **A failure is provided for**, in what is made of a schedule and the effects of that: it ends the
task as one that has published nothing, is written into the log, and leaves what was published
before. -/
structure ProvidedFor (s : Schedule) (n : Nat) (uri : String) (f : Failure)
    (r : Schedule × List Effect) : Prop where
  /-- The task has come to its end, and has published nothing. -/
  ended : ∃ t, r.1.task? n = some t ∧ t.stage = .done (.finished false)
  /-- The log says what has gone wrong. -/
  logged : .logged (failureEntry uri f) ∈ r.2
  /-- Nothing is published. -/
  silent : publications r.2 = []
  /-- What was published before stays. -/
  kept : ∀ v, r.1.published v = s.published v

theorem ProvidedFor.of_stuck {around : Surroundings} {t : Task} {file : Path} {e : Host.Error}
    (ht : s.task? n = some t) (due : t.isDue = true) (kept : t.cancelRequested = false)
    (named : Uri.toPath? t.document.uri = .ok (some file))
    (call : Linter.callFor around.host s.settings s.workspace file = .error e) :
    ProvidedFor s n t.document.uri (.mishap (.system e)) (resume around s n) := by
  generalize hx : resume around s n = x
  have hcases := resume_cases around ht
  rw [hx] at hcases
  -- What is known of the task and its file leaves one of the ways only.
  cases hcases with
  | idle notWaiting =>
    rw [Task.isWaiting_of_isDue due] at notWaiting
    cases notWaiting
  | cancelled _ cancelled =>
    rw [kept] at cancelled
    cases cancelled
  | slept delay stage _ positive => simp [Task.isDue, stage, positive] at due
  | unreadable _ _ _ file' | skipped _ _ file' => cases named.symm.trans file'
  | called _ _ _ _ named' call' =>
    cases named.symm.trans named'
    cases call.symm.trans call'
  | stuck _ _ _ _ named' call' =>
    cases named.symm.trans named'
    cases call.symm.trans call'
    exact
      { ended := ⟨_, task?_setStage_own ht fun m => by simp [release], rfl⟩
        logged := List.mem_singleton_self _
        silent := rfl
        kept := fun v => by simp [finish] }

theorem ProvidedFor.of_read {around : Surroundings} {t : Task} {pass : Pass}
    {answer : Except Mishap ToolOutput} {f : Failure} (ht : s.task? n = some t)
    (hs : t.stage = .linting pass) (kept : t.cancelRequested = false)
    (read : (pass.read t.document.uri answer).result = .error f) :
    ProvidedFor s n t.document.uri f (complete around s n answer) := by
  generalize hx : complete around s n answer = x
  have hcases := complete_cases around answer ht hs
  rw [hx] at hcases
  cases hcases with
  | cancelled cancelled =>
    rw [kept] at cancelled
    cases cancelled
  | outdated _ _ read' | published _ _ read' | undelivered _ _ _ read' =>
    cases read.symm.trans read'
  | failed _ _ read' =>
    cases read.symm.trans read'
    exact
      { ended := ⟨_, task?_setStage_own ht fun _ => rfl, rfl⟩
        logged := by simp
        silent := by simp [publications, Effect.publication?]
        kept := fun v => by simp [finish] }

/-- **What fails in one of the ways listed is provided for.** -/
theorem providedFor_of_failing {around : Surroundings} {uri : String} {e : Event} {f : Failure}
    (h : Failing around.host s n uri e f) : ProvidedFor s n uri f (step around s e) := by
  cases h with
  | stuck task document due kept named call =>
    subst document
    exact .of_stuck task due kept named call
  | read task document stage kept read =>
    subst document
    exact .of_read task stage kept read

end Failing

/-! ### Cancellation -/

/-- No task is cancelled unless that has been asked for. -/
def CancelledOnRequest (s : Schedule) : Prop :=
  ∀ n t, s.task? n = some t → t.stage = .done .cancelled → t.cancelRequested = true

/-- A task that is moved to a stage is cancelled by that only if this has been asked for. -/
theorem CancelledOnRequest.of_setStage {s₁ : Schedule} {t : Task} {stage : Stage}
    (h : CancelledOnRequest s) (ht : s.task? n = some t) (htasks : ∀ m, s₁.task? m = s.task? m)
    (hstage : stage = .done .cancelled → t.cancelRequested = true) :
    CancelledOnRequest (s₁.setStage n stage) := by
  intro m t' ht' hcancelled
  by_cases hm : m = n
  · subst hm
    obtain rfl : _ = t' := Option.some.inj ((task?_setStage_own ht htasks).symm.trans ht')
    exact hstage hcancelled
  · rw [task?_setStage, if_neg hm, htasks] at ht'
    exact h m t' ht' hcancelled

theorem CancelledOnRequest.resume (around : Surroundings) (h : CancelledOnRequest s) (n : Nat) :
    CancelledOnRequest (resume around s n).1 := by
  cases ht : s.task? n with
  | none =>
    rw [resume_of_absent around ht]
    exact h
  | some t =>
    generalize hx : Schedule.resume around s n = x
    have hcases := resume_cases around ht
    rw [hx] at hcases
    cases hcases with
    | idle => exact h
    | cancelled _ cancelled => exact h.of_setStage ht (fun _ => rfl) fun _ => cancelled
    | slept | unreadable | skipped | stuck | called =>
      refine h.of_setStage ht (fun m => by simp [release]) fun hstage => ?_
      cases hstage

theorem CancelledOnRequest.complete (around : Surroundings) (h : CancelledOnRequest s) (n : Nat)
    (answer : Except Mishap ToolOutput) : CancelledOnRequest (complete around s n answer).1 := by
  by_cases hlint : ∃ t pass, s.task? n = some t ∧ t.stage = .linting pass
  · obtain ⟨t, pass, ht, hs⟩ := hlint
    generalize hx : Schedule.complete around s n answer = x
    have hcases := complete_cases around answer ht hs
    rw [hx] at hcases
    cases hcases with
    | cancelled cancelled => exact h.of_setStage ht (fun _ => rfl) fun _ => cancelled
    | failed | outdated | published | undelivered =>
      refine h.of_setStage ht (fun _ => rfl) fun hstage => ?_
      cases hstage
  · rw [complete_of_not_linting around answer fun t pass ht hs => hlint ⟨t, pass, ht, hs⟩]
    exact h

theorem CancelledOnRequest.step (around : Surroundings) (h : CancelledOnRequest s) (e : Event) :
    CancelledOnRequest (step around s e).1 := by
  have hrequest : e.task s = s.tasks.length → CancelledOnRequest (Schedule.step around s e).1 := by
    intro he n t' ht' hcancelled
    rcases step_task_before around e ht' with ⟨t₀, ht₀, -⟩ | ⟨-, hnew⟩
    · have hn : n ≠ e.task s := he ▸ Nat.ne_of_lt (task?_lt ht₀)
      obtain ⟨t, ht, hmark⟩ := (step_focus around s e "").task_before hn ht'
      have hasked := h n t ht (hmark.stage.symm.trans hcancelled)
      cases hkept : t'.cancelRequested with
      | true => rfl
      | false =>
        rw [hmark.kept hkept] at hasked
        cases hasked
    · rcases hnew with ⟨_, _, -, rfl⟩ | ⟨_, _, -, rfl⟩ <;> cases hcancelled
  cases e with
  | resume n => exact h.resume around n
  | complete n answer => exact h.complete around n answer
  | _ => exact hrequest rfl

theorem CancelledOnRequest.run (around : Surroundings) (h : CancelledOnRequest s)
    (es : List Event) : CancelledOnRequest (run around s es).1 := by
  induction es generalizing s with
  | nil => exact h
  | cons e rest ih => exact ih (h.step around e)

/-- A task that is over came to its end, was cancelled on request, or failed. -/
theorem outcome_cases {t : Task} {o : Outcome} (h : CancelledOnRequest s) (ht : s.task? n = some t)
    (ho : t.stage = .done o) : (∃ published, o = .finished published) ∨
      (o = .cancelled ∧ t.cancelRequested = true) ∨ HasFailed s n := by
  cases o with
  | finished published => exact .inl ⟨published, rfl⟩
  | cancelled => exact .inr (.inl ⟨rfl, h n t ht ho⟩)
  | failed m => exact .inr (.inr ⟨t, m, ht, ho⟩)

/-! ### Whole runs -/

/-- **A validation fails in a way nobody provides for exactly when its URI cannot be read or the
editor cannot be told what it has found.** Every other one that is over came to its end or was
cancelled on request, and every other failure ends it as one that has published nothing, is written
into the log, and leaves what was published before. -/
theorem validation_escapes_iff (host : Host) (settings : Settings) (workspace : Option Path)
    (es : List Event) :
    (∀ n, HasFailed (run (.editor host) { settings, workspace } es).1 n ↔
      ∃ before e after, es = before ++ e :: after ∧
        Escape (run (.editor host) { settings, workspace } before).1 n e) ∧
    (∀ n t o, (run (.editor host) { settings, workspace } es).1.task? n = some t →
      t.stage = .done o → (∃ published, o = .finished published) ∨
        (o = .cancelled ∧ t.cancelRequested = true) ∨
        HasFailed (run (.editor host) { settings, workspace } es).1 n) ∧
    ∀ s n uri e f, Failing host s n uri e f →
      ProvidedFor s n uri f (step (.editor host) s e) := by
  have hempty : ∀ (n : Nat) (t : Task),
      ({ settings, workspace } : Schedule).task? n ≠ some t := by
    intro n t ht
    cases ht
  have hrequest : CancelledOnRequest { settings, workspace } :=
    fun n t ht => absurd ht (hempty n t)
  refine ⟨fun n => hasFailed_run host _ ?_ es, fun n t o ht ho => ?_,
    fun s n uri e f h => providedFor_of_failing h⟩
  · rintro ⟨t, m, ht, -⟩
    exact hempty n t ht
  · exact outcome_cases (hrequest.run (.editor host) es) ht ho

/-- A document whose URI opens a square bracket and does not close it. -/
def bracketed : Document where
  uri := "file://[x"
  version := some 1

/-- A validation fails in a way nobody provides for where its URI cannot be read. -/
theorem validation_escapes_brackets : ¬ ∀ (host : Host) (settings : Settings)
    (workspace : Option Path) (es : List Event) (n : Nat),
    ¬ HasFailed (run (.editor host) { settings, workspace } es).1 n := by
  intro h
  refine h {} {} none [.validate bracketed none, .resume 0] 0
    ⟨{ directTask bracketed none with stage := .done (.failed (.badTarget .badBrackets)) },
      .badTarget .badBrackets, ?_, rfl⟩
  decide +kernel

/-- So it does where the version of the document is more than the protocol has. -/
example : ((run (.editor {}) { settings := { projectMarkers := [] } }
    [.validate { uri := "file:///app.py", version := some 2147483648 } none, .resume 0,
      .complete 0 (.ok { exitCode := some 0 })]).1.task? 0).map Task.stage =
    some (.done (.failed (.outOfRange "PublishDiagnosticsParams.version" (-2147483648) 2147483647
      2147483648))) := by
  decide +kernel

end Schedule

end LintBridge
