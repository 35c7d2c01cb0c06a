import LintBridge.Proofs.Schedule.Delivery
import LintBridge.Proofs.Schedule.Outdated
import LintBridge.Proofs.Schedule.Phase

/-!
# After a shutdown

A shutdown asks for the cancellation of all scheduled validations at once, and finds them at any
point of their courses: not begun, asleep, waiting for the linter, or answered already but not yet
resumed. **None of them publishes anything from then on**, whatever happens, and each is over the
next time it runs.

* `LintBridge.Schedule.Task.isSpent` – a task that is over or whose cancellation has been asked for;
* `LintBridge.Schedule.Task.Unwinds` – what becomes of such a task: it keeps its stage until it is
  cancelled (`LintBridge.Schedule.unwinds_step`, `LintBridge.Schedule.unwinds_run`), which it is
  with its next turn (`LintBridge.Schedule.step_turn`);
* `LintBridge.Schedule.handed_of_mem_marks`, `LintBridge.Schedule.handed_of_mem_chronicle` – where
  nothing is asked for any more, only tasks that are not spent have anything published;
* `LintBridge.Schedule.silent_after_shutdown` – **what is left of a schedule after a shutdown**.

Validations that were asked for directly are not scheduled, and a shutdown leaves them alone. What
is said of a document holds where none of it is unfinished by then.
-/

namespace LintBridge

namespace Schedule

/-! ### Spent tasks -/

/-- Whether nothing more is to come of a task: it is over, or its cancellation is asked for. -/
def Task.isSpent (t : Task) : Bool :=
  t.isDone || t.cancelRequested

/-- **One task is another one that unwinds**: it keeps its stage until it is cancelled. -/
structure Task.Unwinds (t t' : Task) : Prop where
  /-- Nothing more is to come of it. -/
  spent : t'.isSpent = true
  /-- It is in the same stage, or has been cancelled. -/
  stage : t'.stage = t.stage ∨ t'.stage = .done .cancelled

/-- The event with which a task that is not over runs on. -/
def Task.turn (t : Task) (n : Nat) (answer : Except Mishap ToolOutput) : Event :=
  if t.isWaiting then .resume n else .complete n answer

section Spent

variable {t t' t'' : Task}

theorem Task.isSpent_iff : t.isSpent = true ↔ t.isDone = true ∨ t.cancelRequested = true := by
  rw [isSpent, Bool.or_eq_true]

theorem Task.cancelRequested_of_isSpent (h : t.isSpent = true) (hd : t.isDone = false) :
    t.cancelRequested = true :=
  (Task.isSpent_iff.mp h).resolve_left (by simp [hd])

theorem Task.isSpent_requestCancel (t : Task) : t.requestCancel.isSpent = true := by
  rw [Task.isSpent_iff]
  cases hd : t.isDone with
  | true => exact .inl ((Task.Marked.requestCancel t).isDone.trans hd)
  | false => exact .inr (Task.requestCancel_cancelRequested hd)

/-- A spent task may be marked again. -/
theorem Task.Marked.unwinds (h : t.Marked t') (hspent : t.isSpent = true) : t.Unwinds t' where
  spent := by
    rcases Task.isSpent_iff.mp hspent with hd | hc
    · exact Task.isSpent_iff.mpr (.inl (h.isDone.trans hd))
    · refine Task.isSpent_iff.mpr (.inr ?_)
      by_contra hkept
      rw [h.kept (by simpa using hkept)] at hc
      cases hc
  stage := .inl h.stage

theorem Task.Unwinds.rfl (hspent : t.isSpent = true) : t.Unwinds t :=
  (Task.Marked.rfl t).unwinds hspent

theorem Task.unwinds_cancelled (t : Task) : t.Unwinds { t with stage := .done .cancelled } where
  spent := Eq.refl _
  stage := .inr (Eq.refl _)

theorem Task.Unwinds.trans (h : t.Unwinds t') (h' : t'.Unwinds t'') : t.Unwinds t'' where
  spent := h'.spent
  stage := by
    rcases h'.stage with hsame | hcancelled
    · rw [hsame]
      exact h.stage
    · exact .inr hcancelled

/-- A task that neither waits nor has called the linter is over. -/
theorem Task.exists_linting (hd : t.isDone = false) (hw : t.isWaiting = false) :
    ∃ pass, t.stage = .linting pass := by
  cases hs : t.stage with
  | linting pass => exact ⟨pass, rfl⟩
  | fresh | delayed => simp [Task.isWaiting, hs] at hw
  | done => simp [Task.isDone, hs] at hd

end Spent

/-! ### How spent tasks unwind -/

section Unwinding

variable (around : Surroundings) {s : Schedule} {n : Nat} {t : Task} {e : Event}

theorem resume_of_spent (ht : s.task? n = some t) (hspent : t.isSpent = true)
    (hw : t.isWaiting = true) : resume around s n = (s.finish n .cancelled, []) := by
  have hc := Task.cancelRequested_of_isSpent hspent (Task.isDone_of_isWaiting hw)
  generalize hx : resume around s n = x
  have hcases := resume_cases around ht
  rw [hx] at hcases
  cases hcases with
  | idle notWaiting => exact absurd hw (by simp [notWaiting])
  | cancelled => rfl
  | slept _ _ kept | unreadable _ _ kept | skipped _ kept | stuck _ _ _ kept
  | called _ _ _ kept => exact absurd hc (by simp [kept])

/-- The answer of the linter is not looked at. -/
theorem complete_of_spent {pass : Pass} (answer : Except Mishap ToolOutput)
    (ht : s.task? n = some t) (hspent : t.isSpent = true) (hs : t.stage = .linting pass) :
    complete around s n answer =
      ((s.leave t.document.uri pass.life).finish n .cancelled, []) := by
  have hc := Task.cancelRequested_of_isSpent hspent (by simp [Task.isDone, hs])
  generalize hx : complete around s n answer = x
  have hcases := complete_cases around answer ht hs
  rw [hx] at hcases
  cases hcases with
  | cancelled => rfl
  | failed _ kept | outdated _ kept | published _ kept | undelivered _ _ kept =>
    exact absurd hc (by simp [kept])

/-- **A spent task that is not over is cancelled with its next turn**, and nothing is seen of that.
-/
theorem step_turn (ht : s.task? n = some t) (hspent : t.isSpent = true) (hd : t.isDone = false)
    (answer : Except Mishap ToolOutput) :
    (step around s (t.turn n answer)).2 = [] ∧
      (step around s (t.turn n answer)).1.task? n =
        some { t with stage := .done .cancelled } := by
  cases hw : t.isWaiting with
  | true =>
    rw [Task.turn, hw, if_pos rfl, step, resume_of_spent around ht hspent hw]
    exact ⟨rfl, task?_setStage_own ht fun _ => rfl⟩
  | false =>
    obtain ⟨pass, hs⟩ := Task.exists_linting hd hw
    rw [Task.turn, hw, if_neg Bool.false_ne_true, step,
      complete_of_spent around answer ht hspent hs]
    exact ⟨rfl, task?_setStage_own ht fun _ => rfl⟩

/-- **Every step lets a spent task unwind.** -/
theorem unwinds_step (ht : s.task? n = some t) (hspent : t.isSpent = true) (e : Event) :
    ∃ t', (step around s e).1.task? n = some t' ∧ t.Unwinds t' := by
  -- A task that the event does not concern is marked at most.
  have hother : n ≠ e.task s → ∃ t', (step around s e).1.task? n = some t' ∧ t.Unwinds t' := by
    intro hn
    obtain ⟨t', ht', hmark⟩ := (step_focus around s e "").task_after hn ht
    exact ⟨t', ht', hmark.unwinds hspent⟩
  cases e with
  | resume m =>
    by_cases hn : n = m
    · subst hn
      cases hw : t.isWaiting with
      | true =>
        rw [step, resume_of_spent around ht hspent hw]
        exact ⟨_, task?_setStage_own ht fun _ => rfl, t.unwinds_cancelled⟩
      | false =>
        rw [step, resume_of_not_waiting around ht hw]
        exact ⟨t, ht, .rfl hspent⟩
    · exact hother hn
  | complete m answer =>
    by_cases hn : n = m
    · subst hn
      by_cases hlint : ∃ pass, t.stage = .linting pass
      · obtain ⟨pass, hs⟩ := hlint
        rw [step, complete_of_spent around answer ht hspent hs]
        exact ⟨_, task?_setStage_own ht fun _ => rfl, t.unwinds_cancelled⟩
      · have hsame : complete around s n answer = (s, []) := by
          refine complete_of_not_linting around answer fun t' pass ht' hs => hlint ⟨pass, ?_⟩
          obtain rfl : t = t' := Option.some.inj (ht.symm.trans ht')
          exact hs
        rw [step, hsame]
        exact ⟨t, ht, .rfl hspent⟩
    · exact hother hn
  | _ => exact hother (Nat.ne_of_lt (task?_lt ht))

/-- **A spent task unwinds along every run.** -/
theorem unwinds_run (ht : s.task? n = some t) (hspent : t.isSpent = true) (es : List Event) :
    ∃ t', (run around s es).1.task? n = some t' ∧ t.Unwinds t' := by
  induction es generalizing s t with
  | nil => exact ⟨t, ht, .rfl hspent⟩
  | cons e rest ih =>
    obtain ⟨t₁, ht₁, hunwinds⟩ := unwinds_step around ht hspent e
    obtain ⟨t', ht', hrest⟩ := ih ht₁ hunwinds.spent
    exact ⟨t', ht', hunwinds.trans hrest⟩

end Unwinding

/-! ### Who has anything published -/

/-- Whether something is asked for with an event: a validation, or that a document be closed. -/
def Event.asks : Event → Bool
  | .schedule _ _ | .validate _ _ | .close _ => true
  | _ => false

theorem Event.creates_of_not_asks {e : Event} (he : e.asks = false) : e.creates = false := by
  cases e with
  | schedule | validate => cases he
  | _ => rfl

theorem Event.closes_of_not_asks {e : Event} (he : e.asks = false) (uri : String) :
    e.closes uri = false := by
  cases e with
  | close => cases he
  | _ => rfl

section Handing

variable {around : Surroundings} {s : Schedule} {n : Nat} {k : Int} {p : Publication} {e : Event}
  {es : List Event} {m : Mark}

/-- A spent task hands nothing over. -/
theorem unspent_of_handed (h : .handed n k p ∈ marks around s e) :
    ∃ t, s.task? n = some t ∧ t.isSpent = false ∧ t.document.uri = p.uri := by
  obtain ⟨answer, t, pass, records, rfl, ht, hs, -, -, rfl⟩ := task?_of_handed around h
  refine ⟨t, ht, Bool.eq_false_iff.mpr fun hspent => ?_, rfl⟩
  rw [marks_complete around answer ht hs, complete_of_spent around answer ht hspent hs] at h
  cases h

/-- Where nothing is asked for, whatever is published with a step is handed over by a task that is
not spent. -/
theorem handed_of_mem_marks (he : e.asks = false) (hm : m ∈ marks around s e)
    (hp : m.publication? = some p) :
    ∃ n k t, m = .handed n k p ∧ s.task? n = some t ∧ t.isSpent = false ∧
      t.document.uri = p.uri := by
  have hpublished : p ∈ publications (step around s e).2 := by
    rw [publications_eq_marks]
    exact List.mem_filterMap.mpr ⟨m, hm, hp⟩
  cases e with
  | schedule | validate | close => cases he
  | shutdown =>
    rw [step, shutdown, publications_cancelAll] at hpublished
    cases hpublished
  | configure | moveTo => cases hpublished
  | resume n =>
    rw [step, publications_resume] at hpublished
    cases hpublished
  | complete n answer =>
    rcases marks_complete_cases around s n answer with hnil | ⟨_, pass, records, -, -, -, hmarks⟩
    · rw [hnil] at hm
      cases hm
    · obtain rfl := List.mem_singleton.mp (hmarks ▸ hm)
      obtain rfl := Option.some.inj hp
      obtain ⟨t, ht, hspent, hu⟩ := unspent_of_handed hm
      exact ⟨n, pass.sequence, t, rfl, ht, hspent, hu⟩

/-- **Where nothing is asked for, whatever is published in a run is handed over by a task that was
not spent before.** -/
theorem handed_of_mem_chronicle (hes : ∀ e ∈ es, e.asks = false) (hm : m ∈ chronicle around s es)
    (hp : m.publication? = some p) :
    ∃ n k t, m = .handed n k p ∧ s.task? n = some t ∧ t.isSpent = false ∧
      t.document.uri = p.uri := by
  induction es generalizing s with
  | nil => cases hm
  | cons e rest ih =>
    obtain ⟨he, hrest⟩ := List.forall_mem_cons.mp hes
    rcases List.mem_append.mp hm with hm | hm
    · exact handed_of_mem_marks he hm hp
    · obtain ⟨n, k, t', rfl, ht', hspent', hu⟩ := ih hrest hm
      obtain ⟨t, ht, hlater⟩ :=
        step_task_of_creates_eq_false around (Event.creates_of_not_asks he) ht'
      -- A task that was spent before the step is spent after it.
      cases hspent : t.isSpent with
      | false => exact ⟨n, k, t, rfl, ht, hspent, hlater.document ▸ hu⟩
      | true =>
        obtain ⟨t'', ht'', hunwinds⟩ := unwinds_step around ht hspent e
        obtain rfl : t' = t'' := Option.some.inj (ht'.symm.trans ht'')
        exact absurd hunwinds.spent (by simp [hspent'])

end Handing

/-! ### Shutting down -/

section Shutdown

variable (around : Surroundings) {s : Schedule} {n : Nat} {t : Task} {after : List Event}

/-- A scheduled task is spent by a shutdown, whatever its stage. -/
theorem task?_shutdown_of_isScheduled (ht : s.task? n = some t) (hs : t.isScheduled = true) :
    s.shutdown.1.task? n = some t.requestCancel := by
  rw [task?_shutdown, ht, Option.map_some, if_pos hs]

/-- **A task that is not spent after a shutdown was asked for directly** and is not over. -/
theorem direct_of_unspent (ht : s.shutdown.1.task? n = some t) (hspent : t.isSpent = false) :
    s.task? n = some t ∧ t.isScheduled = false ∧ t.isDone = false := by
  rw [task?_shutdown] at ht
  obtain ⟨t₀, ht₀, heq⟩ := Option.map_eq_some_iff.mp ht
  cases hs : t₀.isScheduled with
  | true =>
    rw [hs, if_pos rfl] at heq
    rw [← heq, t₀.isSpent_requestCancel] at hspent
    cases hspent
  | false =>
    rw [hs, if_neg Bool.false_ne_true] at heq
    subst heq
    exact ⟨ht₀, hs, (Bool.or_eq_false_iff.mp hspent).1⟩

/-- What is published after a shutdown is handed over by tasks that were asked for directly. -/
theorem handed_after_shutdown (hafter : ∀ e ∈ after, e.asks = false) {m : Mark} {p : Publication}
    (hm : m ∈ chronicle around s (.shutdown :: after)) (hp : m.publication? = some p) :
    ∃ n k t, m = .handed n k p ∧ s.task? n = some t ∧ t.isScheduled = false ∧ t.isDone = false ∧
      t.document.uri = p.uri := by
  rw [chronicle, marks_shutdown, List.nil_append] at hm
  obtain ⟨n, k, t, rfl, ht, hspent, hu⟩ := handed_of_mem_chronicle hafter hm hp
  obtain ⟨ht₀, hdirect, hd⟩ := direct_of_unspent ht hspent
  exact ⟨n, k, t, rfl, ht₀, hdirect, hd, hu⟩

/-- A scheduled task that was not over at a shutdown is cancelled by then or with its next turn. -/
theorem unwinds_after_shutdown (ht : s.task? n = some t) (hs : t.isScheduled = true)
    (hd : t.isDone = false) :
    ∃ t', (run around s (.shutdown :: after)).1.task? n = some t' ∧
      (t'.stage = .done .cancelled ∨
        t'.stage = t.stage ∧ ∀ answer,
          (step around (run around s (.shutdown :: after)).1 (t'.turn n answer)).2 = [] ∧
            (step around (run around s (.shutdown :: after)).1 (t'.turn n answer)).1.task? n =
              some { t' with stage := .done .cancelled }) := by
  obtain ⟨t', ht', hunwinds⟩ :=
    unwinds_run around (task?_shutdown_of_isScheduled ht hs) t.isSpent_requestCancel after
  refine ⟨t', ht', hunwinds.stage.symm.imp_right fun hstage => ⟨?_, fun answer => ?_⟩⟩
  · exact hstage.trans t.requestCancel_stage
  · refine step_turn around ht' hunwinds.spent ?_ answer
    simpa only [Task.isDone, hstage, t.requestCancel_stage] using hd

/-- **A document of which no direct validation is left at a shutdown keeps what was published of
it.** -/
theorem published_after_shutdown (hafter : ∀ e ∈ after, e.asks = false) {uri : String}
    (hleft : ∀ n t, s.task? n = some t → t.isScheduled = false → t.document.uri = uri →
      t.isDone = true) :
    publicationsOf uri (run around s (.shutdown :: after)).2 = [] ∧
      (run around s (.shutdown :: after)).1.published uri = s.published uri := by
  have hsilent : publicationsOf uri (run around s (.shutdown :: after)).2 = [] := by
    refine List.eq_nil_iff_forall_not_mem.mpr fun p hp => ?_
    obtain ⟨hp, hu⟩ := List.mem_filter.mp hp
    rw [publications_eq_chronicle] at hp
    obtain ⟨m, hm, hp⟩ := List.mem_filterMap.mp hp
    obtain ⟨n, k, t, -, ht, hdirect, hd, htu⟩ := handed_after_shutdown around hafter hm hp
    rw [hleft n t ht hdirect (htu.trans (by simpa using hu))] at hd
    cases hd
  have hcloses : ∀ e ∈ Event.shutdown :: after, e.closes uri = false :=
    List.forall_mem_cons.mpr ⟨rfl, fun e he => Event.closes_of_not_asks (hafter e he) uri⟩
  refine ⟨hsilent, ?_⟩
  rw [published_run around s hcloses, hsilent]
  rfl

/-- A document of which no direct validation is left at a shutdown has none under way once the
scheduled ones are over. -/
theorem linting_after_shutdown (hafter : ∀ e ∈ after, e.asks = false) {uri : String}
    (hleft : ∀ n t, s.task? n = some t → t.isScheduled = false → t.document.uri = uri →
      t.isDone = true) {pass : Pass}
    (ht : (run around s (.shutdown :: after)).1.task? n = some t) (hu : t.document.uri = uri)
    (hs : t.stage = .linting pass) : t.isScheduled = true := by
  have hes : ∀ e ∈ Event.shutdown :: after, e.creates = false :=
    List.forall_mem_cons.mpr ⟨rfl, fun e he => Event.creates_of_not_asks (hafter e he)⟩
  obtain ⟨t₀, ht₀, hlater⟩ := run_task_of_creates_eq_false around hes ht
  cases hsch : t₀.isScheduled with
  | true => exact hlater.isScheduled.trans hsch
  | false =>
    have hover := hlater.done (hleft n t₀ ht₀ hsch (hlater.document ▸ hu))
    simp [Task.isDone, hs] at hover

end Shutdown

/-- **After a shutdown, nothing more comes of what was scheduled.** Whatever has happened to a
schedule until it is shut down, and however tasks are resumed and the linter answers from then on
while nothing is asked for any more,

* a set that is published is handed over by a validation that was asked for directly and was not
  over at the shutdown;
* a scheduled validation that was not over by then keeps its stage until it is cancelled, and it is
  cancelled with its next turn, whatever the linter has answered, and nothing is seen of that;
* of a document for which no validation that was asked for directly is left by then, nothing is
  published. The set that counts as published is what it was, and once the scheduled validations are
  over, none of the document is under way and it is idle. -/
theorem silent_after_shutdown (around : Surroundings) (settings : Settings)
    (workspace : Option Path) (before : List Event) {after : List Event}
    (hafter : ∀ e ∈ after, e.asks = false) {s s' : Schedule} {effects : List Effect}
    (hs : (run around { settings, workspace } before).1 = s)
    (hs' : run around s (.shutdown :: after) = (s', effects)) :
    (∀ m ∈ chronicle around s (.shutdown :: after), ∀ p, m.publication? = some p →
      ∃ n k t, m = .handed n k p ∧ s.task? n = some t ∧ t.isScheduled = false ∧
        t.isDone = false ∧ t.document.uri = p.uri) ∧
    (∀ n t, s.task? n = some t → t.isScheduled = true → t.isDone = false →
      ∃ t', s'.task? n = some t' ∧
        (t'.stage = .done .cancelled ∨
          t'.stage = t.stage ∧ ∀ answer,
            (step around s' (t'.turn n answer)).2 = [] ∧
              (step around s' (t'.turn n answer)).1.task? n =
                some { t' with stage := .done .cancelled })) ∧
    ∀ uri,
      (∀ n t, s.task? n = some t → t.isScheduled = false → t.document.uri = uri →
        t.isDone = true) →
      publicationsOf uri effects = [] ∧ s'.published uri = s.published uri ∧
        (s'.outstanding = [] →
          (∀ d, s'.tracked? uri = some d → d.inFlight = 0) ∧ s'.phase uri = .idle) := by
  obtain ⟨rfl, rfl⟩ : (run around s (.shutdown :: after)).1 = s' ∧
      (run around s (.shutdown :: after)).2 = effects :=
    ⟨congrArg Prod.fst hs', congrArg Prod.snd hs'⟩
  have hempty := consistent_empty settings workspace
  have hc : Consistent s := hs ▸ hempty.run around before
  have hcounted : Counted s :=
    hs ▸ (counted_empty settings workspace).run around hempty before
  refine ⟨fun m hm p hp => handed_after_shutdown around hafter hm hp,
    fun n t ht hsch hd => unwinds_after_shutdown around ht hsch hd, fun uri hleft => ?_⟩
  obtain ⟨hsilent, hpublished⟩ := published_after_shutdown around hafter hleft
  refine ⟨hsilent, hpublished, fun hquiet => ?_⟩
  have hfree : ∀ d, (run around s (.shutdown :: after)).1.tracked? uri = some d →
      d.inFlight = 0 := by
    intro d hd
    exact (hcounted.run around hc _).inFlight_eq_zero hquiet hd fun n t pass ht hu hlinting =>
      linting_after_shutdown around hafter hleft ht hu hlinting
  exact ⟨hfree, phase_eq_idle_of_inFlight (hc.run around _) hquiet hfree⟩

/-- Another document. -/
def neighbour : Document where
  uri := "file:///lib.py"

/-- What has been found of a document is published. Another validation of it waits for the linter,
one of another document sleeps, and one has not begun. -/
def assorted : List Event :=
  [.schedule (app 1) (some (.ofInt 0)), .resume 0, .complete 0 (.ok { exitCode := some 0 }),
    .schedule (app 2) (some (.ofInt 0)), .resume 1, .schedule neighbour none, .resume 2,
    .schedule (app 3) none]

/-- All that was left runs on. -/
def dispersing : List Event :=
  [.resume 3, .complete 1 (.ok remoteFinding), .resume 2]

/-- None of the three publishes anything, and nothing is left of them. -/
theorem silent_after_shutdown_assorted :
    (∀ e ∈ dispersing, e.asks = false) ∧
      (run .calm { settings := { projectMarkers := [] } } assorted).1.outstanding = [1, 2, 3] ∧
      publicationsOf "file:///app.py" (run .calm
          (run .calm { settings := { projectMarkers := [] } } assorted).1
          (.shutdown :: dispersing)).2 = [] ∧
      (run .calm (run .calm { settings := { projectMarkers := [] } } assorted).1
        (.shutdown :: dispersing)).1.published "file:///app.py" = some [] ∧
      (run .calm (run .calm { settings := { projectMarkers := [] } } assorted).1
        (.shutdown :: dispersing)).1.phase "file:///app.py" = .idle := by
  have hafter : ∀ e ∈ dispersing, e.asks = false := by decide
  have hall : (run .calm { settings := { projectMarkers := [] } } assorted).1.tasks.all
      Task.isScheduled = true := by decide +kernel
  obtain ⟨-, -, hdocument⟩ := silent_after_shutdown .calm { projectMarkers := [] } none assorted
    hafter rfl rfl
  obtain ⟨hsilent, hpublished, hidle⟩ := hdocument "file:///app.py" fun n t ht hdirect _ => by
    rw [List.all_eq_true.mp hall t (List.mem_of_getElem? ht)] at hdirect
    cases hdirect
  exact ⟨hafter, by decide +kernel, hsilent, hpublished.trans (by decide +kernel),
    (hidle (by decide +kernel)).2⟩

end Schedule

end LintBridge
