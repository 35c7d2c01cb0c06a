import LintBridge.Proofs.Schedule.Tracking

/-!
# Validations that are under way

A validation that has called the linter works with what it fixed then. Two things are to be known
of it while it waits for the answer:

* **where it comes from**: a task waits for the linter because it was resumed, and what it has fixed
  is what was in force at that moment (`LintBridge.Schedule.linting_step`);
* **what becomes of it**: once its life is over, or a later number has been issued in that life, it
  is outdated (`LintBridge.Schedule.Outdated`), and nothing that happens afterwards changes that
  (`LintBridge.Schedule.Outdated.run`). It publishes nothing then.

A request outdates all validations of its document that are under way
(`LintBridge.Schedule.Reached.outdated_schedule`), if the schedule has issued all numbers itself
(`LintBridge.Schedule.Reached`).
-/

namespace LintBridge

namespace Schedule

/-! ### What is outdated -/

/-- **A number of a life of a document is outdated**: the life is over, or a later number has been
issued in it. -/
def Outdated (s : Schedule) (uri : String) (life : Nat) (k : Int) : Prop :=
  life < s.nextLife ∧ ∀ d, s.tracked? uri = some d → d.life = life → k < d.sequence

section Outdated

variable {s s' : Schedule} {uri : String} {life : Nat} {k : Int}

/-- What is outdated is not current. -/
theorem Outdated.isCurrent_eq_false (h : s.Outdated uri life k) :
    s.isCurrent uri life k = false := by
  cases hcur : s.isCurrent uri life k with
  | false => rfl
  | true =>
    obtain ⟨d, hd, hl, hk⟩ := isCurrent_iff.mp hcur
    have hlt := h.2 d hd hl
    omega

theorem Outdated.of_focus (h : s.Outdated uri life k) {v : String} {n : Nat}
    (f : Focus s s' v n) : s'.Outdated uri life k := by
  refine ⟨Nat.lt_of_lt_of_le h.1 f.nextLife_le, fun d hd hl => ?_⟩
  by_cases hv : uri = v
  · subst hv
    rcases f.life d hd with ⟨d₀, hd₀, hl₀, hle⟩ | ⟨-, hl₀, -⟩
    · have hlt := h.2 d₀ hd₀ (hl₀.symm.trans hl)
      omega
    · -- A life that begins now is not the one that was there before.
      have hlt := h.1
      omega
  · rw [f.docs uri hv] at hd
    exact h.2 d hd hl

theorem Outdated.step (around : Surroundings) (h : s.Outdated uri life k) (e : Event) :
    (step around s e).1.Outdated uri life k :=
  h.of_focus (step_focus around s e "")

/-- **What is outdated stays outdated**, whatever happens. -/
theorem Outdated.run (around : Surroundings) (h : s.Outdated uri life k) (es : List Event) :
    (run around s es).1.Outdated uri life k := by
  induction es generalizing s with
  | nil => exact h
  | cons e rest ih => exact ih (h.step around e)

end Outdated

/-! ### Schedules that number validations themselves -/

/-- A schedule that has come about from an empty one without numbers from outside. -/
def Reached (around : Surroundings) (s : Schedule) : Prop :=
  ∃ settings workspace es, (∀ e ∈ es, e.isUnnumbered = true) ∧
    s = (run around { settings, workspace } es).1

section Reached

variable {around : Surroundings} {s : Schedule}

theorem Reached.empty (around : Surroundings) (settings : Settings) (workspace : Option Path) :
    Reached around { settings, workspace } :=
  ⟨settings, workspace, [], by simp, rfl⟩

theorem Reached.run (h : Reached around s) {es : List Event}
    (hes : ∀ e ∈ es, e.isUnnumbered = true) : Reached around (run around s es).1 := by
  obtain ⟨settings, workspace, before, hbefore, rfl⟩ := h
  refine ⟨settings, workspace, before ++ es, fun e he => ?_, by rw [run_append]⟩
  exact (List.mem_append.mp he).elim (hbefore e) (hes e)

theorem Reached.consistent (h : Reached around s) : Consistent s := by
  obtain ⟨settings, workspace, es, -, rfl⟩ := h
  exact (consistent_empty settings workspace).run around es

variable {n : Nat} {t : Task} {pass : Pass}

/-- A validation that is under way has no number that is yet to be issued in its life. -/
theorem Reached.sequence_le (h : Reached around s) (ht : s.task? n = some t)
    (hs : t.stage = .linting pass) {d : Tracked} (hd : s.tracked? t.document.uri = some d)
    (hl : d.life = pass.life) : pass.sequence ≤ d.sequence := by
  obtain ⟨settings, workspace, es, hes, rfl⟩ := h
  obtain ⟨-, hnum, -, -⟩ := run_inOrder around settings workspace hes
  exact (hnum.contends n t d pass.sequence ht hd (.inl ⟨pass, hs, hl.symm, rfl⟩)).1

/-- A validation of a document that is not followed any more is outdated. -/
theorem Reached.outdated_of_untracked (h : Reached around s) (ht : s.task? n = some t)
    (hs : t.stage = .linting pass) (hnone : s.tracked? t.document.uri = none) :
    s.Outdated t.document.uri pass.life pass.sequence := by
  refine ⟨(h.consistent.pass_life n t pass ht hs).1, fun d hd => ?_⟩
  rw [hnone] at hd
  cases hd

/-- **A request outdates the validations of its document that are under way.** -/
theorem Reached.outdated_schedule (h : Reached around s) (ht : s.task? n = some t)
    (hs : t.stage = .linting pass) {document : Document} (delay : Option Binary64)
    (hu : document.uri = t.document.uri) :
    (s.schedule document delay).1.Outdated t.document.uri pass.life pass.sequence := by
  cases hd : s.tracked? t.document.uri with
  | none =>
    exact (h.outdated_of_untracked ht hs hd).of_focus (focus_schedule s document delay)
  | some d =>
    have hlife := (h.consistent.pass_life n t pass ht hs).1
    refine ⟨Nat.lt_of_lt_of_le hlife (focus_schedule s document delay).nextLife_le, ?_⟩
    intro d' hd' hl'
    rw [tracked?_schedule, if_pos hu.symm] at hd'
    obtain rfl := Option.some.inj hd'
    rw [← hu] at hd
    have hl : d.life = pass.life := by simpa [scheduledEntry, entry_of_tracked hd] using hl'
    have hle := h.sequence_le ht hs (hu ▸ hd) hl
    simp only [scheduledEntry, entry_of_tracked hd]
    omega

end Reached

/-! ### Calls of the linter that are not answered yet -/

/-- Whether an event lets no task run. -/
def Event.isRequest : Event → Bool
  | .resume _ => false
  | .complete _ _ => false
  | _ => true

/-- Whether an event creates a task. -/
def Event.creates : Event → Bool
  | .schedule _ _ => true
  | .validate _ _ => true
  | _ => false

/-- A task that is there after an event that creates none was there before. -/
theorem step_task_of_creates_eq_false (around : Surroundings) {s : Schedule} {e : Event}
    (he : e.creates = false) {n : Nat} {t' : Task}
    (ht' : (step around s e).1.task? n = some t') :
    ∃ t, s.task? n = some t ∧ t.Progress t' := by
  rcases step_task_before around e ht' with hbefore | ⟨-, ⟨_, _, rfl, -⟩ | ⟨_, _, rfl, -⟩⟩
  · exact hbefore
  · cases he
  · cases he

theorem run_task_of_creates_eq_false (around : Surroundings) {s : Schedule} {es : List Event}
    (hes : ∀ e ∈ es, e.creates = false) {n : Nat} {t' : Task}
    (ht' : (run around s es).1.task? n = some t') :
    ∃ t, s.task? n = some t ∧ t.Progress t' := by
  induction es generalizing s with
  | nil => exact ⟨t', ht', (Task.Marked.rfl t').progress⟩
  | cons e rest ih =>
    obtain ⟨he, hrest⟩ := List.forall_mem_cons.mp hes
    obtain ⟨t₁, ht₁, hlater⟩ := ih hrest ht'
    obtain ⟨t, ht, hfirst⟩ := step_task_of_creates_eq_false around he ht₁
    exact ⟨t, ht, hfirst.trans hlater⟩

/-- Without events that create tasks there are none. -/
theorem task?_run_of_creates_eq_false (around : Surroundings) {s : Schedule}
    (h : ∀ n, s.task? n = none) {es : List Event} (hes : ∀ e ∈ es, e.creates = false) (n : Nat) :
    (run around s es).1.task? n = none := by
  by_contra hn
  obtain ⟨t', ht'⟩ := Option.ne_none_iff_exists'.mp hn
  obtain ⟨t, ht, -⟩ := run_task_of_creates_eq_false around hes ht'
  cases (h n).symm.trans ht

section Linting

variable (around : Surroundings) {s : Schedule} {n : Nat} {pass : Pass}

/-- A task that waits for the linter after it was resumed has waited for it before, or calls it
now. -/
theorem linting_resume {t t' : Task} (ht : s.task? n = some t)
    (ht' : (resume around s n).1.task? n = some t') (hs : t'.stage = .linting pass) :
    t.stage = .linting pass ∨
      ∃ file call, Uri.toPath? t.document.uri = .ok (some file) ∧
        Linter.callFor around.host s.settings s.workspace file = .ok call ∧
        pass = s.passOf t file call ∧ resume around s n =
          (((s.release n t.document.uri).enroll t).setStage n (.linting pass),
            [.called n call]) := by
  -- Whatever was done before, a task that was put somewhere waits for the linter only if it was put
  -- to wait for it.
  have hmoved : ∀ {s₁ : Schedule} {stage : Stage}, (∀ m, s₁.task? m = s.task? m) →
      (s₁.setStage n stage).task? n = some t' → stage = .linting pass := by
    intro s₁ stage htasks hmem
    obtain rfl : _ = t' := Option.some.inj ((task?_setStage_own ht htasks).symm.trans hmem)
    exact hs
  generalize hx : resume around s n = x at ht' ⊢
  have hcases := resume_cases around ht
  rw [hx] at hcases
  cases hcases with
  | idle =>
    obtain rfl : t = t' := Option.some.inj (ht.symm.trans ht')
    exact .inl hs
  | cancelled | slept | unreadable | skipped | stuck =>
    cases hmoved (fun m => by simp [release]) ht'
  | called file call _ _ named callFor =>
    cases hmoved (fun m => by simp [release]) ht'
    exact .inr ⟨file, call, named, callFor, rfl, rfl⟩

/-- **A task waits for the linter because it was resumed**, and has fixed what was in force then. -/
theorem linting_step (e : Event) {t' : Task} (ht' : (step around s e).1.task? n = some t')
    (hs : t'.stage = .linting pass) :
    (∃ t, s.task? n = some t ∧ t.document = t'.document ∧ t.stage = .linting pass) ∨
      ∃ t file call, e = .resume n ∧ s.task? n = some t ∧ t.document = t'.document ∧
        Uri.toPath? t.document.uri = .ok (some file) ∧
        Linter.callFor around.host s.settings s.workspace file = .ok call ∧
        pass = s.passOf t file call ∧ .called n call ∈ (step around s e).2 := by
  rcases step_task_before around e ht' with ⟨t, ht, hprogress⟩ | ⟨-, hnew⟩
  · by_cases hn : n = e.task s
    · -- The event is about the task itself, which an answer can only finish.
      cases e with
      | resume m =>
        obtain rfl : n = m := hn
        rcases linting_resume around ht ht' hs with hstage | ⟨file, call, hfile, hcall, hpass, heq⟩
        · exact .inl ⟨t, ht, hprogress.document.symm, hstage⟩
        · refine .inr ⟨t, file, call, rfl, ht, hprogress.document.symm, hfile, hcall, hpass, ?_⟩
          rw [step, heq]
          exact List.mem_singleton_self _
      | complete m answer =>
        obtain rfl : n = m := hn
        by_cases hlint : ∃ pass', t.stage = .linting pass'
        · obtain ⟨pass', hstage⟩ := hlint
          obtain ⟨outcome, hdone⟩ := done_complete around answer ht hstage
          obtain rfl : _ = t' := Option.some.inj (hdone.symm.trans ht')
          cases hs
        · rw [step, complete_of_not_linting around answer fun t₀ pass' ht₀ hs₀ => hlint
            ⟨pass', Option.some.inj (ht.symm.trans ht₀) ▸ hs₀⟩] at ht'
          exact .inl ⟨t', ht', rfl, hs⟩
      | _ => exact absurd hn (Nat.ne_of_lt (task?_lt ht))
    · obtain ⟨t₀, ht₀, hmark⟩ := (step_focus around s e "").task_before hn ht'
      exact .inl ⟨t₀, ht₀, hmark.document.symm, hmark.stage ▸ hs⟩
  · -- A task that has just been asked for has not run yet.
    rcases hnew with ⟨_, _, -, rfl⟩ | ⟨_, _, -, rfl⟩ <;> cases hs

/-- Requests leave the tasks that wait for the linter as they are. -/
theorem linting_run_of_isRequest {es : List Event} (hes : ∀ e ∈ es, e.isRequest = true) {t' : Task}
    (ht' : (run around s es).1.task? n = some t') (hs : t'.stage = .linting pass) :
    ∃ t, s.task? n = some t ∧ t.document = t'.document ∧ t.stage = .linting pass := by
  induction es using List.reverseRecOn generalizing t' with
  | nil => exact ⟨t', ht', rfl, hs⟩
  | append_singleton es e ih =>
    rw [run_snoc] at ht'
    rcases linting_step around e ht' hs with ⟨t, ht, hdoc, hstage⟩ | ⟨_, _, _, rfl, -⟩
    · obtain ⟨t₀, ht₀, hdoc₀, hstage₀⟩ :=
        ih (fun e' he' => hes e' (List.mem_append_left _ he')) ht hstage
      exact ⟨t₀, ht₀, hdoc₀.trans hdoc, hstage₀⟩
    · cases hes _ (List.mem_append_right _ List.mem_cons_self)

/-- What waits for the linter does so still after requests. -/
theorem linting_after_requests {es : List Event} (hes : ∀ e ∈ es, e.isRequest = true) {t : Task}
    (ht : s.task? n = some t) (hs : t.stage = .linting pass) :
    ∃ t', (run around s es).1.task? n = some t' ∧ t'.document = t.document ∧
      t'.stage = .linting pass := by
  induction es generalizing s t with
  | nil => exact ⟨t, ht, rfl, hs⟩
  | cons e rest ih =>
    have hn : n ≠ e.task s := by
      have hlt := task?_lt ht
      have he := hes e List.mem_cons_self
      cases e with
      | resume | complete => cases he
      | _ => exact Nat.ne_of_lt hlt
    obtain ⟨t', ht', hmark⟩ := (step_focus around s e "").task_after hn ht
    obtain ⟨t'', ht'', hdoc, hstage⟩ :=
      ih (fun e' he' => hes e' (List.mem_cons_of_mem _ he')) ht' (hmark.stage.trans hs)
    exact ⟨t'', ht'', hdoc.trans hmark.document, hstage⟩

/-- **Requests outdate the validations of each of their documents** that are under way. -/
theorem Reached.outdated_requests {around : Surroundings} (h : Reached around s) {t : Task}
    (ht : s.task? n = some t) (hs : t.stage = .linting pass) {es : List Event}
    (hes : ∀ e ∈ es, e.isRequest = true ∧ e.isUnnumbered = true) {document : Document}
    {delay : Option Binary64} (hmem : .schedule document delay ∈ es)
    (hu : document.uri = t.document.uri) :
    (Schedule.run around s es).1.Outdated t.document.uri pass.life pass.sequence := by
  -- The requests before the one for the document leave the task as it is, and those after it do not
  -- make it current again.
  obtain ⟨before, after, rfl⟩ := List.append_of_mem hmem
  have hbefore : ∀ e ∈ before, e.isRequest = true ∧ e.isUnnumbered = true :=
    fun e he => hes e (List.mem_append_left _ he)
  obtain ⟨t', ht', hdoc, hstage⟩ :=
    linting_after_requests around (fun e he => (hbefore e he).1) ht hs
  have hreached := h.run fun e he => (hbefore e he).2
  have hout := hreached.outdated_schedule ht' hstage delay (hdoc ▸ hu)
  rw [run_append]
  exact hdoc ▸ hout.run around after

end Linting

/-! ### The settings in force -/

/-- The settings that an event puts in force. -/
def Event.settings? : Event → Option Settings
  | .configure settings => some settings
  | _ => none

section Settings

variable (around : Surroundings) (s : Schedule)

@[simp] theorem settings_setStage (n : Nat) (stage : Stage) :
    (s.setStage n stage).settings = s.settings := rfl

@[simp] theorem settings_modify (uri : String) (f : Tracked → Tracked) :
    (s.modify uri f).settings = s.settings := rfl

@[simp] theorem settings_enroll (t : Task) : (s.enroll t).settings = s.settings := by
  simp [enroll]

theorem settings_schedule (document : Document) (delay : Option Binary64) :
    (s.schedule document delay).1.settings = s.settings := by
  simp only [schedule, create]
  cases (s.follow document.uri).2.pending with
  | none => simp
  | some n => simp

theorem settings_close (uri : String) : (close around s uri).1.settings = s.settings := by
  rw [close_fst]
  exact settings_cancelPending _ _

theorem settings_cancelAll (ns : List Nat) : (s.cancelAll ns).1.settings = s.settings := by
  induction ns generalizing s with
  | nil => rfl
  | cons n rest ih =>
    simp only [cancelAll]
    rw [ih, settings_cancel]

theorem settings_resume (n : Nat) : (resume around s n).1.settings = s.settings := by
  cases ht : s.task? n with
  | none => rw [resume_of_absent around ht]
  | some t =>
    generalize hx : resume around s n = x
    have hcases := resume_cases around ht
    rw [hx] at hcases
    cases hcases <;> simp [finish, release, leave]

theorem settings_complete (n : Nat) (answer : Except Mishap ToolOutput) :
    (complete around s n answer).1.settings = s.settings := by
  by_cases hlint : ∃ t pass, s.task? n = some t ∧ t.stage = .linting pass
  · obtain ⟨t, pass, ht, hs⟩ := hlint
    generalize hx : complete around s n answer = x
    have hcases := complete_cases around answer ht hs
    rw [hx] at hcases
    cases hcases <;> simp [finish, leave, record]
  · rw [complete_of_not_linting around answer fun t pass ht hs => hlint ⟨t, pass, ht, hs⟩]

/-- Settings are in force until others are put in force. -/
theorem settings_step (e : Event) :
    (step around s e).1.settings = e.settings?.getD s.settings := by
  cases e with
  | schedule document delay => exact settings_schedule s document delay
  | close uri => exact settings_close around s uri
  | shutdown => exact settings_cancelAll s _
  | resume n => exact settings_resume around s n
  | complete n answer => exact settings_complete around s n answer
  | validate | configure | moveTo => rfl

/-- **The settings in force are those put in force last.** -/
theorem settings_run (es : List Event) :
    (run around s es).1.settings = (es.filterMap Event.settings?).getLast?.getD s.settings := by
  induction es generalizing s with
  | nil => rfl
  | cons e rest ih =>
    have hstep := settings_step around s e
    refine (ih (step around s e).1).trans ?_
    cases he : e.settings? with
    | none =>
      rw [hstep, he, List.filterMap_cons_none he, Option.getD_none]
    | some settings =>
      rw [hstep, he, List.filterMap_cons_some he, List.getLast?_cons, Option.getD_some,
        Option.getD_some]

end Settings

/-! ### What is published -/

/-- A request publishes nothing, but that a document which is closed is cleared. -/
theorem of_mem_publications_request {around : Surroundings} {s : Schedule} {e : Event}
    (he : e.isRequest = true) {p : Publication} (hp : p ∈ publications (step around s e).2) :
    e = .close p.uri ∧ p = clearing p.uri := by
  cases e with
  | close uri =>
    rw [step, publications_close] at hp
    obtain rfl : p = clearing uri := List.mem_singleton.mp hp
    exact ⟨rfl, rfl⟩
  | schedule document delay =>
    rw [step, publications_schedule] at hp
    cases hp
  | shutdown =>
    rw [step, shutdown, publications_cancelAll] at hp
    cases hp
  | validate | configure | moveTo => cases hp
  | resume | complete => cases he

/-- **Requests publish nothing, but that documents which are closed are cleared.** -/
theorem of_mem_publications_requests {around : Surroundings} {s : Schedule} {es : List Event}
    (hes : ∀ e ∈ es, e.isRequest = true) {p : Publication}
    (hp : p ∈ publications (run around s es).2) : .close p.uri ∈ es ∧ p = clearing p.uri := by
  induction es generalizing s with
  | nil => cases hp
  | cons e rest ih =>
    simp only [run, publications_append] at hp
    rcases List.mem_append.mp hp with hp | hp
    · obtain ⟨rfl, hclear⟩ := of_mem_publications_request (hes e List.mem_cons_self) hp
      exact ⟨List.mem_cons_self, hclear⟩
    · obtain ⟨hmem, hclear⟩ := ih (fun e' he' => hes e' (List.mem_cons_of_mem _ he')) hp
      exact ⟨List.mem_cons_of_mem _ hmem, hclear⟩

/-- **What is published with an answer is what the linter has found**, under the settings that were
fixed when it was called, and it is published only as long as it is current. -/
theorem of_mem_publications_complete {around : Surroundings} {s : Schedule} {n : Nat}
    {answer : Except Mishap ToolOutput} {p : Publication}
    (hp : p ∈ publications (complete around s n answer).2) :
    ∃ t pass out, s.task? n = some t ∧ t.stage = .linting pass ∧ answer = .ok out ∧
      s.isCurrent t.document.uri pass.life pass.sequence = true ∧ p.uri = t.document.uri ∧
      p.version = t.document.version ∧
      (Linter.findings pass.settings p.uri pass.file out).result = .ok p.records := by
  by_cases hlint : ∃ t pass, s.task? n = some t ∧ t.stage = .linting pass
  · obtain ⟨t, pass, ht, hs⟩ := hlint
    generalize hx : complete around s n answer = x at hp
    have hcases := complete_cases around answer ht hs
    rw [hx] at hcases
    cases hcases with
    | cancelled => cases hp
    | failed =>
      rw [publications_append, publications_logged] at hp
      cases hp
    | outdated =>
      rw [publications_logged] at hp
      cases hp
    | published records _ read current | undelivered records _ _ read current =>
      -- What is published does not depend on whether it can be delivered.
      rw [publications_append, publications_logged] at hp
      obtain rfl : p = publicationOf t.document records := List.mem_singleton.mp hp
      cases answer with
      | error m => cases read
      | ok out => exact ⟨t, pass, out, ht, hs, rfl, current, rfl, rfl, read⟩
  · rw [complete_of_not_linting around answer fun t pass ht hs => hlint ⟨t, pass, ht, hs⟩] at hp
    cases hp

end Schedule

end LintBridge
