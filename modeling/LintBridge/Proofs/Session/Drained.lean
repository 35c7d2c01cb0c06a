import LintBridge.Proofs.Schedule.Phase
import LintBridge.Proofs.Session.Turns

/-!
# A loop that is drained

Draining a loop lets time pass until the scheduled validations are over. What happens meanwhile to
its schedule is a run of that schedule (`LintBridge.Loop.Follows.schedule`), so a loop that is
drained has waited until nothing was left to wait for (`LintBridge.Loop.drains_drain`), those
validations among it that were scheduled after the draining began.

With that the phase of a document is exact at all times (`LintBridge.Loop.phase_exact`): **it says
whether a validation of the document is under way or the last one still waits, and nothing is left
of it once the loop is drained.**
-/

namespace LintBridge

open Schedule (Surroundings Drains IsLatest app)

namespace Session

/-- **The schedule of a session runs** where the session does. -/
theorem exists_run_schedule (around : Surroundings) (s : Session) (es : List Event) :
    ∃ es', (run around s es).1.schedule = (Schedule.run around s.schedule es').1 := by
  induction es generalizing s with
  | nil => exact ⟨[], rfl⟩
  | cons e rest ih =>
    obtain ⟨es', hes'⟩ := ih (step around s e).1
    refine ⟨e.demands around s ++ es', ?_⟩
    rw [Schedule.run_append, ← (step_performs around s e).schedule]
    exact hes'

end Session

namespace Loop

/-- What happens to the schedule of a loop is a run of it. -/
theorem Follows.schedule {around : Surroundings} {l l' : Loop} (h : Follows around l l') :
    ∃ es, l'.session.schedule = (Schedule.run around l.session.schedule es).1 := by
  obtain ⟨es, hsession, -⟩ := h
  rw [hsession]
  exact Session.exists_run_schedule around l.session es

/-- **A loop that is drained has waited for its scheduled validations.** -/
theorem drains_drain (w : World) (l : Loop) (h : (l.drain w).isDrained = true) :
    Drains w.around l.session.schedule (l.drain w).session.schedule := by
  obtain ⟨es, hes⟩ := (follows_drain w l).schedule
  exact Schedule.drains_iff.mpr ⟨es, hes, List.isEmpty_iff.mp h⟩

/-- **The phase of a document is exact.** Whatever has happened to a schedule,

* the number of validations that is written down with a document is the number of those that have
  called the linter for it in its present life and wait for the answer, and the document is being
  validated exactly if there are any or the one that was scheduled last has not got past its delay,
  be its cancellation asked for or not;
* a validation that is answered is over and taken off that number, whatever the answer and whether
  it was cancelled or not, and one that runs on is put on exactly if it waits for the linter then;
* when all scheduled validations have been waited for, those that were scheduled in the meantime are
  over as well, and if no other is under way all documents are idle; and a loop that is drained has
  waited for them. -/
theorem phase_exact (around : Surroundings) (settings : Settings) (workspace : Option Path)
    (es : List Schedule.Event) {s : Schedule}
    (hrun : (Schedule.run around { settings, workspace } es).1 = s) :
    (∀ uri d, s.tracked? uri = some d →
      d.inFlight = s.underway uri d.life ∧
        (s.phase uri = .validating ↔
          0 < s.underway uri d.life ∨
            ∃ n t, IsLatest around { settings, workspace } es uri n ∧ s.task? n = some t ∧
              t.isWaiting = true)) ∧
    (∀ n t pass d answer, s.task? n = some t → t.stage = .linting pass →
      s.tracked? t.document.uri = some d → d.life = pass.life →
        ∃ outcome d',
          (s.complete around n answer).1.task? n = some { t with stage := .done outcome } ∧
          (s.complete around n answer).1.tracked? t.document.uri = some d' ∧
          d'.life = d.life ∧ d'.inFlight + 1 = d.inFlight) ∧
    (∀ n t d, s.task? n = some t → t.isWaiting = true → s.tracked? t.document.uri = some d →
      ∃ t' d', (s.resume around n).1.task? n = some t' ∧
        (s.resume around n).1.tracked? t.document.uri = some d' ∧ d'.life = d.life ∧
        d'.inFlight = d.inFlight + (t'.isUnderway t.document.uri d.life).toNat) ∧
    (∀ s', Drains around s s' →
      (∀ n t, s'.task? n = some t → t.isScheduled = true → t.isDone = true) ∧
        ((∀ n t pass, s'.task? n = some t → t.stage = .linting pass → t.isScheduled = true) →
          ∀ uri, s'.phase uri = .idle)) ∧
    ∀ (w : World) (l : Loop), w.around = around → l.session.schedule = s →
      (l.drain w).isDrained = true → Drains around s (l.drain w).session.schedule := by
  have hempty := Schedule.consistent_empty settings workspace
  have hc := hempty.run around es
  have hcounted := (Schedule.counted_empty settings workspace).run around hempty es
  rw [hrun] at hc hcounted
  refine ⟨fun uri d hd => ⟨hcounted uri d hd, ?_⟩, ?_, ?_, ?_, ?_⟩
  · subst hrun
    exact Schedule.phase_run_eq_validating_iff around settings workspace es hd
  · exact fun n t pass d answer ht hs hd hl => hcounted.complete_leaves around ht hs hd hl answer
  · exact fun n t d ht hw hd => hcounted.resume_enters around hc ht hw hd
  · intro s' hdrains
    obtain ⟨es', rfl, hquiet⟩ := Schedule.drains_iff.mp hdrains
    refine ⟨fun n t ht hs => Schedule.done_of_outstanding hquiet ht hs, fun hdirect => ?_⟩
    exact Schedule.phase_eq_idle (hc.run around es') (hcounted.run around hc es') hquiet hdirect
  · rintro w l rfl rfl hdrained
    exact drains_drain w l hdrained

/-! ### A document in its second life -/

/-- A document is closed while a validation of it is under way, and opened again. In its new life
another one is under way and a third one sleeps when everything is cancelled. -/
def revived : List Schedule.Event :=
  [.schedule (app 1) (some (.ofInt 0)), .resume 0, .close "file:///app.py",
    .schedule (app 2) (some (.ofInt 0)), .resume 1, .schedule (app 3) none, .resume 2,
    .shutdown]

/-- The linter answers the two calls, and the task that sleeps finds that it was cancelled. -/
def ending : List Schedule.Event :=
  [.complete 0 (.ok { exitCode := some 0 }), .complete 1 (.ok { exitCode := some 0 }), .resume 2]

/-- A loop in which a validation has been scheduled. -/
def busy : Loop :=
  act { session := .ofSettings { projectMarkers := [] } } fun s => s.schedule (app 1) none

/-- A world in which the linter finds nothing and takes no time. -/
def swift : World where
  around := .calm
  linter _ _ := { answer := .ok { exitCode := some 0 } }

/-- Only the validation of the second life counts, the task that sleeps still waits although it was
cancelled, and nothing is left of either in the end. Nor is anything left in a loop that was busy
and has been drained. -/
theorem phase_exact_revived :
    (Schedule.run .calm { settings := { projectMarkers := [] } } revived).1.tracked?
        "file:///app.py" = some { life := 1, sequence := 2, inFlight := 1, pending := some 2 } ∧
      (Schedule.run .calm { settings := { projectMarkers := [] } } revived).1.underway
        "file:///app.py" 1 = 1 ∧
      IsLatest .calm { settings := { projectMarkers := [] } } revived "file:///app.py" 2 ∧
      (Schedule.run .calm { settings := { projectMarkers := [] } } revived).1.phase
        "file:///app.py" = .validating ∧
      (Schedule.run .calm { settings := { projectMarkers := [] } } (revived ++ ending)).1.phase
        "file:///app.py" = .idle ∧
      busy.session.schedule.phase "file:///app.py" = .validating ∧
      (busy.drain swift).session.schedule.phase "file:///app.py" = .idle := by
  have hd : (Schedule.run .calm { settings := { projectMarkers := [] } } revived).1.tracked?
      "file:///app.py" = some { life := 1, sequence := 2, inFlight := 1, pending := some 2 } := by
    decide +kernel
  have ht : (Schedule.run .calm { settings := { projectMarkers := [] } } revived).1.task? 2 =
      some { document := app 3, origin := .scheduled 2, stage := .delayed,
             cancelRequested := true } := by
    decide +kernel
  have hlatest : IsLatest .calm { settings := { projectMarkers := [] } } revived
      "file:///app.py" 2 :=
    ⟨revived.take 5, .schedule (app 3) none, [.resume 2, .shutdown], rfl, by decide +kernel,
      by decide⟩
  -- In neither run is a validation asked for directly.
  have hdirect : ∀ s : Schedule, s.tasks.all Schedule.Task.isScheduled = true →
      ∀ n t pass, s.task? n = some t → t.stage = .linting pass → t.isScheduled = true :=
    fun s hs n t _ ht _ => List.all_eq_true.mp hs t (List.mem_of_getElem? ht)
  obtain ⟨hphase, -, -, hdrained, -⟩ := phase_exact .calm { projectMarkers := [] } none revived rfl
  obtain ⟨-, -, -, hover, hloop⟩ :=
    phase_exact .calm { projectMarkers := [] } none [.schedule (app 1) none] rfl
  obtain ⟨hcount, hvalidating⟩ := hphase "file:///app.py" _ hd
  refine ⟨hd, hcount.symm, hlatest, hvalidating.mpr (.inr ⟨2, _, hlatest, ht, rfl⟩), ?_,
    by decide +kernel, ?_⟩
  · have hends : Drains .calm
        (Schedule.run .calm { settings := { projectMarkers := [] } } revived).1
        (Schedule.run .calm { settings := { projectMarkers := [] } } (revived ++ ending)).1 :=
      Schedule.drains_iff.mpr
        ⟨ending, by rw [Schedule.run_append], by decide +kernel⟩
    exact (hdrained _ hends).2 (hdirect _ (by decide +kernel)) "file:///app.py"
  · have hends := hloop swift busy rfl rfl (by decide +kernel)
    exact (hover _ hends).2 (hdirect _ (by decide +kernel)) "file:///app.py"

end Loop

end LintBridge
