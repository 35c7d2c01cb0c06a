import LintBridge.Proofs.Schedule.Order

/-!
# The latest validation prevails

That outdated validations publish nothing would hold as well if nothing were ever published. The
other half is that the validation of a document that was scheduled last is neither cancelled nor
dropped, whatever happens to other validations of it and to other documents: it takes its course
(`LintBridge.Schedule.Course`) from waiting over the call of the linter to its end, and once nothing
is outstanding it has reached the end.

What a validation comes to is its verdict (`LintBridge.Schedule.verdict`): the records that were
found, or the failure of whatever it did to find them. `LintBridge.Schedule.latest_prevails` says
that there is exactly one, and what becomes of it: records are published and nothing after them,
while a failure leaves what was published before.

Two kinds of events have no place here (`LintBridge.Schedule.Event.isRoutine`): a shutdown cancels
the latest validation too, and a validation that is asked for directly is numbered but not
scheduled.
-/

namespace LintBridge

namespace Schedule

/-! ### Routine -/

/-- Whether an event is neither a shutdown nor a direct request for a validation. -/
def Event.isRoutine : Event → Bool
  | .validate _ _ => false
  | .shutdown => false
  | _ => true

/-- Whether with an event a document is scheduled anew or closed. -/
def Event.renews (uri : String) : Event → Bool
  | .schedule document _ => document.uri == uri
  | .close u => u == uri
  | _ => false

/-- All tasks were scheduled. -/
def AllScheduled (s : Schedule) : Prop :=
  ∀ n t, s.task? n = some t → t.isScheduled = true

section Routine

variable (around : Surroundings) {s : Schedule} {H : List Mark} {uri : String}

theorem AllScheduled.step (h : AllScheduled s) {e : Event} (he : e.isRoutine = true) :
    AllScheduled (Schedule.step around s e).1 := by
  intro n t' ht'
  rcases step_task_before around e ht' with
    ⟨t, ht, hp⟩ | ⟨-, ⟨document, delay, rfl, rfl⟩ | ⟨document, sequence, rfl, -⟩⟩
  · exact hp.isScheduled.trans (h n t ht)
  · rfl
  · cases he

theorem Event.isUnnumbered_of_isRoutine {e : Event} (he : e.isRoutine = true) :
    e.isUnnumbered = true := by
  cases e with
  | validate document sequence => cases he
  | _ => rfl

/-- Where all tasks were scheduled, none is issued a number when it runs. -/
theorem keeps_resume (hc : Consistent s) (hall : AllScheduled s) (n : Nat) :
    Keeps s (resume around s n).1 := by
  cases ht : s.task? n with
  | none =>
    rw [resume_of_absent around ht]
    exact .of_eq fun _ => rfl
  | some t =>
    have hsch := hall n t ht
    rcases resume_numbers around hc ht (by simp [hsch]) with ⟨hkeeps, -⟩ | ⟨hnot, -⟩
    · exact hkeeps
    · rw [hsch] at hnot
      cases hnot

/-- Only what renews a document changes its standing number. -/
theorem standing_step (hc : Consistent s) (hall : AllScheduled s) {e : Event}
    (he : e.isRoutine = true) (hrenews : e.renews uri = false) :
    standing uri (H ++ marks around s e) = standing uri H := by
  refine standing_append_of_not_renumbers fun m hm => ?_
  cases e with
  | schedule document delay =>
    rw [marks_schedule] at hm
    rcases List.mem_pair.mp hm with rfl | rfl
    · rfl
    · exact hrenews
  | validate document sequence => cases he
  | close u =>
    rw [marks_close] at hm
    rw [List.mem_singleton.mp hm]
    exact hrenews
  | shutdown => cases he
  | configure settings => simp [marks_configure] at hm
  | moveTo workspace => simp [marks_moveTo] at hm
  | resume n =>
    cases ht : s.task? n with
    | none => simp [marks_resume_of_absent around s ht] at hm
    | some t =>
      rw [marks_resume around ht, issues_of_keeps (keeps_resume around hc hall n)] at hm
      cases hm
  | complete n answer =>
    rcases marks_complete_cases around s n answer with hnil | ⟨_, _, _, -, -, -, hmarks⟩
    · rw [hnil] at hm
      cases hm
    · rw [hmarks] at hm
      rw [List.mem_singleton.mp hm]
      rfl

/-- Only scheduling begins to follow a document. -/
theorem tracked?_of_step (hc : Consistent s) (hall : AllScheduled s) {e : Event}
    (he : e.isRoutine = true) (hrenews : e.renews uri = false) {d' : Tracked}
    (hd' : (step around s e).1.tracked? uri = some d') : ∃ d, s.tracked? uri = some d := by
  have hkeeps : Keeps s (step around s e).1 → ∃ d, s.tracked? uri = some d := by
    intro hkeeps
    obtain ⟨d, hd, -⟩ := hkeeps uri d' hd'
    exact ⟨d, hd⟩
  cases e with
  | schedule document delay =>
    have hv : document.uri ≠ uri := by simpa [Event.renews] using hrenews
    rw [step, tracked?_schedule, if_neg (Ne.symm hv)] at hd'
    exact ⟨d', hd'⟩
  | validate document sequence => cases he
  | close u => exact hkeeps (keeps_close s around u)
  | shutdown => cases he
  | configure | moveTo => exact ⟨d', hd'⟩
  | resume n => exact hkeeps (keeps_resume around hc hall n)
  | complete n answer => exact hkeeps (keeps_complete s around n answer)

end Routine

/-! ### What does not concern a document -/

section Elsewhere

variable (around : Surroundings) {s : Schedule} {uri : String} {e : Event}

theorem tracked?_step_of_ne (he : e.uri s ≠ some uri) :
    (step around s e).1.tracked? uri = s.tracked? uri := by
  cases hu : e.uri s with
  | some v =>
    have f := step_focus around s e ""
    rw [hu, Option.getD_some] at f
    exact f.docs uri fun heq => he (heq ▸ hu)
  | none =>
    cases e with
    | shutdown => exact tracked?_shutdown s uri
    | configure | moveTo => rfl
    | schedule | validate | close => cases hu
    | resume n => rw [step, resume_of_absent around (Option.map_eq_none_iff.mp hu)]
    | complete n answer =>
      have hn : s.task? n = none := Option.map_eq_none_iff.mp hu
      rw [step, complete_of_not_linting around answer (by simp [hn])]

/-- Without a shutdown, tasks of other documents are not even marked. -/
theorem task?_step_of_ne (hc : Consistent s) (hrout : e.isRoutine = true) {n : Nat} {t : Task}
    (ht : s.task? n = some t) (he : e.uri s ≠ some t.document.uri) :
    (step around s e).1.task? n = some t := by
  -- A task that is marked is waited for by the document that the event concerns.
  have hpending : ∀ v d, s.tracked? v = some d → d.pending = some n → v = t.document.uri := by
    intro v d hd hp
    obtain ⟨t', k, ht', hu, -⟩ := hc.pending_waits v d n hd hp
    obtain rfl : t = t' := Option.some.inj (ht.symm.trans ht')
    exact hu.symm
  have hlt := task?_lt ht
  cases e with
  | schedule document delay =>
    have hne : (s.entry document.uri).pending ≠ some n := by
      intro hp
      cases hd : s.tracked? document.uri with
      | none =>
        rw [entry_of_untracked hd] at hp
        cases hp
      | some d =>
        rw [entry_of_tracked hd] at hp
        exact he (congrArg some (hpending _ d hd hp))
    rw [step, task?_schedule, if_neg (Nat.ne_of_lt hlt), if_neg hne]
    exact ht
  | validate => cases hrout
  | close u =>
    have hne : s.pendingOf u ≠ some n := by
      intro hp
      obtain ⟨d, hd, hp⟩ := pendingOf_eq_some.mp hp
      exact he (congrArg some (hpending _ d hd hp))
    rw [step, task?_close, if_neg hne]
    exact ht
  | shutdown => cases hrout
  | configure | moveTo => exact ht
  | resume m =>
    have hm : n ≠ m := by
      rintro rfl
      exact he (by rw [Event.uri, ht, Option.map_some])
    exact (task?_resume_of_ne around hm).trans ht
  | complete m answer =>
    have hm : n ≠ m := by
      rintro rfl
      exact he (by rw [Event.uri, ht, Option.map_some])
    exact (task?_complete_of_ne around answer hm).trans ht

/-- What is published with an event is published of the document that it concerns. -/
theorem uri_of_mem_publications {p : Publication} (hp : p ∈ publications (step around s e).2) :
    e.uri s = some p.uri := by
  cases e with
  | schedule document delay => simp [step] at hp
  | validate document sequence => cases hp
  | close u =>
    rw [step, publications_close] at hp
    rw [List.mem_singleton.mp hp]
    rfl
  | shutdown => simp [step, shutdown] at hp
  | configure settings => cases hp
  | moveTo workspace => cases hp
  | resume n => simp [step] at hp
  | complete n answer =>
    rw [publications_eq_marks] at hp
    rcases marks_complete_cases around s n answer with
      hnil | ⟨t, pass, records, ht, -, -, hmarks⟩
    · rw [hnil] at hp
      cases hp
    · rw [hmarks] at hp
      have hp : p ∈ [publicationOf t.document records] := hp
      rw [List.mem_singleton.mp hp, Event.uri, ht, Option.map_some]
      rfl

end Elsewhere

/-! ### Verdicts -/

/-- **What the validation of a task comes to** with an event, if it comes to anything: the records
that it finds, or the failure that keeps it from finding any. A task may fail before it has called
the linter or once it has been answered. -/
def verdict (around : Surroundings) (s : Schedule) (n : Nat) (e : Event) :
    Option (Except Failure (List Record)) :=
  match s.task? n with
  | none => none
  | some t =>
    match e with
    | .resume m =>
      if m = n ∧ t.isDue = true ∧ t.cancelRequested = false then
        match Uri.toPath? t.document.uri with
        | .ok (some file) =>
          match Linter.callFor around.host s.settings s.workspace file with
          | .error e => some (.error (.mishap (.system e)))
          | .ok _ => none
        | _ => none
      else none
    | .complete m answer =>
      match t.stage with
      | .linting pass =>
        if m = n ∧ t.cancelRequested = false then some (pass.read t.document.uri answer).result
        else none
      | _ => none
    | _ => none

/-- The verdicts on a task in the course of a run. -/
def verdicts (around : Surroundings) (n : Nat) (s : Schedule) :
    List Event → List (Except Failure (List Record))
  | [] => []
  | e :: rest => (verdict around s n e).toList ++ verdicts around n (step around s e).1 rest

section Verdicts

variable (around : Surroundings) {s : Schedule} {n : Nat} {t : Task}

theorem verdict_of_task_ne {e : Event} (h : e.task s ≠ n) : verdict around s n e = none := by
  unfold verdict
  cases ht : s.task? n with
  | none => rfl
  | some t =>
    cases e with
    | resume m =>
      have hm : m ≠ n := h
      simp only [hm, false_and, if_false]
    | complete m answer =>
      have hm : m ≠ n := h
      simp only [hm, false_and, if_false]
      cases t.stage <;> rfl
    | _ => rfl

/-- Scheduling comes to no verdict. -/
theorem verdict_schedule (document : Document) (delay : Option Binary64) :
    verdict around s n (.schedule document delay) = none := by
  unfold verdict
  cases s.task? n <;> rfl

theorem verdict_resume_of_not_due (ht : s.task? n = some t) (hd : t.isDue = false) :
    verdict around s n (.resume n) = none := by
  simp [verdict, ht, hd]

theorem verdict_resume (ht : s.task? n = some t) (due : t.isDue = true)
    (kept : t.cancelRequested = false) {file : Path}
    (hfile : Uri.toPath? t.document.uri = .ok (some file)) :
    verdict around s n (.resume n) =
      match Linter.callFor around.host s.settings s.workspace file with
      | .error e => some (.error (.mishap (.system e)))
      | .ok _ => none := by
  simp only [verdict, ht, hfile, due, kept, and_self, if_true]

theorem verdict_complete (answer : Except Mishap ToolOutput) (ht : s.task? n = some t)
    {pass : Pass} (hs : t.stage = .linting pass) (kept : t.cancelRequested = false) :
    verdict around s n (.complete n answer) = some (pass.read t.document.uri answer).result := by
  simp only [verdict, ht, hs, kept, and_self, if_true]

theorem verdict_complete_of_not_linting (answer : Except Mishap ToolOutput)
    (ht : s.task? n = some t) (hs : ∀ pass, t.stage ≠ .linting pass) :
    verdict around s n (.complete n answer) = none := by
  cases hstage : t.stage with
  | linting pass => exact absurd hstage (hs pass)
  | _ => simp only [verdict, ht, hstage]

end Verdicts

/-! ### The course of a validation -/

/-- **The course of a validation** that runs under the standing number of its document: what has
become of it, of its verdict and of what was published of the document in the meantime. -/
inductive Course (d : Tracked) (n : Nat) (t : Task) (k : Int) (old : Option (List Record)) :
    List (Except Failure (List Record)) → List Publication → Prop where
  /-- It waits. -/
  | waiting (expected : t.isExpected = true) (number : t.sequence? = some k)
      (pending : d.pending = some n) (published : d.published = old) : Course d n t k old [] []
  /-- It has called the linter. -/
  | linting (pass : Pass) (stage : t.stage = .linting pass) (kept : t.cancelRequested = false)
      (life : pass.life = d.life) (number : pass.sequence = k) (pending : d.pending = none)
      (published : d.published = old) : Course d n t k old [] []
  /-- It has failed, and nothing has been published. -/
  | failed (e : Failure) (stage : t.stage = .done (.finished false)) (pending : d.pending = none)
      (published : d.published = old) : Course d n t k old [.error e] []
  /-- It has published what it has found. -/
  | published (records : List Record) (stage : t.stage = .done (.finished true))
      (pending : d.pending = none) (published : d.published = some records) :
      Course d n t k old [.ok records] [publicationOf t.document records]

/-- **A validation that is pursued**: it has the standing number of its document, and takes its
course. -/
structure Pursued (s : Schedule) (H : List Mark) (n : Nat) (document : Document) (k : Int)
    (old : Option (List Record)) (vs : List (Except Failure (List Record)))
    (ps : List Publication) : Prop where
  /-- The schedule is consistent. -/
  consistent : Consistent s
  /-- The numbers are right. -/
  numbered : Numbered s H
  /-- All tasks were scheduled. -/
  scheduled : AllScheduled s
  /-- The number is the standing one. -/
  standing : Schedule.standing document.uri H = some (n, k)
  /-- The validation takes its course. -/
  course : ∃ d t, s.tracked? document.uri = some d ∧ s.task? n = some t ∧ t.document = document ∧
    Course d n t k old vs ps

/-- The publications of a document. -/
def publicationsOf (uri : String) (effects : List Effect) : List Publication :=
  (publications effects).filter (·.uri == uri)

@[simp] theorem publicationsOf_append (uri : String) (effects effects' : List Effect) :
    publicationsOf uri (effects ++ effects') =
      publicationsOf uri effects ++ publicationsOf uri effects' := by
  simp [publicationsOf]

section Course

variable (around : Surroundings) {s : Schedule} {H : List Mark} {n : Nat} {document : Document}
  {k : Int} {old : Option (List Record)} {vs : List (Except Failure (List Record))}
  {ps : List Publication} {d : Tracked} {t : Task}

/-- What else is known of the document does not matter. -/
theorem Course.of_kept (h : Course d n t k old vs ps) {d' : Tracked} (hl : d'.life = d.life)
    (hpending : d'.pending = d.pending) (hpublished : d'.published = d.published) :
    Course d' n t k old vs ps := by
  cases h with
  | waiting expected number pending published =>
    exact .waiting expected number (hpending.trans pending) (hpublished.trans published)
  | linting pass stage kept life number pending published =>
    exact .linting pass stage kept (life.trans hl.symm) number (hpending.trans pending)
      (hpublished.trans published)
  | failed e stage pending published =>
    exact .failed e stage (hpending.trans pending) (hpublished.trans published)
  | published records stage pending published =>
    exact .published records stage (hpending.trans pending) (hpublished.trans published)

/-- No other task of the document is to go on to its validation. -/
theorem Course.pending (h : Course d n t k old vs ps) {m : Nat} (hm : d.pending = some m) :
    m = n := by
  cases h with
  | waiting _ _ pending => exact Option.some.inj (hm.symm.trans pending)
  | linting _ _ _ _ _ pending | failed _ _ pending | published _ _ pending =>
    rw [pending] at hm
    cases hm

/-- The validation is resumed. -/
theorem Course.resume (h : Course d n t k old vs ps) (hd : s.tracked? t.document.uri = some d)
    (ht : s.task? n = some t) {file : Path}
    (hfile : Uri.toPath? t.document.uri = .ok (some file)) :
    ∃ d' t', (Schedule.resume around s n).1.tracked? t.document.uri = some d' ∧
      (Schedule.resume around s n).1.task? n = some t' ∧ t'.document = t.document ∧
      Course d' n t' k old (vs ++ (verdict around s n (.resume n)).toList) ps := by
  by_cases hw : t.isWaiting = true
  · cases h with
    | linting pass stage => simp [Task.isWaiting, stage] at hw
    | failed e stage => simp [Task.isWaiting, stage] at hw
    | published records stage => simp [Task.isWaiting, stage] at hw
    | waiting expected number pending published =>
      have hkept := (Task.isExpected_iff.mp expected).2.2
      have hreleased : (d.release n).pending = none := by
        rw [Tracked.release, if_pos pending]
      have henroll : ((s.release n t.document.uri).enroll t).tracked? t.document.uri =
          some ((s.release n t.document.uri).enrolled t) :=
        (tracked?_enroll _ t _).trans (if_pos rfl)
      have hpending : ((s.release n t.document.uri).enrolled t).pending = none := by
        simp only [enrolled, entry_release, entry_of_tracked hd, hreleased]
      have hpublished : ((s.release n t.document.uri).enrolled t).published = old := by
        simp only [enrolled, entry_release, entry_of_tracked hd, Tracked.release_published,
          published]
      generalize hx : Schedule.resume around s n = x
      have hcases := resume_cases around ht
      rw [hx] at hcases
      cases hcases with
      | idle notWaiting =>
        rw [hw] at notWaiting
        cases notWaiting
      | cancelled _ cancelled =>
        rw [hkept] at cancelled
        cases cancelled
      | unreadable _ _ _ file' | skipped _ _ file' =>
        rw [hfile] at file'
        cases file'
      | slept delay stage kept positive =>
        have hdue : t.isDue = false := by simp [Task.isDue, stage, positive]
        rw [verdict_resume_of_not_due around ht hdue]
        refine ⟨d, _, hd, task?_setStage_own ht fun _ => rfl, rfl,
          .waiting ?_ number pending published⟩
        exact Task.isExpected_iff.mpr ⟨(Task.isExpected_iff.mp expected).1, rfl, hkept⟩
      | stuck file' e due kept named call =>
        obtain rfl : file = file' := by simpa [hfile] using named
        rw [verdict_resume around ht due kept hfile]
        simp only [call]
        have hleave : (((s.release n t.document.uri).enroll t).leave t.document.uri
            (s.entry t.document.uri).life).tracked? t.document.uri =
              some (((s.release n t.document.uri).enrolled t).leave
                (s.entry t.document.uri).life) := by
          rw [tracked?_leave, if_pos rfl, henroll, Option.map_some]
        refine ⟨_, _, hleave, task?_setStage_own ht fun m => by simp [release], rfl,
          .failed _ rfl ?_ ?_⟩
        · rw [Tracked.leave_pending, hpending]
        · rw [Tracked.leave_published, hpublished]
      | called file' call due kept named callFor =>
        obtain rfl : file = file' := by simpa [hfile] using named
        rw [verdict_resume around ht due kept hfile]
        simp only [callFor]
        refine ⟨_, _, henroll, task?_setStage_own ht fun m => by simp [release], rfl,
          .linting _ rfl hkept ?_ ?_ hpending hpublished⟩
        · exact (enrolled_release_life s n t).symm
        · simp only [passOf, numberOf, number, Option.getD_some]
  · have hw : t.isWaiting = false := by simpa using hw
    have hdue : t.isDue = false := by
      by_contra hdue
      rw [Task.isWaiting_of_isDue (by simpa using hdue)] at hw
      cases hw
    rw [resume_of_not_waiting around ht hw, verdict_resume_of_not_due around ht hdue]
    exact ⟨d, t, hd, ht, rfl, by simpa using h⟩

/-- The linter answers the validation. -/
theorem Course.complete (h : Course d n t k old vs ps)
    (hdeliver : ∀ p, around.deliver p = .ok ())
    (hd : s.tracked? t.document.uri = some d) (ht : s.task? n = some t) (hk : k = d.sequence)
    (answer : Except Mishap ToolOutput) :
    ∃ d' t', (Schedule.complete around s n answer).1.tracked? t.document.uri = some d' ∧
      (Schedule.complete around s n answer).1.task? n = some t' ∧ t'.document = t.document ∧
      Course d' n t' k old (vs ++ (verdict around s n (.complete n answer)).toList)
        (ps ++ publicationsOf t.document.uri (Schedule.complete around s n answer).2) := by
  have hidle : (∀ pass, t.stage ≠ .linting pass) →
      ∃ d' t', (Schedule.complete around s n answer).1.tracked? t.document.uri = some d' ∧
        (Schedule.complete around s n answer).1.task? n = some t' ∧ t'.document = t.document ∧
        Course d' n t' k old (vs ++ (verdict around s n (.complete n answer)).toList)
          (ps ++ publicationsOf t.document.uri (Schedule.complete around s n answer).2) := by
    intro hs
    have hnot : ∀ t' pass, s.task? n = some t' → t'.stage ≠ .linting pass := by
      intro t' pass ht'
      obtain rfl : t = t' := Option.some.inj (ht.symm.trans ht')
      exact hs pass
    rw [complete_of_not_linting around answer hnot,
      verdict_complete_of_not_linting around answer ht hs]
    exact ⟨d, t, hd, ht, rfl, by simpa [publicationsOf, publications] using h⟩
  cases h with
  | waiting expected =>
    refine hidle fun pass hs => ?_
    have hw := (Task.isExpected_iff.mp expected).2.1
    simp [Task.isWaiting, hs] at hw
  | failed e stage => exact hidle fun pass hs => by simp [stage] at hs
  | published records stage => exact hidle fun pass hs => by simp [stage] at hs
  | linting pass stage kept life number pending published =>
    rw [verdict_complete around answer ht stage kept]
    have hleave : (s.leave t.document.uri pass.life).tracked? t.document.uri =
        some (d.leave pass.life) := by
      rw [tracked?_leave, if_pos rfl, hd, Option.map_some]
    have hcurrent : s.isCurrent t.document.uri pass.life pass.sequence = true :=
      isCurrent_iff.mpr ⟨d, hd, life.symm, number.trans hk⟩
    generalize hx : Schedule.complete around s n answer = x
    have hcases := complete_cases around answer ht stage
    rw [hx] at hcases
    cases hcases with
    | cancelled cancelled =>
      rw [kept] at cancelled
      cases cancelled
    | outdated _ _ _ stale =>
      rw [hcurrent] at stale
      cases stale
    | undelivered _ m _ _ _ refused =>
      rw [hdeliver] at refused
      cases refused
    | failed e _ read =>
      rw [read]
      have hnone : publicationsOf t.document.uri
          ((pass.read t.document.uri answer).log.map Effect.logged ++
            [.logged (failureEntry t.document.uri e)]) = [] := by
        simp [publicationsOf, publications, Effect.publication?]
      rw [hnone]
      exact ⟨_, _, hleave, task?_setStage_own ht fun _ => rfl, rfl, .failed e rfl
        ((d.leave_pending _).trans pending) ((d.leave_published _).trans published)⟩
    | published records _ read =>
      rw [read]
      have hrecord : ((s.leave t.document.uri pass.life).record t.document.uri
          records).tracked? t.document.uri =
            some { d.leave pass.life with published := some records } := by
        rw [tracked?_record, if_pos rfl, hleave, Option.map_some]
      have hone : publicationsOf t.document.uri
          ((pass.read t.document.uri answer).log.map Effect.logged ++
            [.published (publicationOf t.document records)]) =
              [publicationOf t.document records] := by
        simp [publicationsOf, publications, Effect.publication?, publicationOf]
      rw [hone]
      exact ⟨_, _, hrecord, task?_setStage_own ht fun _ => rfl, rfl, .published records rfl
        ((d.leave_pending _).trans pending) rfl⟩

/-- Another task of the document is resumed, and at most finds that it was cancelled. -/
theorem tracked?_resume_of_unexpected (hall : AllScheduled s) {m : Nat} {t : Task}
    (ht : s.task? m = some t) (hne : t.isExpected = false) (uri : String) :
    (Schedule.resume around s m).1.tracked? uri = s.tracked? uri := by
  have hnot : t.isDue = true → t.cancelRequested = false → False := by
    intro due kept
    rw [Task.isExpected_iff.mpr ⟨hall m t ht, Task.isWaiting_of_isDue due, kept⟩] at hne
    cases hne
  generalize hx : Schedule.resume around s m = x
  have hcases := resume_cases around ht
  rw [hx] at hcases
  cases hcases with
  | idle | cancelled | slept => rfl
  | unreadable _ due kept | skipped due kept | stuck _ _ due kept | called _ _ due kept =>
    exact (hnot due kept).elim

/-- Another task of the document is answered, and publishes nothing. -/
theorem Numbered.complete_other (h : Numbered s H) {m : Nat} {t : Task}
    (ht : s.task? m = some t) (hstanding : Schedule.standing t.document.uri H = some (n, k))
    (hm : m ≠ n) (hd : s.tracked? t.document.uri = some d) (answer : Except Mishap ToolOutput) :
    publications (Schedule.complete around s m answer).2 = [] ∧
      ∃ d', (Schedule.complete around s m answer).1.tracked? t.document.uri = some d' ∧
        d'.life = d.life ∧ d'.pending = d.pending ∧ d'.published = d.published := by
  by_cases hlint : ∃ pass, t.stage = .linting pass
  · obtain ⟨pass, hs⟩ := hlint
    have hstale : s.isCurrent t.document.uri pass.life pass.sequence = true → False := by
      intro hcur
      obtain ⟨d', hd', hl, hq⟩ := isCurrent_iff.mp hcur
      have hcont : t.Contends d'.life pass.sequence := .inl ⟨pass, hs, hl.symm, rfl⟩
      have hown := (h.contends m t d' pass.sequence ht hd' hcont).2 hq
      rw [hstanding] at hown
      cases hown
      exact hm rfl
    have hleave : (s.leave t.document.uri pass.life).tracked? t.document.uri =
        some (d.leave pass.life) := by
      rw [tracked?_leave, if_pos rfl, hd, Option.map_some]
    generalize hx : Schedule.complete around s m answer = x
    have hcases := complete_cases around answer ht hs
    rw [hx] at hcases
    cases hcases with
    | cancelled | failed | outdated =>
      refine ⟨?_, _, hleave, d.leave_life _, d.leave_pending _, d.leave_published _⟩
      simp [publications, Effect.publication?]
    | published _ _ _ current | undelivered _ _ _ _ current => exact (hstale current).elim
  · have hnot : ∀ t' pass, s.task? m = some t' → t'.stage ≠ .linting pass := by
      intro t' pass ht' hs
      obtain rfl : t = t' := Option.some.inj (ht.symm.trans ht')
      exact hlint ⟨pass, hs⟩
    rw [complete_of_not_linting around answer hnot]
    exact ⟨rfl, d, hd, rfl, rfl, rfl⟩

/-- **Whatever happens, a validation that is pursued takes its course.** -/
theorem Pursued.step (h : Pursued s H n document k old vs ps)
    (hdeliver : ∀ p, around.deliver p = .ok ()) {file : Path}
    (hfile : Uri.toPath? document.uri = .ok (some file)) {e : Event}
    (he : e.isRoutine = true) (hrenews : e.renews document.uri = false) :
    Pursued (Schedule.step around s e).1 (H ++ marks around s e) n document k old
      (vs ++ (verdict around s n e).toList)
      (ps ++ publicationsOf document.uri (Schedule.step around s e).2) := by
  have hc := h.consistent
  have hun : ∀ m t, s.task? m = some t → t.isScheduled = false → t.sequence? = none := by
    intro m t ht hsch
    rw [h.scheduled m t ht] at hsch
    cases hsch
  refine ⟨hc.step around e, h.numbered.step around hc hun e, h.scheduled.step around he,
    (standing_step around hc h.scheduled he hrenews).trans h.standing, ?_⟩
  obtain ⟨d, t, hd, ht, rfl, hcourse⟩ := h.course
  by_cases hu : e.uri s = some t.document.uri
  · -- The event concerns the document, through one of its tasks. If that is not the task that is
    -- pursued, it is an older one, which neither waits nor is current any more.
    cases e with
    | schedule document' delay => simp_all [Event.uri, Event.renews]
    | close u => simp_all [Event.uri, Event.renews]
    | validate | shutdown => cases he
    | configure | moveTo => cases hu
    | resume m =>
      rw [Schedule.step, publicationsOf, publications_resume, List.filter_nil, List.append_nil]
      by_cases hm : m = n
      · subst hm
        exact hcourse.resume around hd ht hfile
      · obtain ⟨t', ht', hu'⟩ := Option.map_eq_some_iff.mp hu
        have hne : t'.isExpected = false := by
          by_contra hexp
          obtain ⟨d', hd', hp⟩ := hc.expected_pending m t' ht' (by simpa using hexp)
          obtain rfl : d = d' := Option.some.inj (hd.symm.trans (hu' ▸ hd'))
          exact hm (hcourse.pending hp)
        have hverdict : verdict around s n (.resume m) = none := verdict_of_task_ne around hm
        rw [hverdict, Option.toList_none, List.append_nil]
        exact ⟨d, t, (tracked?_resume_of_unexpected around h.scheduled ht' hne _).trans hd,
          (task?_resume_of_ne around (Ne.symm hm)).trans ht, rfl, hcourse⟩
    | complete m answer =>
      by_cases hm : m = n
      · subst hm
        obtain ⟨n', hn'⟩ := h.numbered.standing _ d hd
        rw [h.standing] at hn'
        exact hcourse.complete around hdeliver hd ht (by cases hn'; rfl) answer
      · obtain ⟨t', ht', hu'⟩ := Option.map_eq_some_iff.mp hu
        obtain ⟨hnone, d', hd', hl, hp, hpub⟩ := h.numbered.complete_other around ht'
          (hu' ▸ h.standing) hm (hu' ▸ hd) answer
        have hverdict : verdict around s n (.complete m answer) = none :=
          verdict_of_task_ne around hm
        rw [hverdict, Option.toList_none, List.append_nil, Schedule.step,
          publicationsOf, hnone, List.filter_nil, List.append_nil]
        exact ⟨d', t, hu' ▸ hd', (task?_complete_of_ne around answer (Ne.symm hm)).trans ht, rfl,
          hcourse.of_kept hl hp hpub⟩
  · -- The event concerns another document, and leaves this one and its task alone.
    have hverdict : verdict around s n e = none := by
      refine verdict_of_task_ne around fun hn => hu ?_
      have hlt := task?_lt ht
      cases e with
      | resume m | complete m =>
        obtain rfl : m = n := hn
        rw [Event.uri, ht, Option.map_some]
      | _ => exact absurd hn (Nat.ne_of_gt hlt)
    have hnone : publicationsOf t.document.uri (Schedule.step around s e).2 = [] := by
      refine List.filter_eq_nil_iff.mpr fun p hp hpu => hu ?_
      rw [uri_of_mem_publications around hp, beq_iff_eq.mp hpu]
    rw [hverdict, hnone, Option.toList_none, List.append_nil, List.append_nil]
    exact ⟨d, t, (tracked?_step_of_ne around hu).trans hd, task?_step_of_ne around hc he ht hu, rfl,
      hcourse⟩

/-- A validation that has just been scheduled is pursued. -/
theorem Pursued.schedule (hc : Consistent s) (hnum : Numbered s H) (hall : AllScheduled s)
    (document : Document) (delay : Option Binary64) :
    Pursued (s.schedule document delay).1 (H ++ marks around s (.schedule document delay))
      s.tasks.length document ((s.entry document.uri).sequence + 1 : Nat)
      (s.published document.uri) [] [] where
  consistent := hc.schedule document delay
  numbered := hnum.schedule around hc document delay
  scheduled := hall.step around (e := .schedule document delay) rfl
  standing := by rw [marks_schedule, List.append_cons, standing_issued]
  course := by
    refine ⟨s.scheduledEntry document, s.scheduledTask document delay, ?_, ?_, rfl,
      .waiting rfl rfl rfl ?_⟩
    · rw [tracked?_schedule, if_pos rfl]
    · rw [task?_schedule, if_pos rfl]
    · cases hd : s.tracked? document.uri with
      | none => simp [scheduledEntry, Schedule.published, entry_of_untracked hd, hd]
      | some d => simp [scheduledEntry, Schedule.published, entry_of_tracked hd, hd]

/-- **Whatever happens in a run, a validation that is pursued takes its course.** -/
theorem Pursued.run (h : Pursued s H n document k old vs ps)
    (hdeliver : ∀ p, around.deliver p = .ok ()) {file : Path}
    (hfile : Uri.toPath? document.uri = .ok (some file)) {es : List Event}
    (hes : ∀ e ∈ es, e.isRoutine = true) (hrenews : ∀ e ∈ es, e.renews document.uri = false) :
    Pursued (Schedule.run around s es).1 (H ++ chronicle around s es) n document k old
      (vs ++ verdicts around n s es)
      (ps ++ publicationsOf document.uri (Schedule.run around s es).2) := by
  induction es generalizing s H vs ps with
  | nil => simpa [Schedule.run, chronicle, verdicts, publicationsOf, publications] using h
  | cons e rest ih =>
    have hstep := h.step around hdeliver hfile (hes e List.mem_cons_self)
      (hrenews e List.mem_cons_self)
    have hrest := ih hstep (fun e' he' => hes e' (List.mem_cons_of_mem _ he'))
      fun e' he' => hrenews e' (List.mem_cons_of_mem _ he')
    simp only [Schedule.run, chronicle, verdicts, publicationsOf_append]
    simpa only [List.append_assoc] using hrest

/-- **Once nothing is outstanding, a validation that is pursued has reached its end.** -/
theorem Pursued.settled (h : Pursued s H n document k old vs ps) (hquiet : s.outstanding = []) :
    ∃ result, vs = [result] ∧
      (∃ t, s.task? n = some t ∧ t.document = document ∧
        t.stage = .done (.finished result.isOk)) ∧
      match result with
      | .ok records => s.published document.uri = some records ∧
          ps = [publicationOf document records]
      | .error _ => s.published document.uri = old ∧ ps = [] := by
  obtain ⟨d, t, hd, ht, rfl, hcourse⟩ := h.course
  have hdone : t.isDone = true := done_of_outstanding hquiet ht (h.scheduled n t ht)
  have hpublished : s.published t.document.uri = d.published := by
    rw [Schedule.published, hd, Option.bind_some]
  -- Of the stages of its course, only the last two are those of a task that is over.
  cases hcourse with
  | waiting expected =>
    rw [Task.isDone_of_isWaiting (Task.isExpected_iff.mp expected).2.1] at hdone
    cases hdone
  | linting pass stage => simp [Task.isDone, stage] at hdone
  | failed e stage pending published =>
    exact ⟨.error e, rfl, ⟨t, ht, rfl, stage⟩, hpublished.trans published, rfl⟩
  | published records stage pending published =>
    exact ⟨.ok records, rfl, ⟨t, ht, rfl, stage⟩, hpublished.trans published, rfl⟩

end Course

/-! ### Every run -/

section Runs

variable (around : Surroundings)

/-- What holds at the end of every run of routine events. -/
theorem run_routine (settings : Settings) (workspace : Option Path) {es : List Event}
    (hes : ∀ e ∈ es, e.isRoutine = true) :
    Consistent (run around { settings, workspace } es).1 ∧
      Numbered (run around { settings, workspace } es).1
        (chronicle around { settings, workspace } es) ∧
      AllScheduled (run around { settings, workspace } es).1 := by
  obtain ⟨hc, hnum, -, -⟩ := run_inOrder around settings workspace fun e he =>
    Event.isUnnumbered_of_isRoutine (hes e he)
  refine ⟨hc, hnum, ?_⟩
  induction es using List.reverseRecOn with
  | nil =>
    intro n t ht
    cases ht
  | append_singleton rest e ih =>
    have hrest : ∀ e' ∈ rest, e'.isRoutine = true :=
      fun e' he' => hes e' (List.mem_append_left _ he')
    obtain ⟨hc', hnum', -, -⟩ := run_inOrder around settings workspace fun e' he' =>
      Event.isUnnumbered_of_isRoutine (hrest e' he')
    rw [run_snoc]
    exact (ih hrest hc' hnum').step around
      (hes e (List.mem_append_right _ List.mem_cons_self))

/-- **A document that is followed was scheduled**, and has not been closed since. -/
theorem exists_last_schedule (settings : Settings) (workspace : Option Path) {es : List Event}
    (hes : ∀ e ∈ es, e.isRoutine = true) {uri : String} {d : Tracked}
    (hd : (run around { settings, workspace } es).1.tracked? uri = some d) :
    ∃ es₁ document delay es₂, es = es₁ ++ .schedule document delay :: es₂ ∧
      document.uri = uri ∧ ∀ e ∈ es₂, e.renews uri = false := by
  induction es using List.reverseRecOn generalizing d with
  | nil => cases hd
  | append_singleton rest e ih =>
    have hrest : ∀ e' ∈ rest, e'.isRoutine = true :=
      fun e' he' => hes e' (List.mem_append_left _ he')
    have he := hes e (List.mem_append_right _ List.mem_cons_self)
    obtain ⟨hc, -, hall⟩ := run_routine around settings workspace hrest
    rw [run_snoc] at hd
    -- Either the last event renews the document, or it was followed before it.
    cases hrenews : e.renews uri with
    | false =>
      obtain ⟨d', hd'⟩ := tracked?_of_step around hc hall he hrenews hd
      obtain ⟨es₁, document, delay, es₂, rfl, hu, hes₂⟩ := ih hrest hd'
      refine ⟨es₁, document, delay, es₂ ++ [e], by simp, hu, fun e' he' => ?_⟩
      rcases List.mem_append.mp he' with he' | he'
      · exact hes₂ e' he'
      · rw [List.mem_singleton.mp he']
        exact hrenews
    | true =>
      cases e with
      | schedule document delay =>
        exact ⟨rest, document, delay, [], rfl, by simpa [Event.renews] using hrenews,
          fun e' he' => absurd he' List.not_mem_nil⟩
      | close u =>
        obtain rfl : u = uri := by simpa [Event.renews] using hrenews
        rw [step, tracked?_close, if_pos rfl] at hd
        cases hd
      | _ => cases hrenews

/-- **The validation that was scheduled last prevails.** In a run without shutdowns and direct
requests, let everything that is published be delivered, let nothing be outstanding at the end, and
let a document be followed then whose URI names a file. There is a last time at which it was
scheduled, after which it has not been closed, and the task that was created then

* has come to exactly one result, and has ended by itself;
* if records were found, they are what is published of the document at the end, and the last
  publication of it carries them with the version of the document that was scheduled;
* if it failed, nothing has been published of the document since it was scheduled, and what is
  published of it is what was then. -/
theorem latest_prevails (settings : Settings) (workspace : Option Path) {es : List Event}
    (hes : ∀ e ∈ es, e.isRoutine = true) (hdeliver : ∀ p, around.deliver p = .ok ())
    (hquiet : (run around { settings, workspace } es).1.outstanding = []) {uri : String}
    {d : Tracked} (hd : (run around { settings, workspace } es).1.tracked? uri = some d)
    {file : Path} (hfile : Uri.toPath? uri = .ok (some file)) :
    ∃ es₁ document delay es₂ result,
      es = es₁ ++ .schedule document delay :: es₂ ∧ document.uri = uri ∧
      (∀ e ∈ es₂, e.renews uri = false) ∧
      verdicts around (run around { settings, workspace } es₁).1.tasks.length
        (run around { settings, workspace } es₁).1 (.schedule document delay :: es₂) = [result] ∧
      (∃ t, (run around { settings, workspace } es).1.task?
          (run around { settings, workspace } es₁).1.tasks.length = some t ∧
        t.document = document ∧ t.stage = .done (.finished result.isOk)) ∧
      match result with
      | .ok records =>
        (run around { settings, workspace } es).1.published uri = some records ∧
          (publicationsOf uri (run around { settings, workspace } es).2).getLast? =
            some { uri, records, version := document.version }
      | .error _ =>
        (run around { settings, workspace } es).1.published uri =
            (run around { settings, workspace } es₁).1.published uri ∧
          publicationsOf uri (run around (run around { settings, workspace } es₁).1
            (.schedule document delay :: es₂)).2 = [] := by
  obtain ⟨es₁, document, delay, es₂, rfl, rfl, hrenews⟩ :=
    exists_last_schedule around settings workspace hes hd
  obtain ⟨hc, hnum, hall⟩ := run_routine around settings workspace fun e he =>
    hes e (List.mem_append_left _ he)
  have hes₂ : ∀ e ∈ es₂, e.isRoutine = true := fun e he =>
    hes e (List.mem_append_right _ (List.mem_cons_of_mem _ he))
  have hpursued := (Pursued.schedule around hc hnum hall document delay).run around hdeliver hfile
    hes₂ hrenews
  rw [run_append] at hquiet ⊢
  obtain ⟨result, hverdicts, htask, hresult⟩ := hpursued.settled hquiet
  -- Scheduling itself comes to no verdict and publishes nothing.
  have hpublications : publicationsOf document.uri (run around
      (run around { settings, workspace } es₁).1 (.schedule document delay :: es₂)).2 =
        publicationsOf document.uri (run around
          ((run around { settings, workspace } es₁).1.schedule document delay).1 es₂).2 := by
    simp only [run, step, publicationsOf_append]
    rw [publicationsOf, publications_schedule]
    rfl
  refine ⟨es₁, document, delay, es₂, result, rfl, rfl, hrenews, ?_, htask, ?_⟩
  · rw [verdicts, verdict_schedule]
    exact hverdicts
  · cases result with
    | error e => exact ⟨hresult.1, hpublications.trans hresult.2⟩
    | ok records =>
      refine ⟨hresult.1, ?_⟩
      rw [publicationsOf_append, hpublications]
      exact (congrArg _ (congrArg _ hresult.2)).trans List.getLast?_concat

end Runs

/-! ### A document that changes while it is validated -/

/-- A document changes while a validation of it is under way. The older validation is answered
first, and the newer one is still waiting then. -/
def overtaking : List Event :=
  [.schedule (app 1) (some (.ofInt 0)), .resume 0, .schedule (app 2) none, .resume 1,
    .complete 0 (.ok { exitCode := some 0 }), .resume 1, .complete 1 (.ok { exitCode := some 0 })]

/-- The newer validation prevails, and the last set that is published has its version. -/
theorem latest_prevails_overtaking :
    (∀ e ∈ overtaking, e.isRoutine = true) ∧ (∀ p, Surroundings.calm.deliver p = .ok ()) ∧
      (run .calm { settings := { projectMarkers := [] } } overtaking).1.outstanding = [] ∧
      (publicationsOf "file:///app.py"
        (run .calm { settings := { projectMarkers := [] } } overtaking).2).getLast? =
          some { uri := "file:///app.py", records := [], version := some 2 } ∧
      ∃ es₁ document delay es₂ result,
        overtaking = es₁ ++ .schedule document delay :: es₂ ∧ document.uri = "file:///app.py" ∧
        (∀ e ∈ es₂, e.renews "file:///app.py" = false) ∧
        verdicts .calm (run .calm { settings := { projectMarkers := [] } } es₁).1.tasks.length
          (run .calm { settings := { projectMarkers := [] } } es₁).1
          (.schedule document delay :: es₂) = [result] := by
  have hes : ∀ e ∈ overtaking, e.isRoutine = true := by decide
  have hquiet : (run .calm { settings := { projectMarkers := [] } } overtaking).1.outstanding =
      [] := by decide +kernel
  have hd : (run .calm { settings := { projectMarkers := [] } } overtaking).1.tracked?
      "file:///app.py" = some { life := 0, sequence := 2, published := some [] } := by
    decide +kernel
  have hfile : Uri.toPath? "file:///app.py" = .ok (some (Path.ofString "/app.py")) := by
    decide +kernel
  obtain ⟨es₁, document, delay, es₂, result, heq, hu, hes₂, hverdicts, -, -⟩ :=
    latest_prevails .calm { projectMarkers := [] } none hes (fun _ => rfl) hquiet hd hfile
  exact ⟨hes, fun _ => rfl, hquiet, by decide +kernel, es₁, document, delay, es₂, result, heq, hu,
    hes₂, hverdicts⟩

end Schedule

end LintBridge
