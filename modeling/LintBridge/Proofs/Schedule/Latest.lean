import LintBridge.Proofs.Schedule.Chronicle

/-!
# Only the latest validation publishes

A validation works on a document as it was when the validation was asked for, so what it finds is
worth publishing only as long as no later one has been asked for. Two things stand between an
outdated validation and its receiver: the number under which it runs, and the life of the document
in which it was begun. Neither is enough alone, since a document that is closed and opened again is
numbered from the start. That the two together are enough is a matter of all tasks of a document at
once, and of the whole run up to now; `LintBridge.Schedule.Numbered` says what holds of them:

* the count of a document that is followed is its standing number;
* a task that may yet publish in the present life of its document has a number that is no greater
  than the count, and if it is the same then it is the task that the number was issued for.

From it follows that every publication comes at a time when its number is the standing one, and that
the publications of a document come in the order in which their numbers were issued. The numbers
must be those that the schedule issues itself: a validation that is given its number from outside
may run under any (`LintBridge.Schedule.Event.isUnnumbered`).
-/

namespace LintBridge

namespace Schedule

/-- Whether an event brings no number from outside. -/
def Event.isUnnumbered : Event → Bool
  | .validate _ (some _) => false
  | _ => true

/-! ### Tasks that may yet publish -/

/-- **A task may yet publish** in a life of its document, under a number: it has called the linter
in that life, or it is to go on to its validation and has the number already. -/
def Task.Contends (t : Task) (life : Nat) (k : Int) : Prop :=
  (∃ pass, t.stage = .linting pass ∧ pass.life = life ∧ pass.sequence = k) ∨
    (t.isExpected = true ∧ t.sequence? = some k)

theorem Task.Marked.contends {t t' : Task} (h : t.Marked t') {life : Nat} {k : Int}
    (ht : t'.Contends life k) : t.Contends life k := by
  rcases ht with ⟨pass, hs, hl, hk⟩ | ⟨he, hk⟩
  · exact .inl ⟨pass, h.stage ▸ hs, hl, hk⟩
  · refine .inr ⟨h.isExpected he, ?_⟩
    rw [← hk]
    simp only [Task.sequence?, h.origin]

/-- A task that is over publishes nothing more. -/
theorem Task.not_contends_of_isDone {t : Task} (hd : t.isDone = true) (life : Nat) (k : Int) :
    ¬ t.Contends life k := by
  rintro (⟨pass, hs, -, -⟩ | ⟨he, -⟩)
  · simp [Task.isDone, hs] at hd
  · have hw := (Task.isExpected_iff.mp he).2.1
    rw [Task.isDone_of_isWaiting hw] at hd
    cases hd

/-- A task that waits may yet publish only if it is to go on. -/
theorem Task.isExpected_of_contends {t : Task} (hw : t.isWaiting = true) {life : Nat} {k : Int}
    (h : t.Contends life k) : t.isExpected = true ∧ t.sequence? = some k := by
  rcases h with ⟨pass, hs, -, -⟩ | h
  · simp [Task.isWaiting, hs] at hw
  · exact h

theorem Task.sequence?_of_isScheduled {t : Task} (h : t.isScheduled = true) :
    ∃ k : Nat, t.origin = .scheduled k ∧ t.sequence? = some (k : Int) := by
  unfold Task.isScheduled at h
  unfold Task.sequence?
  cases ho : t.origin with
  | scheduled k => exact ⟨k, rfl, rfl⟩
  | direct q => simp [ho] at h

/-! ### Numbers -/

/-- **What holds of the numbers** in a schedule and in the chronicle that led to it. -/
structure Numbered (s : Schedule) (H : List Mark) : Prop where
  /-- The count of a document is its standing number. -/
  standing : ∀ uri d, s.tracked? uri = some d →
    ∃ n, Schedule.standing uri H = some (n, (d.sequence : Int))
  /-- Only the task with the standing number may publish under the count. -/
  contends : ∀ n t d k, s.task? n = some t → s.tracked? t.document.uri = some d →
    t.Contends d.life k →
      k ≤ d.sequence ∧ (k = d.sequence → Schedule.standing t.document.uri H = some (n, k))

section Numbered

variable {s s' : Schedule} {H M : List Mark} {uri : String} {n : Nat}

/-- A step that issues no number, and after which no more tasks may publish than before. -/
theorem Numbered.of_keeps (h : Numbered s H) (hkeeps : Keeps s s')
    (hM : ∀ v d', s'.tracked? v = some d' →
      Schedule.standing v (H ++ M) = Schedule.standing v H)
    (htasks : ∀ m t' d' k, s'.task? m = some t' → s'.tracked? t'.document.uri = some d' →
      t'.Contends d'.life k →
        ∃ t, s.task? m = some t ∧ t.document = t'.document ∧ t.Contends d'.life k) :
    Numbered s' (H ++ M) where
  standing v d' hd' := by
    obtain ⟨d, hd, -, hq⟩ := hkeeps v d' hd'
    obtain ⟨m, hm⟩ := h.standing v d hd
    exact ⟨m, by rw [hM v d' hd', hm, hq]⟩
  contends m t' d' k ht' hd' hk := by
    obtain ⟨t, ht, hdoc, hcont⟩ := htasks m t' d' k ht' hd' hk
    obtain ⟨d, hd, hl, hq⟩ := hkeeps _ d' hd'
    rw [hM _ d' hd', hq, ← hdoc]
    rw [← hdoc] at hd
    exact h.contends m t d k ht hd (hl ▸ hcont)

/-- In a new life of a document no task may publish yet. -/
theorem Consistent.not_contends_of_untracked (h : Consistent s) {m : Nat} {t : Task}
    (ht : s.task? m = some t) (hnone : s.tracked? t.document.uri = none) (k : Int) :
    ¬ t.Contends s.nextLife k := by
  rintro (⟨pass, hs, hl, -⟩ | ⟨he, -⟩)
  · have hlt := (h.pass_life m t pass ht hs).1
    rw [hl] at hlt
    exact Nat.lt_irrefl _ hlt
  · obtain ⟨d, hd, -⟩ := h.expected_pending m t ht he
    rw [hnone] at hd
    cases hd

/-- A step that issues the next number of a document, for the task that it concerns. -/
theorem Numbered.of_issue (h : Numbered s H) (hc : Consistent s) (f : Focus s s' uri n)
    {d' : Tracked} (hd' : s'.tracked? uri = some d') (hlife : d'.life = (s.entry uri).life)
    (hnext : d'.sequence = (s.entry uri).sequence + 1)
    (hstanding : Schedule.standing uri (H ++ M) = some (n, (d'.sequence : Int)))
    (hother : ∀ v, v ≠ uri → Schedule.standing v (H ++ M) = Schedule.standing v H)
    (hself : ∀ t' k, s'.task? n = some t' → t'.Contends d'.life k → k = d'.sequence) :
    Numbered s' (H ++ M) where
  standing v d hd := by
    by_cases hv : v = uri
    · subst hv
      obtain rfl : d' = d := by simpa [hd'] using hd
      exact ⟨n, hstanding⟩
    · rw [f.docs v hv] at hd
      rw [hother v hv]
      exact h.standing v d hd
  contends m t' d k ht' hd hk := by
    by_cases hv : t'.document.uri = uri
    · rw [hv] at hd ⊢
      obtain rfl : d' = d := by simpa [hd'] using hd
      by_cases hm : m = n
      · subst hm
        obtain rfl : k = d'.sequence := hself t' k ht' hk
        exact ⟨Int.le_refl _, fun _ => hstanding⟩
      · -- The number of any other task is below the one that has just been issued.
        obtain ⟨t, ht, hmark⟩ := f.task_before hm ht'
        have hcont := hmark.contends hk
        have hu : t.document.uri = uri := hmark.document ▸ hv
        have hlt : k < d'.sequence := by
          cases hd₀ : s.tracked? uri with
          | none =>
            rw [hlife, entry_of_untracked hd₀] at hcont
            exact absurd hcont (hc.not_contends_of_untracked ht (hu ▸ hd₀) k)
          | some d₀ =>
            rw [hlife, entry_of_tracked hd₀] at hcont
            have hle := (h.contends m t d₀ k ht (hu ▸ hd₀) hcont).1
            rw [entry_of_tracked hd₀] at hnext
            omega
        exact ⟨Int.le_of_lt hlt, fun heq => absurd heq (Int.ne_of_lt hlt)⟩
    · have hm : m ≠ n := by
        rintro rfl
        exact hv (f.own_after t' ht')
      obtain ⟨t, ht, hmark⟩ := f.task_before hm ht'
      rw [f.docs _ hv, hmark.document] at hd
      have hstep := h.contends m t d k ht hd (hmark.contends hk)
      rw [hother _ hv, hmark.document]
      exact hstep

end Numbered

/-! ### What each event does to the numbers -/

section Events

variable (around : Surroundings) {s : Schedule} {H : List Mark}

theorem Numbered.empty (settings : Settings) (workspace : Option Path) :
    Numbered { settings, workspace } [] where
  standing _ _ h := by cases h
  contends _ _ _ _ h := by cases h

theorem Numbered.schedule (h : Numbered s H) (hc : Consistent s) (document : Document)
    (delay : Option Binary64) :
    Numbered (s.schedule document delay).1 (H ++ marks around s (.schedule document delay)) := by
  have hd : (s.schedule document delay).1.tracked? document.uri =
      some (s.scheduledEntry document) := by
    rw [tracked?_schedule, if_pos rfl]
  rw [marks_schedule]
  refine h.of_issue hc (focus_schedule s document delay) hd rfl rfl ?_ ?_ ?_
  · rw [List.append_cons, standing_issued]
    rfl
  · intro v hv
    refine standing_append_of_not_renumbers fun m hm => ?_
    rcases List.mem_pair.mp hm with rfl | rfl
    · rfl
    · simpa [Mark.renumbers] using Ne.symm hv
  · intro t' k ht' hk
    rw [task?_schedule, if_pos rfl] at ht'
    cases ht'
    have hseq := (Task.isExpected_of_contends rfl hk).2
    exact (Option.some.inj hseq).symm

/-- A step after which there are no more tasks than before, and those are at most marked. -/
theorem Numbered.of_marks (h : Numbered s H) {s' : Schedule} {uri : String}
    (f : Focus s s' uri s.tasks.length) (hlen : s'.tasks.length = s.tasks.length)
    (hkeeps : Keeps s s') {M : List Mark}
    (hM : ∀ v d', s'.tracked? v = some d' →
      Schedule.standing v (H ++ M) = Schedule.standing v H) : Numbered s' (H ++ M) := by
  refine h.of_keeps hkeeps hM fun m t' d' k ht' _ hk => ?_
  have hm : m ≠ s.tasks.length := by
    have hlt := task?_lt ht'
    omega
  obtain ⟨t, ht, hmark⟩ := f.task_before hm ht'
  exact ⟨t, ht, hmark.document.symm, hmark.contends hk⟩

theorem Numbered.validate (h : Numbered s H) (document : Document) (sequence : Option Int) :
    Numbered (s.validate document sequence).1
      (H ++ marks around s (.validate document sequence)) := by
  rw [marks_validate]
  refine h.of_keeps (.of_eq fun _ => rfl) ?_ ?_
  · intro v _ _
    refine standing_append_of_not_renumbers fun m hm => ?_
    rw [List.mem_singleton.mp hm]
    rfl
  · intro m t' d' k ht' _ hk
    rw [task?_validate] at ht'
    by_cases hm : m = s.tasks.length
    · rw [if_pos hm] at ht'
      cases ht'
      have hexp := (Task.isExpected_of_contends rfl hk).1
      cases hexp
    · rw [if_neg hm] at ht'
      exact ⟨t', ht', rfl, hk⟩

theorem Numbered.close (h : Numbered s H) (uri : String) :
    Numbered (Schedule.close around s uri).1 (H ++ marks around s (.close uri)) := by
  rw [marks_close]
  refine h.of_marks (focus_close s around uri) (length_tasks_close s around uri)
    (keeps_close s around uri) fun v d' hd' => standing_append_of_not_renumbers fun m hm => ?_
  rw [List.mem_singleton.mp hm]
  have hv : v ≠ uri := by
    rintro rfl
    rw [tracked?_close, if_pos rfl] at hd'
    cases hd'
  simpa [Mark.renumbers] using Ne.symm hv

/-- A scheduled task that goes on to its validation has its number already. -/
theorem keeps_release_enroll (hc : Consistent s) {n : Nat} {t : Task} (ht : s.task? n = some t)
    (due : t.isDue = true) (kept : t.cancelRequested = false) (hsch : t.isScheduled = true) :
    Keeps s ((s.release n t.document.uri).enroll t) := by
  have hexp : t.isExpected = true :=
    Task.isExpected_iff.mpr ⟨hsch, Task.isWaiting_of_isDue due, kept⟩
  obtain ⟨d, hd, -⟩ := hc.expected_pending n t ht hexp
  obtain ⟨k, -, hk⟩ := Task.sequence?_of_isScheduled hsch
  have hd' : (s.release n t.document.uri).tracked? t.document.uri = some (d.release n) := by
    rw [tracked?_release, if_pos rfl, hd, Option.map_some]
  exact (keeps_release s n _).trans (keeps_enroll hd' hk)

/-- **What the numbers have to do with a task that is resumed**: either none is issued, and the task
may publish under no other number than before, or it was asked for directly and gets the next. -/
theorem resume_numbers (hc : Consistent s) {n : Nat} {t : Task} (ht : s.task? n = some t)
    (hun : t.isScheduled = false → t.sequence? = none) :
    (Keeps s (resume around s n).1 ∧
        ∀ t' life k, (resume around s n).1.task? n = some t' → t'.Contends life k →
          t.Contends life k) ∨
      (t.isScheduled = false ∧ t.isWaiting = true ∧
        ∃ d' t', (resume around s n).1.tracked? t.document.uri = some d' ∧
          d'.life = (s.entry t.document.uri).life ∧
          d'.sequence = (s.entry t.document.uri).sequence + 1 ∧
          (resume around s n).1.task? n = some t' ∧ t'.isWaiting = false ∧
          ∀ k, t'.Contends d'.life k → k = d'.sequence) := by
  have hdone : ∀ {s₁ : Schedule} {outcome : Outcome}, (∀ m, s₁.task? m = s.task? m) →
      ∀ t' life k, (s₁.finish n outcome).task? n = some t' → t'.Contends life k →
        t.Contends life k := by
    intro s₁ outcome htasks t' life k ht' hk
    obtain rfl : _ = t' := Option.some.inj ((task?_setStage_own ht htasks).symm.trans ht')
    exact absurd hk (Task.not_contends_of_isDone rfl life k)
  generalize hx : resume around s n = x
  have hcases := resume_cases around ht
  rw [hx] at hcases
  -- Only a task that was asked for directly takes a number when it begins.
  cases hcases with
  | idle =>
    refine .inl ⟨.of_eq fun _ => rfl, fun t' life k ht' hk => ?_⟩
    obtain rfl : t = t' := Option.some.inj (ht.symm.trans ht')
    exact hk
  | cancelled => exact .inl ⟨.of_eq fun _ => rfl, hdone fun _ => rfl⟩
  | slept delay stage =>
    refine .inl ⟨.of_eq fun _ => rfl, fun t' life k ht' hk => ?_⟩
    obtain rfl : _ = t' := Option.some.inj ((task?_setStage_own ht fun _ => rfl).symm.trans ht')
    obtain ⟨he, hk⟩ := Task.isExpected_of_contends rfl hk
    obtain ⟨hsch, -, hkept⟩ := Task.isExpected_iff.mp he
    have hw : t.isWaiting = true := by simp [Task.isWaiting, stage]
    exact .inr ⟨Task.isExpected_iff.mpr ⟨hsch, hw, hkept⟩, hk⟩
  | unreadable | skipped => exact .inl ⟨keeps_release s n _, hdone fun _ => rfl⟩
  | stuck file e due kept =>
    cases hsch : t.isScheduled with
    | true =>
      refine .inl ⟨?_, hdone fun m => by simp [release]⟩
      exact ((keeps_release_enroll hc ht due kept hsch).trans (keeps_leave _ _ _)).setStage n _
    | false =>
      have htasks : ∀ m, (((s.release n t.document.uri).enroll t).leave t.document.uri
          (s.entry t.document.uri).life).task? m = s.task? m := fun m => by simp [release]
      refine .inr ⟨rfl, Task.isWaiting_of_isDue due,
        ((s.release n t.document.uri).enrolled t).leave (s.entry t.document.uri).life, _,
        ?_, ?_, ?_, task?_setStage_own ht htasks, rfl,
        fun k hk => absurd hk (Task.not_contends_of_isDone rfl _ k)⟩
      · exact (tracked?_leave _ _ _ _).trans ((if_pos rfl).trans
          (congrArg _ ((tracked?_enroll _ t _).trans (if_pos rfl))))
      · rw [Tracked.leave_life, enrolled_release_life]
      · rw [Tracked.leave_sequence, enrolled_release_sequence n (hun hsch)]
  | called file call due kept =>
    cases hsch : t.isScheduled with
    | true =>
      refine .inl ⟨(keeps_release_enroll hc ht due kept hsch).setStage n _, ?_⟩
      intro t' life k ht' hk
      have htasks : ∀ m, ((s.release n t.document.uri).enroll t).task? m = s.task? m :=
        fun m => by simp [release]
      obtain rfl : _ = t' := Option.some.inj ((task?_setStage_own ht htasks).symm.trans ht')
      obtain ⟨k', -, hk'⟩ := Task.sequence?_of_isScheduled hsch
      rcases hk with ⟨pass, hs, -, rfl⟩ | ⟨he, -⟩
      · cases hs
        refine .inr ⟨Task.isExpected_iff.mpr ⟨hsch, Task.isWaiting_of_isDue due, kept⟩, ?_⟩
        simp only [passOf, numberOf, hk', Option.getD_some]
      · cases (Task.isExpected_iff.mp he).2.1
    | false =>
      have hnext := enrolled_release_sequence (s := s) n (hun hsch)
      refine .inr ⟨rfl, Task.isWaiting_of_isDue due, _, _,
        (tracked?_enroll _ t _).trans (if_pos rfl), enrolled_release_life s n t, hnext,
        task?_setStage_own ht fun m => by simp [release], rfl, ?_⟩
      rintro k (⟨pass, hs, -, rfl⟩ | ⟨he, -⟩)
      · cases hs
        rw [hnext]
        simp only [passOf, numberOf, hun hsch, Option.getD_none]
        rfl
      · cases (Task.isExpected_iff.mp he).2.1

theorem Numbered.resume (h : Numbered s H) (hc : Consistent s) (n : Nat)
    (hun : ∀ t, s.task? n = some t → t.isScheduled = false → t.sequence? = none) :
    Numbered (Schedule.resume around s n).1 (H ++ marks around s (.resume n)) := by
  cases ht : s.task? n with
  | none =>
    rw [marks_resume_of_absent around s ht, resume_of_absent around ht, List.append_nil]
    exact h
  | some t =>
    have f := focus_resume around ht
    rw [marks_resume around ht]
    rcases resume_numbers around hc ht (hun t ht) with
      ⟨hkeeps, hself⟩ | ⟨-, -, d', t', hd', hlife, hnext, ht', -, hself⟩
    · rw [issues_of_keeps hkeeps]
      refine h.of_keeps hkeeps (fun v _ _ => by rw [List.append_nil]) ?_
      intro m t' d' k ht' _ hk
      by_cases hm : m = n
      · subst hm
        obtain ⟨t'', ht'', hp⟩ := progress_resume around ht
        obtain rfl : t'' = t' := Option.some.inj (ht''.symm.trans ht')
        exact ⟨t, ht, hp.document.symm, hself _ _ k ht' hk⟩
      · obtain ⟨t₀, ht₀, hmark⟩ := f.task_before hm ht'
        exact ⟨t₀, ht₀, hmark.document.symm, hmark.contends hk⟩
    · rw [issues_of_lt n hd' (by omega)]
      refine h.of_issue hc f hd' hlife hnext (standing_issued _ _ _ _) ?_ ?_
      · intro v hv
        refine standing_append_of_not_renumbers fun m hm => ?_
        rw [List.mem_singleton.mp hm]
        simpa [Mark.renumbers] using Ne.symm hv
      · intro t'' k ht'' hk
        obtain rfl : t' = t'' := Option.some.inj (ht'.symm.trans ht'')
        exact hself k hk

theorem Numbered.complete (h : Numbered s H) (n : Nat) (answer : Except Mishap ToolOutput) :
    Numbered (Schedule.complete around s n answer).1
      (H ++ marks around s (.complete n answer)) := by
  have hM : ∀ v, Schedule.standing v (H ++ marks around s (.complete n answer)) =
      Schedule.standing v H := by
    intro v
    refine standing_append_of_not_renumbers fun m hm => ?_
    rcases marks_complete_cases around s n answer with hnil | ⟨_, _, _, -, -, -, hmarks⟩
    · rw [hnil] at hm
      cases hm
    · rw [hmarks] at hm
      rw [List.mem_singleton.mp hm]
      rfl
  by_cases hlint : ∃ t pass, s.task? n = some t ∧ t.stage = .linting pass
  · obtain ⟨t, pass, ht, hs⟩ := hlint
    refine h.of_keeps (keeps_complete s around n answer) (fun v _ _ => hM v) ?_
    intro m t' d' k ht' _ hk
    by_cases hm : m = n
    · subst hm
      obtain ⟨outcome, hdone⟩ := done_complete around answer ht hs
      obtain rfl : _ = t' := Option.some.inj (hdone.symm.trans ht')
      exact absurd hk (Task.not_contends_of_isDone rfl _ k)
    · obtain ⟨t₀, ht₀, hmark⟩ := (focus_complete around ht answer).task_before hm ht'
      exact ⟨t₀, ht₀, hmark.document.symm, hmark.contends hk⟩
  · have hnot : ∀ t pass, s.task? n = some t → t.stage ≠ .linting pass :=
      fun t pass ht hs => hlint ⟨t, pass, ht, hs⟩
    rw [complete_of_not_linting around answer hnot,
      marks_complete_of_not_linting around answer hnot, List.append_nil]
    exact h

/-- **Every step keeps the numbers right.** -/
theorem Numbered.step (h : Numbered s H) (hc : Consistent s)
    (hun : ∀ n t, s.task? n = some t → t.isScheduled = false → t.sequence? = none) (e : Event) :
    Numbered (Schedule.step around s e).1 (H ++ marks around s e) := by
  cases e with
  | schedule document delay => exact h.schedule around hc document delay
  | validate document sequence => exact h.validate around document sequence
  | close uri => exact h.close around uri
  | shutdown =>
    rw [marks_shutdown]
    exact h.of_marks (focus_shutdown s "") (length_tasks_shutdown s)
      (.of_eq fun v => tracked?_shutdown s v) fun v _ _ => by rw [List.append_nil]
  | configure settings =>
    rw [marks_configure]
    have f : Focus s (Schedule.step around s (.configure settings)).1 "" s.tasks.length :=
      focus_of_eq "" (fun _ => rfl) (fun _ => rfl) rfl
    exact h.of_marks f rfl (.of_eq fun _ => rfl) fun v _ _ => by rw [List.append_nil]
  | moveTo workspace =>
    rw [marks_moveTo]
    have f : Focus s (Schedule.step around s (.moveTo workspace)).1 "" s.tasks.length :=
      focus_of_eq "" (fun _ => rfl) (fun _ => rfl) rfl
    exact h.of_marks f rfl (.of_eq fun _ => rfl) fun v _ _ => by rw [List.append_nil]
  | resume n => exact h.resume around hc n (hun n)
  | complete n answer => exact h.complete around n answer

end Events

end Schedule

end LintBridge
