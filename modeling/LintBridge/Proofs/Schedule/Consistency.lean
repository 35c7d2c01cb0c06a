import LintBridge.Proofs.Schedule.Locality

/-!
# What holds of every schedule

A document that is followed names the task that waits for it; a task that waits has its own idea of
which document that is; and a task that has called the linter remembers the life of the document in
which it did. **The three never disagree** in a schedule that has come about from an empty one, and
`LintBridge.Schedule.Consistent` says how:

* lives are told apart: no two documents share one, and none has one that is yet to be given out;
* what waits for a document is a scheduled task of it, with a number that has been given out, and
  it either still waits or was cancelled;
* a scheduled task that waits and has not been cancelled is what its document waits for, so at most
  one task of a document can still go on to its validation;
* no other document has the life in which a task has called the linter.

Nothing is assumed of the order of events, of their number, or of the numbers that validations are
given from outside.
-/

namespace LintBridge

namespace Schedule

/-- The task `n` is what the document `uri` waits for, with `d` known of it: a scheduled task of it,
which waits, unless it was cancelled. -/
def WaitedFor (s : Schedule) (uri : String) (d : Tracked) (n : Nat) : Prop :=
  ∃ t k, s.task? n = some t ∧ t.document.uri = uri ∧ t.origin = .scheduled k ∧ k ≤ d.sequence ∧
    (t.isWaiting = true ∨ t.stage = .done .cancelled)

/-- A task that is to go on to its validation: it waits and has not been cancelled. -/
def Task.isExpected (t : Task) : Bool :=
  t.isScheduled && t.isWaiting && !t.cancelRequested

theorem Task.isExpected_iff {t : Task} :
    t.isExpected = true ↔
      t.isScheduled = true ∧ t.isWaiting = true ∧ t.cancelRequested = false := by
  simp [Task.isExpected, and_assoc]

/-- **What holds of every schedule.** -/
structure Consistent (s : Schedule) : Prop where
  /-- No document is followed twice. -/
  uris_nodup : s.trackedUris.Nodup
  /-- Lives have been given out. -/
  life_lt : ∀ uri d, s.tracked? uri = some d → d.life < s.nextLife
  /-- No two documents share a life. -/
  life_inj : ∀ u v d e, s.tracked? u = some d → s.tracked? v = some e → d.life = e.life → u = v
  /-- What waits for a document is a task of it. -/
  pending_waits : ∀ uri d n, s.tracked? uri = some d → d.pending = some n → s.WaitedFor uri d n
  /-- A task that is to go on is what its document waits for. -/
  expected_pending : ∀ n t, s.task? n = some t → t.isExpected = true →
    ∃ d, s.tracked? t.document.uri = some d ∧ d.pending = some n
  /-- No other document has the life in which the linter was called. -/
  pass_life : ∀ n t pass, s.task? n = some t → t.stage = .linting pass →
    pass.life < s.nextLife ∧
      ∀ u d, s.tracked? u = some d → d.life = pass.life → u = t.document.uri

theorem Task.Marked.isExpected {t t' : Task} (h : t.Marked t') (ht : t'.isExpected = true) :
    t.isExpected = true := by
  rw [Task.isExpected_iff] at ht ⊢
  exact ⟨h.isScheduled ▸ ht.1, h.isWaiting ▸ ht.2.1, h.kept ht.2.2⟩

theorem WaitedFor.of_marked {s s' : Schedule} {uri : String} {d d' : Tracked} {n : Nat}
    (h : s.WaitedFor uri d n) (hle : d.sequence ≤ d'.sequence)
    (htask : ∀ t, s.task? n = some t → ∃ t', s'.task? n = some t' ∧ t.Marked t') :
    s'.WaitedFor uri d' n := by
  obtain ⟨t, k, ht, hu, ho, hk, hw⟩ := h
  obtain ⟨t', ht', hm⟩ := htask t ht
  refine ⟨t', k, ht', ?_, ?_, Nat.le_trans hk hle, ?_⟩
  · rw [hm.document, hu]
  · rw [hm.origin, ho]
  · rw [hm.isWaiting, hm.stage]
    exact hw

/-! ### A step in general

Since a step concerns one document and one task only, consistency has to be looked at anew only for
these two. -/

section Step

variable {s s' : Schedule} {uri : String} {n : Nat}

theorem Consistent.life_lt_of_focus (h : Consistent s) (f : Focus s s' uri n) :
    ∀ v d, s'.tracked? v = some d → d.life < s'.nextLife := by
  intro v d hd
  by_cases hv : v = uri
  · subst hv
    rcases f.life d hd with ⟨d₀, hd₀, hl, -⟩ | ⟨-, hl, hlt⟩
    · rw [hl]
      exact Nat.lt_of_lt_of_le (h.life_lt v d₀ hd₀) f.nextLife_le
    · rw [hl]
      exact hlt
  · rw [f.docs v hv] at hd
    exact Nat.lt_of_lt_of_le (h.life_lt v d hd) f.nextLife_le

/-- The document concerned has no life that another one has. -/
theorem Consistent.life_ne_of_focus (h : Consistent s) (f : Focus s s' uri n) {v : String}
    {d e : Tracked} (hd : s'.tracked? uri = some d) (hv : v ≠ uri) (he : s'.tracked? v = some e) :
    d.life ≠ e.life := by
  rw [f.docs v hv] at he
  intro heq
  rcases f.life d hd with ⟨d₀, hd₀, hl, -⟩ | ⟨-, hl, -⟩
  · exact hv (h.life_inj v uri e d₀ he hd₀ (heq.symm.trans hl))
  · exact absurd (h.life_lt v e he) (by rw [← heq, hl]; exact Nat.lt_irrefl _)

theorem Consistent.life_inj_of_focus (h : Consistent s) (f : Focus s s' uri n) :
    ∀ u v d e, s'.tracked? u = some d → s'.tracked? v = some e → d.life = e.life → u = v := by
  intro u v d e hd he heq
  by_cases hu : u = uri
  · subst hu
    by_contra hne
    exact h.life_ne_of_focus f hd (Ne.symm hne) he heq
  · by_cases hv : v = uri
    · subst hv
      exact absurd heq.symm (h.life_ne_of_focus f he hu hd)
    · rw [f.docs u hu] at hd
      rw [f.docs v hv] at he
      exact h.life_inj u v d e hd he heq

theorem Consistent.pass_life_of_focus (h : Consistent s) (f : Focus s s' uri n)
    (hpass : ∀ t pass, s'.task? n = some t → t.stage = .linting pass →
      (∃ t₀, s.task? n = some t₀ ∧ t₀.stage = .linting pass) ∨
        ∃ d, s'.tracked? uri = some d ∧ d.life = pass.life) :
    ∀ m t pass, s'.task? m = some t → t.stage = .linting pass →
      pass.life < s'.nextLife ∧
        ∀ u d, s'.tracked? u = some d → d.life = pass.life → u = t.document.uri := by
  -- A pass that was under way before keeps apart from what the step does to the document.
  have hold : ∀ m t₀ pass, s.task? m = some t₀ → t₀.stage = .linting pass →
      pass.life < s'.nextLife ∧
        ∀ u d, s'.tracked? u = some d → d.life = pass.life → u = t₀.document.uri := by
    intro m t₀ pass ht₀ hstage
    obtain ⟨hlt, hlives⟩ := h.pass_life m t₀ pass ht₀ hstage
    refine ⟨Nat.lt_of_lt_of_le hlt f.nextLife_le, fun u d hd heq => ?_⟩
    by_cases hu : u = uri
    · subst hu
      rcases f.life d hd with ⟨d₀, hd₀, hl, -⟩ | ⟨-, hl, -⟩
      · exact hlives u d₀ hd₀ (hl.symm.trans heq)
      · rw [← heq, hl] at hlt
        exact absurd hlt (Nat.lt_irrefl _)
    · rw [f.docs u hu] at hd
      exact hlives u d hd heq
  intro m t pass ht hstage
  by_cases hm : m = n
  · subst hm
    have hown : t.document.uri = uri := f.own_after t ht
    rcases hpass t pass ht hstage with ⟨t₀, ht₀, hstage₀⟩ | ⟨d₀, hd₀, hl₀⟩
    · rw [hown, ← f.own_before t₀ ht₀]
      exact hold m t₀ pass ht₀ hstage₀
    · refine ⟨hl₀ ▸ h.life_lt_of_focus f uri d₀ hd₀, fun u d hd heq => ?_⟩
      rw [hown]
      exact h.life_inj_of_focus f u uri d d₀ hd hd₀ (heq.trans hl₀.symm)
  · obtain ⟨t₀, ht₀, hmark⟩ := f.task_before hm ht
    rw [hmark.document]
    exact hold m t₀ pass ht₀ (hmark.stage ▸ hstage)

/-- **Consistency has to be looked at anew for one document and one task only.** -/
theorem Consistent.of_focus (h : Consistent s) (f : Focus s s' uri n)
    (hnodup : s'.trackedUris.Nodup)
    (hpending : ∀ d m, s'.tracked? uri = some d → d.pending = some m → s'.WaitedFor uri d m)
    (hexpected : ∀ m t, s'.task? m = some t → t.document.uri = uri → t.isExpected = true →
      ∃ d, s'.tracked? uri = some d ∧ d.pending = some m)
    (hpass : ∀ t pass, s'.task? n = some t → t.stage = .linting pass →
      (∃ t₀, s.task? n = some t₀ ∧ t₀.stage = .linting pass) ∨
        ∃ d, s'.tracked? uri = some d ∧ d.life = pass.life) :
    Consistent s' where
  uris_nodup := hnodup
  life_lt := h.life_lt_of_focus f
  life_inj := h.life_inj_of_focus f
  pending_waits v d m hd hp := by
    by_cases hv : v = uri
    · subst hv
      exact hpending d m hd hp
    · rw [f.docs v hv] at hd
      have hw := h.pending_waits v d m hd hp
      refine hw.of_marked (Nat.le_refl _) fun t ht => f.task_after ?_ ht
      obtain ⟨t₀, -, ht₀, hu, -⟩ := hw
      exact f.ne_of_uri_ne ht₀ (hu ▸ hv)
  expected_pending m t ht he := by
    by_cases hu : t.document.uri = uri
    · rw [hu]
      exact hexpected m t ht hu he
    · have hm : m ≠ n := by
        rintro rfl
        exact hu (f.own_after t ht)
      obtain ⟨t₀, ht₀, hmark⟩ := f.task_before hm ht
      rw [f.docs _ hu, hmark.document]
      exact h.expected_pending m t₀ ht₀ (hmark.isExpected he)
  pass_life := h.pass_life_of_focus f hpass

/-- Moving a task that was there to another stage, with what is done to its document. The document
may cease to wait for the task, and ceases to wait for no other. -/
theorem Consistent.of_setStage (h : Consistent s) {t : Task} (ht : s.task? n = some t)
    {stage : Stage} {s₁ : Schedule} (f : Focus s (s₁.setStage n stage) t.document.uri n)
    (htasks : ∀ m, s₁.task? m = s.task? m)
    (hnodup : s₁.trackedUris.Nodup)
    (hpending : ∀ d' m, s₁.tracked? t.document.uri = some d' → d'.pending = some m →
      ∃ d, s.tracked? t.document.uri = some d ∧ d.pending = some m ∧
        (m = n → ({ t with stage } : Task).isWaiting = true ∨ stage = .done .cancelled))
    (hkept : ∀ d m, s.tracked? t.document.uri = some d → d.pending = some m →
      (m = n → ({ t with stage } : Task).isWaiting = true) →
        ∃ d', s₁.tracked? t.document.uri = some d' ∧ d'.pending = some m)
    (hwaiting : ({ t with stage } : Task).isWaiting = true → t.isWaiting = true)
    (hpass : ∀ pass, stage = .linting pass →
      ∃ d, s₁.tracked? t.document.uri = some d ∧ d.life = pass.life) :
    Consistent (s₁.setStage n stage) := by
  have hself : (s₁.setStage n stage).task? n = some { t with stage } := by
    rw [task?_setStage, if_pos rfl, htasks, ht, Option.map_some]
  have hother : ∀ m, m ≠ n → (s₁.setStage n stage).task? m = s.task? m := by
    intro m hm
    rw [task?_setStage, if_neg hm, htasks]
  refine h.of_focus f hnodup ?_ ?_ ?_
  · intro d' m hd' hp
    obtain ⟨d, hd, hp₀, hstage⟩ := hpending d' m hd' hp
    have hle : d.sequence ≤ d'.sequence := by
      rcases f.life d' hd' with ⟨d₀, hd₀, -, hle⟩ | ⟨hnone, -, -⟩
      · obtain rfl : d = d₀ := by simpa [hd] using hd₀
        exact hle
      · rw [hd] at hnone
        cases hnone
    obtain ⟨t₀, k, ht₀, hu, ho, hk, hw⟩ := h.pending_waits _ d m hd hp₀
    by_cases hm : m = n
    · subst hm
      obtain rfl : t = t₀ := by simpa [ht] using ht₀
      exact ⟨_, k, hself, hu, ho, Nat.le_trans hk hle, hstage rfl⟩
    · exact ⟨t₀, k, (hother m hm).trans ht₀, hu, ho, Nat.le_trans hk hle, hw⟩
  · intro m t' ht' hu he
    by_cases hm : m = n
    · subst hm
      obtain rfl : ({ t with stage } : Task) = t' := by simpa [hself] using ht'
      have hw : ({ t with stage } : Task).isWaiting = true := (Task.isExpected_iff.mp he).2.1
      have he₀ : t.isExpected = true :=
        Task.isExpected_iff.mpr ⟨(Task.isExpected_iff.mp he).1, hwaiting hw,
          (Task.isExpected_iff.mp he).2.2⟩
      obtain ⟨d, hd, hp⟩ := h.expected_pending m t ht he₀
      exact hkept d m hd hp fun _ => hw
    · rw [hother m hm] at ht'
      obtain ⟨d, hd, hp⟩ := h.expected_pending m t' ht' he
      rw [hu] at hd
      exact hkept d m hd hp fun hmn => absurd hmn hm
  · intro t' pass ht' hstage
    obtain rfl : ({ t with stage } : Task) = t' := by simpa [hself] using ht'
    exact .inr (hpass pass hstage)

/-- Moving a task past its delay, with a document that waits for it no longer. -/
theorem Consistent.of_past (h : Consistent s) {t : Task} (ht : s.task? n = some t)
    {stage : Stage} {s₁ : Schedule} (f : Focus s (s₁.setStage n stage) t.document.uri n)
    (htasks : ∀ m, s₁.task? m = s.task? m) (hnodup : s₁.trackedUris.Nodup)
    (hpast : ({ t with stage } : Task).isWaiting = false)
    (hpending : ∀ m, s₁.pendingOf t.document.uri = some m ↔
      s.pendingOf t.document.uri = some m ∧ m ≠ n)
    (hpass : ∀ pass, stage = .linting pass →
      ∃ d, s₁.tracked? t.document.uri = some d ∧ d.life = pass.life) :
    Consistent (s₁.setStage n stage) := by
  refine h.of_setStage ht f htasks hnodup ?_ ?_ ?_ hpass
  · intro d' m hd' hp
    obtain ⟨hpending₀, hm⟩ := (hpending m).mp (pendingOf_eq_some.mpr ⟨d', hd', hp⟩)
    obtain ⟨d, hd, hp₀⟩ := pendingOf_eq_some.mp hpending₀
    exact ⟨d, hd, hp₀, fun hmn => absurd hmn hm⟩
  · intro d m hd hp hstage
    have hm : m ≠ n := by
      intro hmn
      rw [hpast] at hstage
      exact absurd (hstage hmn) Bool.false_ne_true
    exact pendingOf_eq_some.mp ((hpending m).mpr ⟨pendingOf_eq_some.mpr ⟨d, hd, hp⟩, hm⟩)
  · intro hw
    rw [hpast] at hw
    cases hw

/-- A document never waits for a task that has called the linter. -/
theorem Consistent.pendingOf_ne_of_linting (h : Consistent s) {t : Task} {pass : Pass}
    (ht : s.task? n = some t) (hs : t.stage = .linting pass) (v : String) :
    s.pendingOf v ≠ some n := by
  intro hp
  obtain ⟨d, hd, hp⟩ := pendingOf_eq_some.mp hp
  obtain ⟨t', k, ht', -, -, -, hw⟩ := h.pending_waits v d n hd hp
  obtain rfl : t = t' := by simpa [ht] using ht'
  rcases hw with hw | hw
  · simp [Task.isWaiting, hs] at hw
  · rw [hs] at hw
    cases hw

end Step

/-! ### Each step -/

section Steps

variable {s : Schedule} (around : Surroundings)

/-- An empty schedule. -/
theorem consistent_empty (settings : Settings) (workspace : Option Path) :
    Consistent { settings, workspace } where
  uris_nodup := List.nodup_nil
  life_lt _ _ h := by cases h
  life_inj _ _ _ _ h := by cases h
  pending_waits _ _ _ h := by cases h
  expected_pending _ _ h := by cases h
  pass_life _ _ _ h := by cases h

theorem Consistent.follow_nodup (h : Consistent s) (uri : String) :
    (s.follow uri).1.trackedUris.Nodup := by
  rw [trackedUris_follow]
  cases hd : s.tracked? uri with
  | some d =>
    rw [if_neg (by simp)]
    exact h.uris_nodup
  | none =>
    rw [if_pos rfl]
    refine List.nodup_append.mpr ⟨h.uris_nodup, ?_, ?_⟩
    · exact List.nodup_cons.mpr ⟨List.not_mem_nil, List.nodup_nil⟩
    intro u hu v hv huv
    obtain rfl : v = uri := List.mem_singleton.mp hv
    obtain ⟨d, hd'⟩ := mem_trackedUris.mp (huv ▸ hu)
    rw [hd] at hd'
    cases hd'

theorem Consistent.enroll_nodup (h : Consistent s) (n : Nat) (t : Task) :
    ((s.release n t.document.uri).enroll t).trackedUris.Nodup := by
  have huris : (s.release n t.document.uri).trackedUris = s.trackedUris :=
    trackedUris_modify s t.document.uri _
  have hnone : (s.release n t.document.uri).tracked? t.document.uri = none ↔
      s.tracked? t.document.uri = none := by
    rw [tracked?_release, if_pos rfl, Option.map_eq_none_iff]
  have hfollow := h.follow_nodup t.document.uri
  rw [trackedUris_follow] at hfollow
  rw [trackedUris_enroll, trackedUris_follow, huris]
  simpa only [hnone] using hfollow

/-- A step that changes no document and only marks tasks. -/
theorem Consistent.of_marks (h : Consistent s) {s' : Schedule} {uri : String}
    (f : Focus s s' uri s.tasks.length) (hlen : s'.tasks.length = s.tasks.length)
    (hdocs : ∀ v, s'.tracked? v = s.tracked? v) (huris : s'.trackedUris = s.trackedUris) :
    Consistent s' := by
  have hne : ∀ {m t}, s'.task? m = some t → m ≠ s.tasks.length := by
    intro m t ht
    have hlt := task?_lt ht
    omega
  have hne₀ : ∀ {m t}, s.task? m = some t → m ≠ s.tasks.length := fun ht =>
    Nat.ne_of_lt (task?_lt ht)
  refine h.of_focus f (huris ▸ h.uris_nodup) ?_ ?_ ?_
  · intro d m hd hp
    rw [hdocs] at hd
    exact (h.pending_waits uri d m hd hp).of_marked (Nat.le_refl _) fun t ht =>
      f.task_after (hne₀ ht) ht
  · intro m t ht hu he
    obtain ⟨t₀, ht₀, hmark⟩ := f.task_before (hne ht) ht
    rw [hdocs, ← hu, hmark.document]
    exact h.expected_pending m t₀ ht₀ (hmark.isExpected he)
  · intro t pass ht
    exact absurd rfl (hne ht)

theorem Consistent.schedule (h : Consistent s) (document : Document) (delay : Option Binary64) :
    Consistent (s.schedule document delay).1 := by
  refine h.of_focus (focus_schedule s document delay) ?_ ?_ ?_ ?_
  · rw [trackedUris_schedule]
    exact h.follow_nodup document.uri
  · intro d m hd hp
    rw [tracked?_schedule, if_pos rfl] at hd
    cases hd
    obtain rfl : s.tasks.length = m := Option.some.inj hp
    refine ⟨s.scheduledTask document delay, _, ?_, rfl, rfl, Nat.le_refl _, .inl rfl⟩
    rw [task?_schedule, if_pos rfl]
  · intro m t ht hu he
    refine ⟨_, (tracked?_schedule s document delay _).trans (if_pos rfl), ?_⟩
    by_cases hm : m = s.tasks.length
    · exact congrArg some hm.symm
    · -- A task that was expected before is the one whose cancellation has just been asked for.
      exfalso
      obtain ⟨t₀, ht₀, hmark⟩ := (focus_schedule s document delay).task_before hm ht
      obtain ⟨d, hd, hp⟩ := h.expected_pending m t₀ ht₀ (hmark.isExpected he)
      rw [← hmark.document, hu] at hd
      rw [task?_schedule, if_neg hm, if_pos (by rw [entry_of_tracked hd, hp]), ht₀] at ht
      obtain rfl : t₀.requestCancel = t := Option.some.inj ht
      have hw := (Task.isExpected_iff.mp he).2.1
      rw [Task.requestCancel_isWaiting] at hw
      have hc := (Task.isExpected_iff.mp he).2.2
      rw [Task.requestCancel_cancelRequested (Task.isDone_of_isWaiting hw)] at hc
      cases hc
  · intro t pass ht hstage
    rw [task?_schedule, if_pos rfl] at ht
    cases ht
    cases hstage

theorem Consistent.validate (h : Consistent s) (document : Document) (sequence : Option Int) :
    Consistent (s.validate document sequence).1 := by
  have f := focus_validate s document sequence
  refine h.of_focus f h.uris_nodup ?_ ?_ ?_
  · intro d m hd hp
    refine (h.pending_waits _ d m hd hp).of_marked (Nat.le_refl _) fun t ht => ?_
    exact f.task_after (Nat.ne_of_lt (task?_lt ht)) ht
  · intro m t ht hu he
    by_cases hm : m = s.tasks.length
    · rw [task?_validate, if_pos hm] at ht
      cases ht
      cases he
    · rw [task?_validate, if_neg hm] at ht
      obtain ⟨d, hd, hp⟩ := h.expected_pending m t ht he
      exact ⟨d, hu ▸ hd, hp⟩
  · intro t pass ht hstage
    rw [task?_validate, if_pos rfl] at ht
    cases ht
    cases hstage

theorem Consistent.close (h : Consistent s) (uri : String) :
    Consistent (Schedule.close around s uri).1 := by
  have f := focus_close s around uri
  refine h.of_focus f ?_ ?_ ?_ ?_
  · rw [trackedUris_close]
    exact h.uris_nodup.filter _
  · intro d m hd hp
    rw [tracked?_close, if_pos rfl] at hd
    cases hd
  · intro m t ht hu he
    exfalso
    have hm : m ≠ s.tasks.length := by
      have hlt := task?_lt ht
      rw [length_tasks_close] at hlt
      exact Nat.ne_of_lt hlt
    obtain ⟨t₀, ht₀, hmark⟩ := f.task_before hm ht
    obtain ⟨d, hd, hp⟩ := h.expected_pending m t₀ ht₀ (hmark.isExpected he)
    rw [← hmark.document, hu] at hd
    have hpending : s.pendingOf uri = some m := by
      rw [pendingOf, hd]
      exact hp
    rw [task?_close, if_pos hpending, ht₀] at ht
    obtain rfl : t₀.requestCancel = t := Option.some.inj ht
    have hw := (Task.isExpected_iff.mp he).2.1
    rw [Task.requestCancel_isWaiting] at hw
    have hc := (Task.isExpected_iff.mp he).2.2
    rw [Task.requestCancel_cancelRequested (Task.isDone_of_isWaiting hw)] at hc
    cases hc
  · intro t pass ht
    have hlt := task?_lt ht
    rw [length_tasks_close] at hlt
    exact absurd hlt (Nat.lt_irrefl _)

theorem Consistent.shutdown (h : Consistent s) : Consistent s.shutdown.1 :=
  h.of_marks (focus_shutdown s "") (length_tasks_shutdown s)
    (fun v => tracked?_shutdown s v) (trackedUris_shutdown s)

theorem Consistent.configure (h : Consistent s) (settings : Settings) :
    Consistent { s with settings } := by
  have f : Focus s { s with settings } "" s.tasks.length :=
    focus_of_eq "" (fun _ => rfl) (fun _ => rfl) rfl
  exact h.of_marks f rfl (fun _ => rfl) rfl

theorem Consistent.moveTo (h : Consistent s) (workspace : Option Path) :
    Consistent { s with workspace } := by
  have f : Focus s { s with workspace } "" s.tasks.length :=
    focus_of_eq "" (fun _ => rfl) (fun _ => rfl) rfl
  exact h.of_marks f rfl (fun _ => rfl) rfl

theorem Consistent.resume (h : Consistent s) (n : Nat) :
    Consistent (Schedule.resume around s n).1 := by
  cases ht : s.task? n with
  | none =>
    rw [resume_of_absent around ht]
    exact h
  | some t =>
    have f := focus_resume around ht
    generalize hx : Schedule.resume around s n = x at f
    have hcases := resume_cases around ht
    rw [hx] at hcases
    cases hcases with
    | idle => exact h
    | cancelled waiting cancelled =>
      refine h.of_setStage ht f (fun _ => rfl) h.uris_nodup ?_ ?_ ?_ ?_
      · exact fun d' m hd' hp => ⟨d', hd', hp, fun _ => .inr rfl⟩
      · exact fun d m hd hp _ => ⟨d, hd, hp⟩
      · exact fun _ => waiting
      · exact fun pass hpass => by cases hpass
    | slept delay stage kept =>
      refine h.of_setStage ht f (fun _ => rfl) h.uris_nodup ?_ ?_ ?_ ?_
      · exact fun d' m hd' hp => ⟨d', hd', hp, fun _ => .inl rfl⟩
      · exact fun d m hd hp _ => ⟨d, hd, hp⟩
      · exact fun _ => by simp [Task.isWaiting, stage]
      · exact fun pass hpass => by cases hpass
    | unreadable | skipped =>
      refine h.of_past ht f (fun _ => rfl) ?_ rfl (fun m => pendingOf_release) ?_
      · exact trackedUris_modify s _ _ ▸ h.uris_nodup
      · exact fun pass hpass => by cases hpass
    | stuck =>
      refine h.of_past ht f (fun m => by simp [release]) ?_ rfl ?_ ?_
      · rw [trackedUris_leave]
        exact h.enroll_nodup n t
      · intro m
        rw [pendingOf_leave, pendingOf_enroll, pendingOf_release]
      · exact fun pass hpass => by cases hpass
    | called file call =>
      refine h.of_past ht f (fun m => by simp [release]) (h.enroll_nodup n t) rfl ?_ ?_
      · intro m
        rw [pendingOf_enroll, pendingOf_release]
      · intro pass hpass
        cases hpass
        refine ⟨_, (tracked?_enroll _ t _).trans (if_pos rfl), ?_⟩
        simp [enrolled, passOf]

theorem Consistent.complete (h : Consistent s) (n : Nat) (answer : Except Mishap ToolOutput) :
    Consistent (Schedule.complete around s n answer).1 := by
  by_cases hlint : ∃ t pass, s.task? n = some t ∧ t.stage = .linting pass
  · obtain ⟨t, pass, ht, hs⟩ := hlint
    have f := focus_complete around ht answer
    have hne := h.pendingOf_ne_of_linting ht hs
    have hleave : ∀ m, (s.leave t.document.uri pass.life).pendingOf t.document.uri = some m ↔
        s.pendingOf t.document.uri = some m ∧ m ≠ n := by
      intro m
      rw [pendingOf_leave]
      refine ⟨fun hp => ⟨hp, ?_⟩, fun hp => hp.1⟩
      rintro rfl
      exact hne _ hp
    generalize hx : Schedule.complete around s n answer = x at f
    have hcases := complete_cases around answer ht hs
    rw [hx] at hcases
    cases hcases with
    | cancelled | failed | outdated =>
      refine h.of_past ht f (fun _ => rfl) ?_ rfl hleave fun pass hpass => by cases hpass
      exact trackedUris_leave s _ _ ▸ h.uris_nodup
    | published | undelivered =>
      refine h.of_past ht f (fun _ => rfl) ?_ rfl ?_ fun pass hpass => by cases hpass
      · rw [record, trackedUris_modify, trackedUris_leave]
        exact h.uris_nodup
      · intro m
        rw [pendingOf_record]
        exact hleave m
  · rw [complete_of_not_linting around answer fun t pass ht hs => hlint ⟨t, pass, ht, hs⟩]
    exact h

/-- **Every step keeps a schedule consistent.** -/
theorem Consistent.step (h : Consistent s) (e : Event) :
    Consistent (Schedule.step around s e).1 := by
  cases e with
  | schedule document delay => exact h.schedule document delay
  | validate document sequence => exact h.validate document sequence
  | close uri => exact h.close around uri
  | shutdown => exact h.shutdown
  | configure settings => exact h.configure settings
  | moveTo workspace => exact h.moveTo workspace
  | resume n => exact h.resume around n
  | complete n answer => exact h.complete around n answer

/-- **Every run keeps a schedule consistent.** -/
theorem Consistent.run (h : Consistent s) (es : List Event) :
    Consistent (Schedule.run around s es).1 := by
  induction es generalizing s with
  | nil => exact h
  | cons e rest ih => exact ih (h.step around e)

end Steps

end Schedule

end LintBridge
