import LintBridge.Proofs.Schedule.Transition

/-!
# A step concerns one document and one task

Whatever happens to a schedule happens to one document and to one task
(`LintBridge.Schedule.Focus`): all other documents stay as they are, and of all other tasks no more
is changed than that their cancellation may be asked for. Which document and which task it is can be
told before the step (`LintBridge.Schedule.Event.uri`, `LintBridge.Schedule.Event.task`), and
`LintBridge.Schedule.step_focus` says that it is no other.

The document itself either keeps its life, with a number that does not go back, or begins one that
no document has had before.
-/

namespace LintBridge

namespace Schedule

/-! ### Marked tasks -/

/-- **One task is another that may have been marked** for cancellation in the meantime. -/
structure Task.Marked (t t' : Task) : Prop where
  /-- The document is the same. -/
  document : t'.document = t.document
  /-- The origin is the same. -/
  origin : t'.origin = t.origin
  /-- The stage is the same. -/
  stage : t'.stage = t.stage
  /-- A mark that was there is there still. -/
  kept : t'.cancelRequested = false → t.cancelRequested = false

namespace Task.Marked

variable {t t' : Task}

protected theorem rfl (t : Task) : t.Marked t :=
  ⟨Eq.refl _, Eq.refl _, Eq.refl _, id⟩

theorem requestCancel (t : Task) : t.Marked t.requestCancel :=
  ⟨t.requestCancel_document, t.requestCancel_origin, t.requestCancel_stage,
    Task.cancelRequested_of_requestCancel⟩

theorem isScheduled (h : t.Marked t') : t'.isScheduled = t.isScheduled := by
  simp only [Task.isScheduled, h.origin]

theorem isWaiting (h : t.Marked t') : t'.isWaiting = t.isWaiting := by
  simp only [Task.isWaiting, h.stage]

theorem isDone (h : t.Marked t') : t'.isDone = t.isDone := by
  simp only [Task.isDone, h.stage]

end Task.Marked

/-! ### Lives and numbers that stay -/

/-- **Documents keep their lives and their numbers**, whatever else of what is known of them
changes. None is followed anew. -/
def Keeps (s s' : Schedule) : Prop :=
  ∀ v d', s'.tracked? v = some d' →
    ∃ d, s.tracked? v = some d ∧ d'.life = d.life ∧ d'.sequence = d.sequence

section Keeps

variable {s s' s'' : Schedule}

theorem Keeps.of_eq (h : ∀ v, s'.tracked? v = s.tracked? v) : Keeps s s' := by
  intro v d' hd'
  exact ⟨d', h v ▸ hd', rfl, rfl⟩

theorem Keeps.trans (h : Keeps s s') (h' : Keeps s' s'') : Keeps s s'' := by
  intro v d'' hd''
  obtain ⟨d', hd', hl', hq'⟩ := h' v d'' hd''
  obtain ⟨d, hd, hl, hq⟩ := h v d' hd'
  exact ⟨d, hd, hl'.trans hl, hq'.trans hq⟩

theorem Keeps.setStage (h : Keeps s s') (n : Nat) (stage : Stage) :
    Keeps s (s'.setStage n stage) :=
  h

/-- A change of one document that leaves its life and its number alone. -/
theorem keeps_modify (s : Schedule) (uri : String) {f : Tracked → Tracked}
    (hf : ∀ d, (f d).life = d.life ∧ (f d).sequence = d.sequence) : Keeps s (s.modify uri f) := by
  intro v d' hd'
  rw [tracked?_modify] at hd'
  by_cases hv : v = uri
  · rw [if_pos hv, Option.map_eq_some_iff] at hd'
    obtain ⟨d, hd, rfl⟩ := hd'
    exact ⟨d, hd, hf d⟩
  · rw [if_neg hv] at hd'
    exact ⟨d', hd', rfl, rfl⟩

theorem keeps_release (s : Schedule) (n : Nat) (uri : String) : Keeps s (s.release n uri) :=
  keeps_modify s uri fun d => ⟨d.release_life n, d.release_sequence n⟩

theorem keeps_leave (s : Schedule) (uri : String) (life : Nat) : Keeps s (s.leave uri life) :=
  keeps_modify s uri fun d => ⟨d.leave_life life, d.leave_sequence life⟩

theorem keeps_record (s : Schedule) (uri : String) (records : List Record) :
    Keeps s (s.record uri records) :=
  keeps_modify s uri fun _ => ⟨rfl, rfl⟩

/-- A task that has a number of its own takes no other when it begins. -/
theorem keeps_enroll {t : Task} {d : Tracked} {k : Int} (hd : s.tracked? t.document.uri = some d)
    (hk : t.sequence? = some k) : Keeps s (s.enroll t) := by
  intro v d' hd'
  rw [tracked?_enroll] at hd'
  by_cases hv : v = t.document.uri
  · rw [if_pos hv] at hd'
    cases hd'
    refine ⟨d, hv ▸ hd, ?_, ?_⟩
    · simp only [enrolled, entry_of_tracked hd]
    · simp only [enrolled, entry_of_tracked hd, hk, Option.isNone_some, if_false,
        Bool.false_eq_true]
  · rw [if_neg hv] at hd'
    exact ⟨d', hd', rfl, rfl⟩

/-- Closing a document leaves the others alone. -/
theorem keeps_close (s : Schedule) (around : Surroundings) (uri : String) :
    Keeps s (close around s uri).1 := by
  intro v d' hd'
  rw [tracked?_close] at hd'
  by_cases hv : v = uri
  · rw [if_pos hv] at hd'
    cases hd'
  · rw [if_neg hv] at hd'
    exact ⟨d', hd', rfl, rfl⟩

/-- An answer of the linter changes neither lives nor numbers. -/
theorem keeps_complete (s : Schedule) (around : Surroundings) (n : Nat)
    (answer : Except Mishap ToolOutput) : Keeps s (complete around s n answer).1 := by
  by_cases hlint : ∃ t pass, s.task? n = some t ∧ t.stage = .linting pass
  · obtain ⟨t, pass, ht, hs⟩ := hlint
    have hleave := keeps_leave s t.document.uri pass.life
    generalize hx : complete around s n answer = x
    have hcases := complete_cases around answer ht hs
    rw [hx] at hcases
    cases hcases with
    | cancelled | failed | outdated => exact hleave.setStage n _
    | published | undelivered => exact (hleave.trans (keeps_record _ _ _)).setStage n _
  · rw [complete_of_not_linting around answer fun t pass ht hs => hlint ⟨t, pass, ht, hs⟩]
    exact .of_eq fun _ => rfl

end Keeps

/-! ### One document and one task -/

/-- **What a step leaves alone** when it concerns the document `uri` and the task `n`. -/
structure Focus (s s' : Schedule) (uri : String) (n : Nat) : Prop where
  /-- Other documents stay as they are. -/
  docs : ∀ v, v ≠ uri → s'.tracked? v = s.tracked? v
  /-- Other tasks are at most marked. -/
  tasks : ∀ m, m ≠ n → s'.task? m = s.task? m ∨ s'.task? m = (s.task? m).map Task.requestCancel
  /-- Lives that have been given out stay given out. -/
  nextLife_le : s.nextLife ≤ s'.nextLife
  /-- The document keeps its life or begins a new one. -/
  life : ∀ d', s'.tracked? uri = some d' →
    (∃ d, s.tracked? uri = some d ∧ d'.life = d.life ∧ d.sequence ≤ d'.sequence) ∨
      (s.tracked? uri = none ∧ d'.life = s.nextLife ∧ s.nextLife < s'.nextLife)
  /-- The task is one of the document, before the step. -/
  own_before : ∀ t, s.task? n = some t → t.document.uri = uri
  /-- The task is one of the document, after the step. -/
  own_after : ∀ t, s'.task? n = some t → t.document.uri = uri

namespace Focus

variable {s s' : Schedule} {uri : String} {n : Nat}

/-- Another task was there before, up to a mark. -/
theorem task_before (h : Focus s s' uri n) {m : Nat} (hm : m ≠ n) {t' : Task}
    (ht : s'.task? m = some t') : ∃ t, s.task? m = some t ∧ t.Marked t' := by
  rcases h.tasks m hm with heq | heq
  · exact ⟨t', heq ▸ ht, .rfl t'⟩
  · rw [heq, Option.map_eq_some_iff] at ht
    obtain ⟨t, ht, rfl⟩ := ht
    exact ⟨t, ht, .requestCancel t⟩

/-- Another task is still there, up to a mark. -/
theorem task_after (h : Focus s s' uri n) {m : Nat} (hm : m ≠ n) {t : Task}
    (ht : s.task? m = some t) : ∃ t', s'.task? m = some t' ∧ t.Marked t' := by
  rcases h.tasks m hm with heq | heq
  · exact ⟨t, heq ▸ ht, .rfl t⟩
  · exact ⟨t.requestCancel, by rw [heq, ht, Option.map_some], .requestCancel t⟩

/-- A task of another document is not the one concerned. -/
theorem ne_of_uri_ne (h : Focus s s' uri n) {m : Nat} {t : Task} (ht : s.task? m = some t)
    (hu : t.document.uri ≠ uri) : m ≠ n := by
  rintro rfl
  exact hu (h.own_before t ht)

end Focus

/-- A document that keeps its life and its number goes on in one of the ways allowed. -/
theorem Keeps.life {s s' : Schedule} (h : Keeps s s') (next : Nat) {uri : String} {d' : Tracked}
    (hd' : s'.tracked? uri = some d') :
    (∃ d, s.tracked? uri = some d ∧ d'.life = d.life ∧ d.sequence ≤ d'.sequence) ∨
      (s.tracked? uri = none ∧ d'.life = s.nextLife ∧ s.nextLife < next) := by
  obtain ⟨d, hd, hl, hq⟩ := h uri d' hd'
  exact .inl ⟨d, hd, hl, Nat.le_of_eq hq.symm⟩

/-! ### What each operation leaves alone -/

section Operations

variable (s : Schedule) (around : Surroundings)

/-- Where nothing but the settings is changed, nothing is concerned. -/
theorem focus_of_eq {s s' : Schedule} (uri : String) (hd : ∀ v, s'.tracked? v = s.tracked? v)
    (ht : ∀ m, s'.task? m = s.task? m) (hl : s'.nextLife = s.nextLife) :
    Focus s s' uri s.tasks.length where
  docs v _ := hd v
  tasks m _ := .inl (ht m)
  nextLife_le := Nat.le_of_eq hl.symm
  life d' hd' := .inl ⟨d', hd uri ▸ hd', rfl, Nat.le_refl _⟩
  own_before _ h := absurd (task?_lt h) (Nat.lt_irrefl _)
  own_after _ h := absurd (task?_lt (ht _ ▸ h)) (Nat.lt_irrefl _)

/-- What becomes of a life when a document is followed. -/
theorem life_follow (uri : String) :
    (∃ d, s.tracked? uri = some d ∧ s.entry uri = d ∧ (s.follow uri).1.nextLife = s.nextLife) ∨
      (s.tracked? uri = none ∧ s.entry uri = { life := s.nextLife } ∧
        (s.follow uri).1.nextLife = s.nextLife + 1) := by
  rw [nextLife_follow]
  cases h : s.tracked? uri with
  | none => exact .inr ⟨rfl, entry_of_untracked h, by simp⟩
  | some d => exact .inl ⟨d, rfl, entry_of_tracked h, by simp⟩

theorem focus_schedule (document : Document) (delay : Option Binary64) :
    Focus s (s.schedule document delay).1 document.uri s.tasks.length where
  docs v hv := by rw [tracked?_schedule, if_neg hv]
  tasks m hm := by
    rw [task?_schedule, if_neg hm]
    by_cases hp : (s.entry document.uri).pending = some m
    · exact .inr (if_pos hp)
    · exact .inl (if_neg hp)
  nextLife_le := by
    rw [nextLife_schedule]
    rcases life_follow s document.uri with ⟨_, _, _, hl⟩ | ⟨_, _, hl⟩ <;> omega
  life d' hd' := by
    rw [tracked?_schedule, if_pos rfl] at hd'
    cases hd'
    rw [nextLife_schedule]
    rcases life_follow s document.uri with ⟨d, hd, he, hl⟩ | ⟨hd, he, hl⟩
    · exact .inl ⟨d, hd, by simp only [scheduledEntry, he], by simp [scheduledEntry, he]⟩
    · have hlife : (s.scheduledEntry document).life = s.nextLife := by
        simp only [scheduledEntry, he]
      exact .inr ⟨hd, hlife, by omega⟩
  own_before _ h := absurd (task?_lt h) (Nat.lt_irrefl _)
  own_after t h := by
    rw [task?_schedule, if_pos rfl] at h
    cases h
    rfl

theorem focus_validate (document : Document) (sequence : Option Int) :
    Focus s (s.validate document sequence).1 document.uri s.tasks.length where
  docs v _ := rfl
  tasks m hm := .inl (by rw [task?_validate, if_neg hm])
  nextLife_le := Nat.le_refl _
  life d' hd' := .inl ⟨d', hd', rfl, Nat.le_refl _⟩
  own_before _ h := absurd (task?_lt h) (Nat.lt_irrefl _)
  own_after t h := by
    rw [task?_validate, if_pos rfl] at h
    cases h
    rfl

theorem focus_close (uri : String) : Focus s (close around s uri).1 uri s.tasks.length where
  docs v hv := by rw [tracked?_close, if_neg hv]
  tasks m _ := by
    rw [task?_close]
    by_cases hp : s.pendingOf uri = some m
    · exact .inr (if_pos hp)
    · exact .inl (if_neg hp)
  nextLife_le := Nat.le_of_eq (nextLife_close s around uri).symm
  life d' hd' := by
    rw [tracked?_close, if_pos rfl] at hd'
    cases hd'
  own_before _ h := absurd (task?_lt h) (Nat.lt_irrefl _)
  own_after t h := by
    have hlt := task?_lt h
    rw [length_tasks_close] at hlt
    exact absurd hlt (Nat.lt_irrefl _)

theorem focus_shutdown (uri : String) : Focus s s.shutdown.1 uri s.tasks.length where
  docs v _ := tracked?_shutdown s v
  tasks m _ := by
    rw [task?_shutdown]
    cases s.task? m with
    | none => exact .inl rfl
    | some t =>
      by_cases hs : t.isScheduled
      · exact .inr (by simp [hs])
      · exact .inl (by simp [hs])
  nextLife_le := Nat.le_of_eq (nextLife_shutdown s).symm
  life d' hd' := .inl ⟨d', tracked?_shutdown s uri ▸ hd', rfl, Nat.le_refl _⟩
  own_before _ h := absurd (task?_lt h) (Nat.lt_irrefl _)
  own_after t h := by
    have hlt := task?_lt h
    rw [length_tasks_shutdown] at hlt
    exact absurd hlt (Nat.lt_irrefl _)

/-- Moving a task to another stage concerns that task, whatever is done to its document with it. -/
theorem focus_setStage {s s₁ : Schedule} {n : Nat} {t : Task} (ht : s.task? n = some t)
    (stage : Stage) (htasks : ∀ m, s₁.task? m = s.task? m)
    (hdocs : ∀ v, v ≠ t.document.uri → s₁.tracked? v = s.tracked? v)
    (hnext : s.nextLife ≤ s₁.nextLife)
    (hlife : ∀ d', s₁.tracked? t.document.uri = some d' →
      (∃ d, s.tracked? t.document.uri = some d ∧ d'.life = d.life ∧ d.sequence ≤ d'.sequence) ∨
        (s.tracked? t.document.uri = none ∧ d'.life = s.nextLife ∧ s.nextLife < s₁.nextLife)) :
    Focus s (s₁.setStage n stage) t.document.uri n where
  docs v hv := hdocs v hv
  tasks m hm := .inl (by rw [task?_setStage, if_neg hm, htasks])
  nextLife_le := hnext
  life d' hd' := hlife d' hd'
  own_before t' ht' := by
    rw [ht] at ht'
    cases ht'
    rfl
  own_after t' ht' := by
    rw [task?_setStage, if_pos rfl, htasks, ht] at ht'
    cases ht'
    rfl

/-- What becomes of a life when a validation of the document begins. -/
theorem life_enroll (n : Nat) (t : Task) :
    ∀ d', ((s.release n t.document.uri).enroll t).tracked? t.document.uri = some d' →
      (∃ d, s.tracked? t.document.uri = some d ∧ d'.life = d.life ∧ d.sequence ≤ d'.sequence) ∨
        (s.tracked? t.document.uri = none ∧ d'.life = s.nextLife ∧
          s.nextLife < ((s.release n t.document.uri).enroll t).nextLife) := by
  intro d' hd'
  rw [tracked?_enroll, if_pos rfl] at hd'
  cases hd'
  have hlife : ((s.release n t.document.uri).enrolled t).life = (s.entry t.document.uri).life := by
    simp [enrolled]
  have hle : (s.entry t.document.uri).sequence ≤
      ((s.release n t.document.uri).enrolled t).sequence := by
    simp only [enrolled, entry_release, Tracked.release_sequence]
    split <;> omega
  have hnext : ((s.release n t.document.uri).enroll t).nextLife =
      (s.follow t.document.uri).1.nextLife := by
    rw [nextLife_enroll, nextLife_follow, nextLife_follow, tracked?_release, if_pos rfl]
    simp [release]
  rcases life_follow s t.document.uri with ⟨d, hd, he, hl⟩ | ⟨hd, he, hl⟩
  · refine .inl ⟨d, hd, ?_, ?_⟩
    · rw [hlife, he]
    · rw [← he]
      exact hle
  · refine .inr ⟨hd, ?_, ?_⟩
    · rw [hlife, he]
    · rw [hnext, hl]
      omega

theorem nextLife_le_enroll (n : Nat) (t : Task) :
    s.nextLife ≤ ((s.release n t.document.uri).enroll t).nextLife := by
  rw [nextLife_enroll, nextLife_follow]
  split
  · exact Nat.le_succ _
  · exact Nat.le_refl _

theorem focus_resume {s : Schedule} {n : Nat} {t : Task} (ht : s.task? n = some t) :
    Focus s (resume around s n).1 t.document.uri n := by
  have henroll : ∀ v, v ≠ t.document.uri →
      ((s.release n t.document.uri).enroll t).tracked? v = s.tracked? v := by
    intro v hv
    rw [tracked?_enroll, if_neg hv, tracked?_release, if_neg hv]
  have hleave : ∀ v life, v ≠ t.document.uri →
      (((s.release n t.document.uri).enroll t).leave t.document.uri life).tracked? v =
        s.tracked? v := by
    intro v life hv
    rw [tracked?_leave, if_neg hv, henroll v hv]
  generalize hx : resume around s n = x
  have hcases := resume_cases around ht
  rw [hx] at hcases
  cases hcases with
  | idle =>
    refine ⟨fun _ _ => rfl, fun _ _ => .inl rfl, Nat.le_refl _,
      fun d' hd' => .inl ⟨d', hd', rfl, Nat.le_refl _⟩, ?_, ?_⟩
    · intro t' ht'
      rw [ht] at ht'
      cases ht'
      rfl
    · intro t' ht'
      rw [ht] at ht'
      cases ht'
      rfl
  | cancelled | slept =>
    exact focus_setStage ht _ (fun _ => rfl) (fun _ _ => rfl) (Nat.le_refl _)
      fun d' hd' => .inl ⟨d', hd', rfl, Nat.le_refl _⟩
  | unreadable | skipped =>
    exact focus_setStage ht _ (fun _ => rfl)
      (fun v hv => by rw [tracked?_release, if_neg hv]) (Nat.le_refl _)
      fun d' hd' => (keeps_release s n _).life _ hd'
  | stuck =>
    refine focus_setStage ht _ (fun m => by simp [release]) (fun v hv => hleave v _ hv)
      (nextLife_le_enroll s n t) ?_
    intro d' hd'
    obtain ⟨d₁, hd₁, hlife, hle⟩ := keeps_leave _ _ _ _ d' hd'
    rcases life_enroll s n t d₁ hd₁ with ⟨d, hd, hl, hq⟩ | ⟨hd, hl, hq⟩
    · exact .inl ⟨d, hd, hlife.trans hl, hle ▸ hq⟩
    · exact .inr ⟨hd, hlife.trans hl, hq⟩
  | called =>
    exact focus_setStage ht _ (fun m => by simp [release]) henroll
      (nextLife_le_enroll s n t) (life_enroll s n t)

theorem focus_complete {s : Schedule} {n : Nat} {t : Task} (ht : s.task? n = some t)
    (answer : Except Mishap ToolOutput) :
    Focus s (complete around s n answer).1 t.document.uri n := by
  have hkeeps := keeps_complete s around n answer
  by_cases hlint : ∃ pass, t.stage = .linting pass
  · obtain ⟨pass, hstage⟩ := hlint
    have hother : ∀ v, v ≠ t.document.uri →
        (s.leave t.document.uri pass.life).tracked? v = s.tracked? v := by
      intro v hv
      rw [tracked?_leave, if_neg hv]
    generalize hx : complete around s n answer = x at hkeeps
    have hcases := complete_cases around answer ht hstage
    rw [hx] at hcases
    cases hcases with
    | cancelled | failed | outdated =>
      exact focus_setStage ht _ (fun _ => rfl) hother (Nat.le_refl _)
        fun d' hd' => hkeeps.life _ hd'
    | published | undelivered =>
      exact focus_setStage ht _ (fun _ => rfl)
        (fun v hv => by rw [tracked?_record, if_neg hv, hother v hv]) (Nat.le_refl _)
        fun d' hd' => hkeeps.life _ hd'
  · have hsame : complete around s n answer = (s, []) := by
      refine complete_of_not_linting around answer fun t' pass ht' hp => hlint ⟨pass, ?_⟩
      rw [ht] at ht'
      cases ht'
      exact hp
    rw [hsame]
    have hown : ∀ t', s.task? n = some t' → t'.document.uri = t.document.uri := by
      intro t' ht'
      rw [ht] at ht'
      cases ht'
      rfl
    exact ⟨fun _ _ => rfl, fun _ _ => .inl rfl, Nat.le_refl _,
      fun d' hd' => .inl ⟨d', hd', rfl, Nat.le_refl _⟩, hown, hown⟩

end Operations

/-! ### Every step -/

/-- The task that an event concerns: its own, or the one it creates. -/
def Event.task (s : Schedule) : Event → Nat
  | .resume n => n
  | .complete n _ => n
  | _ => s.tasks.length

/-- The document that an event concerns, if it concerns one. -/
def Event.uri (s : Schedule) : Event → Option String
  | .schedule document _ => some document.uri
  | .validate document _ => some document.uri
  | .close uri => some uri
  | .resume n => (s.task? n).map (·.document.uri)
  | .complete n _ => (s.task? n).map (·.document.uri)
  | _ => none

/-- **A step concerns its document and its task only.** Where it has no document, any will do. -/
theorem step_focus (around : Surroundings) (s : Schedule) (e : Event) (other : String) :
    Focus s (step around s e).1 ((e.uri s).getD other) (e.task s) := by
  have hidle : ∀ n, s.task? n = none → ∀ uri, Focus s s uri n := by
    intro n hn uri
    exact ⟨fun _ _ => rfl, fun _ _ => .inl rfl, Nat.le_refl _,
      fun d' hd' => .inl ⟨d', hd', rfl, Nat.le_refl _⟩, by simp [hn], by simp [hn]⟩
  cases e with
  | schedule document delay => exact focus_schedule s document delay
  | validate document sequence => exact focus_validate s document sequence
  | close uri => exact focus_close s around uri
  | shutdown => exact focus_shutdown s other
  | configure settings =>
    exact focus_of_eq other (fun _ => rfl) (fun _ => rfl) rfl
  | moveTo workspace =>
    exact focus_of_eq other (fun _ => rfl) (fun _ => rfl) rfl
  | resume n =>
    cases ht : s.task? n with
    | none => simpa [step, Event.task, resume_of_absent around ht] using hidle n ht _
    | some t => simpa [step, Event.task, Event.uri, ht] using focus_resume around ht
  | complete n answer =>
    cases ht : s.task? n with
    | none =>
      have hsame : complete around s n answer = (s, []) :=
        complete_of_not_linting around answer (by simp [ht])
      simpa [step, Event.task, hsame] using hidle n ht _
    | some t => simpa [step, Event.task, Event.uri, ht] using focus_complete around ht answer

/-! ### Tasks go forward -/

/-- **One task is another at a later time.** -/
structure Task.Progress (t t' : Task) : Prop where
  /-- The document is the same. -/
  document : t'.document = t.document
  /-- The origin is the same. -/
  origin : t'.origin = t.origin
  /-- A task does not go back to waiting. -/
  waiting : t'.isWaiting = true → t.isWaiting = true
  /-- A task that is over stays as it ended. -/
  outcome : ∀ o, t.stage = .done o → t'.stage = .done o

theorem Task.Marked.progress {t t' : Task} (h : t.Marked t') : t.Progress t' where
  document := h.document
  origin := h.origin
  waiting hw := h.isWaiting ▸ hw
  outcome _ ho := h.stage.trans ho

theorem Task.Progress.trans {t t' t'' : Task} (h : t.Progress t') (h' : t'.Progress t'') :
    t.Progress t'' where
  document := h'.document.trans h.document
  origin := h'.origin.trans h.origin
  waiting hw := h.waiting (h'.waiting hw)
  outcome o ho := h'.outcome o (h.outcome o ho)

theorem Task.isDone_iff {t : Task} : t.isDone = true ↔ ∃ o, t.stage = .done o := by
  unfold Task.isDone
  cases t.stage <;> simp

theorem Task.Progress.done {t t' : Task} (h : t.Progress t') (hd : t.isDone = true) :
    t'.isDone = true := by
  obtain ⟨o, ho⟩ := Task.isDone_iff.mp hd
  exact Task.isDone_iff.mpr ⟨o, h.outcome o ho⟩

theorem Task.Progress.isScheduled {t t' : Task} (h : t.Progress t') :
    t'.isScheduled = t.isScheduled := by
  simp only [Task.isScheduled, h.origin]

theorem Task.Progress.sequence? {t t' : Task} (h : t.Progress t') : t'.sequence? = t.sequence? := by
  simp only [Task.sequence?, h.origin]

/-- Where a task that is not over is moved to. -/
theorem Task.progress_setStage {t : Task} {stage : Stage} (hd : t.isDone = false)
    (hw : ({ t with stage } : Task).isWaiting = true → t.isWaiting = true) :
    t.Progress { t with stage } where
  document := rfl
  origin := rfl
  waiting := hw
  outcome o ho := by
    rw [Task.isDone_iff.mpr ⟨o, ho⟩] at hd
    cases hd

section Progress

variable (around : Surroundings) {s : Schedule}

/-- The task that is resumed itself. -/
theorem progress_resume {n : Nat} {t : Task} (ht : s.task? n = some t) :
    ∃ t', (resume around s n).1.task? n = some t' ∧ t.Progress t' := by
  generalize hx : resume around s n = x
  have hcases := resume_cases around ht
  rw [hx] at hcases
  cases hcases with
  | idle => exact ⟨t, ht, (Task.Marked.rfl t).progress⟩
  | cancelled waiting =>
    exact ⟨_, task?_setStage_own ht fun _ => rfl,
      Task.progress_setStage (Task.isDone_of_isWaiting waiting) fun _ => waiting⟩
  | slept delay stage =>
    have waiting : t.isWaiting = true := by simp [Task.isWaiting, stage]
    exact ⟨_, task?_setStage_own ht fun _ => rfl,
      Task.progress_setStage (Task.isDone_of_isWaiting waiting) fun _ => waiting⟩
  | unreadable _ due | skipped due | stuck _ _ due | called _ _ due =>
    have waiting := Task.isWaiting_of_isDue due
    exact ⟨_, task?_setStage_own ht fun m => by simp [release],
      Task.progress_setStage (Task.isDone_of_isWaiting waiting) fun _ => waiting⟩

/-- The task that the linter answers itself. Once it is answered, it is over. -/
theorem done_complete {n : Nat} {t : Task} {pass : Pass} (answer : Except Mishap ToolOutput)
    (ht : s.task? n = some t) (hs : t.stage = .linting pass) :
    ∃ outcome, (complete around s n answer).1.task? n = some { t with stage := .done outcome } := by
  generalize hx : complete around s n answer = x
  have hcases := complete_cases around answer ht hs
  rw [hx] at hcases
  cases hcases with
  | cancelled | failed | outdated | published | undelivered =>
    exact ⟨_, task?_setStage_own ht fun _ => rfl⟩

theorem progress_complete {n : Nat} {t : Task} (answer : Except Mishap ToolOutput)
    (ht : s.task? n = some t) :
    ∃ t', (complete around s n answer).1.task? n = some t' ∧ t.Progress t' := by
  by_cases hlint : ∃ pass, t.stage = .linting pass
  · obtain ⟨pass, hs⟩ := hlint
    obtain ⟨outcome, ht'⟩ := done_complete around answer ht hs
    refine ⟨_, ht', Task.progress_setStage ?_ fun hw => by cases hw⟩
    simp [Task.isDone, hs]
  · have hsame : complete around s n answer = (s, []) := by
      refine complete_of_not_linting around answer fun t' pass ht' hs => hlint ⟨pass, ?_⟩
      rw [ht] at ht'
      cases ht'
      exact hs
    rw [hsame]
    exact ⟨t, ht, (Task.Marked.rfl t).progress⟩

/-- A task that runs leaves all others alone, and does not even mark them. -/
theorem task?_resume_of_ne {n m : Nat} (hm : m ≠ n) :
    (resume around s n).1.task? m = s.task? m := by
  cases ht : s.task? n with
  | none => rw [resume_of_absent around ht]
  | some t =>
    generalize hx : resume around s n = x
    have hcases := resume_cases around ht
    rw [hx] at hcases
    cases hcases with
    | idle => rfl
    | cancelled | slept | unreadable | skipped | stuck | called =>
      refine (task?_setStage _ n m _).trans ((if_neg hm).trans ?_)
      simp [release]

theorem task?_complete_of_ne {n m : Nat} (answer : Except Mishap ToolOutput) (hm : m ≠ n) :
    (complete around s n answer).1.task? m = s.task? m := by
  by_cases hlint : ∃ t pass, s.task? n = some t ∧ t.stage = .linting pass
  · obtain ⟨t, pass, ht, hs⟩ := hlint
    generalize hx : complete around s n answer = x
    have hcases := complete_cases around answer ht hs
    rw [hx] at hcases
    cases hcases with
    | cancelled | failed | outdated | published | undelivered =>
      exact (task?_setStage _ n m _).trans (if_neg hm)
  · rw [complete_of_not_linting around answer fun t pass ht hs => hlint ⟨t, pass, ht, hs⟩]

/-- **Tasks go forward**, with the document and the origin that they have. -/
theorem step_progress (e : Event) {m : Nat} {t : Task} (ht : s.task? m = some t) :
    ∃ t', (step around s e).1.task? m = some t' ∧ t.Progress t' := by
  have hother : m ≠ e.task s → ∃ t', (step around s e).1.task? m = some t' ∧ t.Progress t' := by
    intro hm
    obtain ⟨t', ht', hmark⟩ := (step_focus around s e "").task_after hm ht
    exact ⟨t', ht', hmark.progress⟩
  have hlt := task?_lt ht
  cases e with
  | resume n =>
    by_cases hm : m = n
    · subst hm
      exact progress_resume around ht
    · exact hother hm
  | complete n answer =>
    by_cases hm : m = n
    · subst hm
      exact progress_complete around answer ht
    · exact hother hm
  | _ => exact hother (Nat.ne_of_lt hlt)

/-- Tasks go forward along a run. -/
theorem run_progress (es : List Event) {m : Nat} {t : Task} (ht : s.task? m = some t) :
    ∃ t', (run around s es).1.task? m = some t' ∧ t.Progress t' := by
  induction es generalizing s t with
  | nil => exact ⟨t, ht, (Task.Marked.rfl t).progress⟩
  | cons e rest ih =>
    obtain ⟨t₁, ht₁, hp₁⟩ := step_progress around e ht
    obtain ⟨t', ht', hp'⟩ := ih ht₁
    exact ⟨t', ht', hp₁.trans hp'⟩

/-- A task that is there after a step was there before, or was asked for with it. -/
theorem step_task_before (e : Event) {m : Nat} {t' : Task}
    (ht' : (step around s e).1.task? m = some t') :
    (∃ t, s.task? m = some t ∧ t.Progress t') ∨
      (m = s.tasks.length ∧
        ((∃ document delay, e = .schedule document delay ∧
            t' = s.scheduledTask document delay) ∨
          ∃ document sequence, e = .validate document sequence ∧
            t' = directTask document sequence)) := by
  cases ht : s.task? m with
  | some t =>
    obtain ⟨t'', ht'', hp⟩ := step_progress around e ht
    obtain rfl : t'' = t' := by simpa [ht''] using ht'
    exact .inl ⟨t, rfl, hp⟩
  | none =>
    refine .inr ?_
    -- A step adds no task but the one that it concerns, and only a request adds that.
    have hother : m ≠ e.task s → False := by
      intro hm
      obtain ⟨t, ht₀, -⟩ := (step_focus around s e "").task_before hm ht'
      rw [ht] at ht₀
      cases ht₀
    have hm : m = e.task s := by
      by_contra hm
      exact hother hm
    cases e with
    | schedule document delay =>
      obtain rfl : m = s.tasks.length := hm
      refine ⟨rfl, .inl ⟨document, delay, rfl, ?_⟩⟩
      rw [step, task?_schedule, if_pos rfl] at ht'
      exact (Option.some.inj ht').symm
    | validate document sequence =>
      obtain rfl : m = s.tasks.length := hm
      refine ⟨rfl, .inr ⟨document, sequence, rfl, ?_⟩⟩
      rw [step, task?_validate, if_pos rfl] at ht'
      exact (Option.some.inj ht').symm
    | close uri =>
      obtain rfl : m = s.tasks.length := hm
      have hlt := task?_lt ht'
      rw [step, length_tasks_close] at hlt
      exact absurd hlt (Nat.lt_irrefl _)
    | shutdown =>
      obtain rfl : m = s.tasks.length := hm
      have hlt := task?_lt ht'
      rw [step, length_tasks_shutdown] at hlt
      exact absurd hlt (Nat.lt_irrefl _)
    | configure | moveTo =>
      obtain rfl : m = s.tasks.length := hm
      exact absurd (task?_lt ht') (Nat.lt_irrefl _)
    | resume n =>
      obtain rfl : m = n := hm
      rw [step, resume_of_absent around ht, ht] at ht'
      cases ht'
    | complete n answer =>
      obtain rfl : m = n := hm
      have hsame : complete around s m answer = (s, []) :=
        complete_of_not_linting around answer (by simp [ht])
      rw [step, hsame, ht] at ht'
      cases ht'

end Progress

end Schedule

end LintBridge
