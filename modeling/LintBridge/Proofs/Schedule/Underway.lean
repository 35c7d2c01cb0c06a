import LintBridge.Proofs.Schedule.Tracking

/-!
# Validations that are under way

A validation is under way from the call of the linter to its end. How many of them a document has is
written down with the document, and **the number that is written down is the number that there
are**: of the tasks that wait for the linter, those count that called it for the document in its
present life. A document that was closed and opened again starts from zero, and a validation that
outlives its document is taken off nothing.

* `LintBridge.Schedule.underway` – how many validations of a document are under way in a life;
* `LintBridge.Schedule.Counted` – the number that is written down is right;
* `LintBridge.Schedule.Counted.step`, `LintBridge.Schedule.Counted.run` – every event keeps it so;
* `LintBridge.Schedule.Counted.complete_leaves`, `LintBridge.Schedule.Counted.resume_enters` –
  whichever way a validation ends, it is taken off; and one that fails before it has called the
  linter is not left on.
-/

namespace LintBridge

namespace Schedule

/-- Whether a task waits for the linter that it has called for a document in one of its lives. -/
def Task.isUnderway (uri : String) (life : Nat) (t : Task) : Bool :=
  match t.stage with
  | .linting pass => t.document.uri == uri && pass.life == life
  | _ => false

/-- **How many validations of a document are under way** in one of its lives. -/
def underway (s : Schedule) (uri : String) (life : Nat) : Nat :=
  s.tasks.countP (Task.isUnderway uri life)

/-! ### Counting tasks -/

section Count

variable {uri v : String} {life n : Nat} {t : Task} {s s' : Schedule}

/-- A list counts one less or one more where one of its items is changed. -/
theorem countP_modify {α : Type} {p : α → Bool} {l : List α} {n : Nat} {a : α} (h : l[n]? = some a)
    (f : α → α) : (l.modify n f).countP p + (p a).toNat = l.countP p + (p (f a)).toNat := by
  induction l generalizing n with
  | nil => cases h
  | cons b rest ih =>
    cases n with
    | zero =>
      obtain rfl : b = a := Option.some.inj h
      rw [List.modify_zero_cons, List.countP_cons, List.countP_cons]
      cases p b <;> cases p (f b) <;> simp
    | succ n =>
      have hrest := ih (n := n) h
      rw [List.modify_succ_cons, List.countP_cons, List.countP_cons]
      omega

theorem Task.isUnderway_of_not_linting (h : ∀ pass, t.stage ≠ .linting pass) :
    t.isUnderway uri life = false := by
  cases hs : t.stage with
  | linting pass => exact absurd hs (h pass)
  | _ => simp only [Task.isUnderway, hs]

theorem Task.isUnderway_of_linting {pass : Pass} (hs : t.stage = .linting pass) :
    t.isUnderway uri life = (t.document.uri == uri && pass.life == life) := by
  simp only [Task.isUnderway, hs]

theorem Task.isUnderway_of_isWaiting (h : t.isWaiting = true) : t.isUnderway uri life = false :=
  Task.isUnderway_of_not_linting fun pass hs => by simp [Task.isWaiting, hs] at h

@[simp] theorem Task.isUnderway_requestCancel (t : Task) :
    t.requestCancel.isUnderway uri life = t.isUnderway uri life := by
  simp only [Task.isUnderway, Task.requestCancel_stage, Task.requestCancel_document]

theorem underway_of_tasks_eq (h : s'.tasks = s.tasks) :
    s'.underway uri life = s.underway uri life :=
  congrArg (List.countP _) h

theorem underway_congr
    (h : ∀ m, (s'.task? m).map (Task.isUnderway uri life) =
      (s.task? m).map (Task.isUnderway uri life)) :
    s'.underway uri life = s.underway uri life := by
  have hmap : s'.tasks.map (Task.isUnderway uri life) = s.tasks.map (Task.isUnderway uri life) :=
    List.ext_getElem? fun m => by
      rw [List.getElem?_map, List.getElem?_map]
      exact h m
  have hcount : ∀ l : List Task,
      l.countP (Task.isUnderway uri life) = (l.map (Task.isUnderway uri life)).countP id := by
    intro l
    rw [List.countP_map, Function.id_comp]
  rw [underway, underway, hcount, hcount, hmap]

theorem underway_eq_zero
    (h : ∀ m t, s.task? m = some t → t.isUnderway uri life = false) : s.underway uri life = 0 := by
  refine List.countP_eq_zero.mpr fun t ht => ?_
  obtain ⟨m, hm⟩ := List.getElem?_of_mem ht
  rw [h m t hm]
  exact Bool.false_ne_true

/-- A life that is yet to be given out has no validations. -/
theorem underway_nextLife (hc : Consistent s) (uri : String) : s.underway uri s.nextLife = 0 := by
  refine underway_eq_zero fun m t ht => ?_
  cases hs : t.stage with
  | linting pass =>
    have hlt := (hc.pass_life m t pass ht hs).1
    rw [Task.isUnderway_of_linting hs, beq_eq_false_iff_ne.mpr (Nat.ne_of_lt hlt), Bool.and_false]
  | _ => exact Task.isUnderway_of_not_linting fun pass h => by simp [hs] at h

/-- A task that waits for the linter counts. -/
theorem underway_pos (ht : s.task? n = some t) (h : t.isUnderway uri life = true) :
    0 < s.underway uri life :=
  List.countP_pos_iff.mpr ⟨t, List.mem_of_getElem? ht, h⟩

/-- Moving a task to a stage, whatever is done to its document with it. -/
theorem underway_setStage {s₁ : Schedule} (ht : s.task? n = some t) (htasks : s₁.tasks = s.tasks)
    (stage : Stage) :
    (s₁.setStage n stage).underway uri life + (t.isUnderway uri life).toNat =
      s.underway uri life + (({ t with stage } : Task).isUnderway uri life).toNat := by
  have hcount := countP_modify (p := Task.isUnderway uri life) (htasks ▸ ht : s₁.tasks[n]? = some t)
    fun t => { t with stage }
  rw [underway, underway, ← htasks]
  exact hcount

end Count

/-! ### What each operation does to the count -/

section Operations

variable (s : Schedule) (around : Surroundings) (v : String) (life : Nat)

theorem underway_cancelPending (pending : Option Nat) :
    (s.cancelPending pending).1.underway v life = s.underway v life := by
  refine underway_congr fun m => ?_
  rw [task?_cancelPending]
  split
  · rw [Option.map_map]
    exact Option.map_congr fun t _ => t.isUnderway_requestCancel
  · rfl

theorem underway_schedule (document : Document) (delay : Option Binary64) :
    (s.schedule document delay).1.underway v life = s.underway v life := by
  have hnew : [s.scheduledTask document delay].countP (Task.isUnderway v life) = 0 := rfl
  rw [underway, tasks_schedule, List.countP_append, hnew, Nat.add_zero]
  exact (underway_cancelPending _ v life _).trans (underway_of_tasks_eq (tasks_follow s _))

theorem underway_validate (document : Document) (sequence : Option Int) :
    (s.validate document sequence).1.underway v life = s.underway v life := by
  have hnew : [directTask document sequence].countP (Task.isUnderway v life) = 0 := rfl
  exact List.countP_append.trans (congrArg _ hnew)

theorem underway_close (uri : String) :
    (close around s uri).1.underway v life = s.underway v life := by
  rw [close_fst]
  exact underway_cancelPending _ v life _

theorem underway_shutdown : s.shutdown.1.underway v life = s.underway v life := by
  refine underway_congr fun m => ?_
  rw [task?_shutdown, Option.map_map]
  refine Option.map_congr fun t _ => ?_
  rw [Function.comp_apply]
  split
  · exact t.isUnderway_requestCancel
  · rfl

/-- A task that is resumed counts afterwards if it waits for the linter then. -/
theorem underway_resume {s : Schedule} {n : Nat} {t : Task} (ht : s.task? n = some t) :
    ∃ t', (resume around s n).1.task? n = some t' ∧
      (resume around s n).1.underway v life + (t.isUnderway v life).toNat =
        s.underway v life + (t'.isUnderway v life).toNat := by
  have hbegun : ((s.release n t.document.uri).enroll t).tasks = s.tasks :=
    tasks_follow (s.release n t.document.uri) _
  generalize hx : resume around s n = x
  have hcases := resume_cases around ht
  rw [hx] at hcases
  cases hcases with
  | idle => exact ⟨t, ht, rfl⟩
  | cancelled | slept | unreadable | skipped =>
    exact ⟨_, task?_setStage_own ht fun _ => rfl, underway_setStage ht rfl _⟩
  | stuck | called =>
    exact ⟨_, task?_setStage_own ht fun m => by simp [release], underway_setStage ht hbegun _⟩

/-- A task that the linter answers does not count any more. -/
theorem underway_complete {s : Schedule} {n : Nat} {t : Task} {pass : Pass}
    (ht : s.task? n = some t) (hs : t.stage = .linting pass) (answer : Except Mishap ToolOutput) :
    (complete around s n answer).1.underway v life + (t.isUnderway v life).toNat =
      s.underway v life := by
  generalize hx : complete around s n answer = x
  have hcases := complete_cases around answer ht hs
  rw [hx] at hcases
  cases hcases with
  | cancelled | failed | outdated | published | undelivered => exact underway_setStage ht rfl _

end Operations

/-! ### The number that is written down -/

/-- **The number of validations that is written down with a document is right.** -/
def Counted (s : Schedule) : Prop :=
  ∀ uri d, s.tracked? uri = some d → d.inFlight = s.underway uri d.life

section Counted

variable {s s' : Schedule} (around : Surroundings)

/-- The number is right, too, for a document that is yet to be followed. -/
theorem Counted.entry (h : Counted s) (hc : Consistent s) (uri : String) :
    (s.entry uri).inFlight = s.underway uri (s.entry uri).life := by
  cases hd : s.tracked? uri with
  | some d =>
    rw [entry_of_tracked hd]
    exact h uri d hd
  | none =>
    rw [entry_of_untracked hd]
    exact (underway_nextLife hc uri).symm

/-- Documents that keep their lives and their numbers, with tasks that count as before. -/
theorem Counted.of_kept (h : Counted s)
    (hdocs : ∀ uri d', s'.tracked? uri = some d' →
      ∃ d, s.tracked? uri = some d ∧ d'.life = d.life ∧ d'.inFlight = d.inFlight)
    (hcount : ∀ uri life, s'.underway uri life = s.underway uri life) : Counted s' := by
  intro uri d' hd'
  obtain ⟨d, hd, hl, hi⟩ := hdocs uri d' hd'
  rw [hi, hl, hcount]
  exact h uri d hd

theorem Counted.schedule (h : Counted s) (hc : Consistent s) (document : Document)
    (delay : Option Binary64) : Counted (s.schedule document delay).1 := by
  intro v d' hd'
  rw [underway_schedule]
  rw [tracked?_schedule] at hd'
  by_cases hv : v = document.uri
  · rw [if_pos hv] at hd'
    cases hd'
    subst hv
    exact h.entry hc document.uri
  · rw [if_neg hv] at hd'
    exact h v d' hd'

theorem Counted.close (h : Counted s) (uri : String) :
    Counted (Schedule.close around s uri).1 := by
  refine h.of_kept (fun v d' hd' => ?_) fun v life => underway_close s around v life uri
  rw [tracked?_close] at hd'
  by_cases hv : v = uri
  · rw [if_pos hv] at hd'
    cases hd'
  · rw [if_neg hv] at hd'
    exact ⟨d', hd', rfl, rfl⟩

/-- Moving a task to a stage changes the number where it changes whether the task counts. -/
theorem Counted.of_setStage {n : Nat} {t : Task} {s₁ : Schedule} {stage : Stage}
    (ht : s.task? n = some t) (htasks : s₁.tasks = s.tasks)
    (hdocs : ∀ v d', s₁.tracked? v = some d' →
      d'.inFlight + (t.isUnderway v d'.life).toNat =
        s.underway v d'.life + (({ t with stage } : Task).isUnderway v d'.life).toNat) :
    Counted (s₁.setStage n stage) := by
  intro v d' hd'
  have hcount : (s₁.setStage n stage).underway v d'.life + (t.isUnderway v d'.life).toNat =
      s.underway v d'.life + (({ t with stage } : Task).isUnderway v d'.life).toNat :=
    underway_setStage ht htasks stage
  have hdoc := hdocs v d' hd'
  omega

/-- **A validation that begins is written down, unless it fails at once.** -/
theorem Counted.resume (h : Counted s) (hc : Consistent s) (n : Nat) :
    Counted (Schedule.resume around s n).1 := by
  cases ht : s.task? n with
  | none =>
    rw [resume_of_absent around ht]
    exact h
  | some t =>
    have hbegun : ((s.release n t.document.uri).enroll t).tasks = s.tasks :=
      tasks_follow (s.release n t.document.uri) _
    have hentry := h.entry hc t.document.uri
    have hlife := enrolled_release_life s n t
    have hother : ∀ v, v ≠ t.document.uri →
        ((s.release n t.document.uri).enroll t).tracked? v = s.tracked? v := fun v hv => by
      rw [tracked?_enroll, if_neg hv, tracked?_release, if_neg hv]
    have hinFlight : ((s.release n t.document.uri).enrolled t).inFlight =
        (s.entry t.document.uri).inFlight + 1 := by
      simp only [enrolled, entry_release, Tracked.release_inFlight]
    generalize hx : Schedule.resume around s n = x
    have hcases := resume_cases around ht
    rw [hx] at hcases
    cases hcases with
    | idle => exact h
    | cancelled waiting =>
      refine .of_setStage ht rfl fun v d' hd' => ?_
      rw [Task.isUnderway_of_isWaiting waiting]
      exact h v d' hd'
    | slept delay stage =>
      have waiting : t.isWaiting = true := by simp [Task.isWaiting, stage]
      refine .of_setStage ht rfl fun v d' hd' => ?_
      rw [Task.isUnderway_of_isWaiting waiting]
      exact h v d' hd'
    | unreadable _ due | skipped due =>
      refine .of_setStage ht rfl fun v d' hd' => ?_
      rw [Task.isUnderway_of_isWaiting (Task.isWaiting_of_isDue due)]
      rw [tracked?_release] at hd'
      by_cases hv : v = t.document.uri
      · rw [if_pos hv, Option.map_eq_some_iff] at hd'
        obtain ⟨d, hd, rfl⟩ := hd'
        rw [Tracked.release_inFlight, Tracked.release_life]
        exact h v d hd
      · rw [if_neg hv] at hd'
        exact h v d' hd'
    | stuck _ _ due =>
      refine .of_setStage ht hbegun fun v d' hd' => ?_
      rw [Task.isUnderway_of_isWaiting (Task.isWaiting_of_isDue due)]
      rw [tracked?_leave] at hd'
      by_cases hv : v = t.document.uri
      · subst hv
        rw [if_pos rfl, tracked?_enroll, if_pos rfl] at hd'
        cases hd'
        -- The validation is put on and taken off in one go.
        rw [Tracked.leave_life, hlife]
        simp only [Tracked.leave, hlife, beq_self_eq_true, if_true, hinFlight, hentry]
        rfl
      · rw [if_neg hv, hother v hv] at hd'
        exact h v d' hd'
    | called file call due =>
      refine .of_setStage ht hbegun fun v d' hd' => ?_
      rw [Task.isUnderway_of_isWaiting (Task.isWaiting_of_isDue due),
        Task.isUnderway_of_linting rfl]
      by_cases hv : v = t.document.uri
      · subst hv
        rw [tracked?_enroll, if_pos rfl] at hd'
        cases hd'
        rw [hlife, hinFlight, hentry]
        simp [passOf]
      · rw [hother v hv] at hd'
        have hne : (t.document.uri == v) = false := beq_eq_false_iff_ne.mpr (Ne.symm hv)
        rw [hne, Bool.false_and]
        exact h v d' hd'

/-- A validation that is taken off is one of those that are written down. -/
theorem Counted.leave (h : Counted s) {n : Nat} {t : Task} {pass : Pass} (ht : s.task? n = some t)
    (hs : t.stage = .linting pass) {v : String} {d' : Tracked}
    (hd' : (s.leave t.document.uri pass.life).tracked? v = some d') :
    d'.inFlight + (t.isUnderway v d'.life).toNat = s.underway v d'.life := by
  rw [Task.isUnderway_of_linting hs]
  rw [tracked?_leave] at hd'
  by_cases hv : v = t.document.uri
  · rw [if_pos hv, Option.map_eq_some_iff] at hd'
    obtain ⟨d, hd, rfl⟩ := hd'
    rw [Tracked.leave_life, ← hv, beq_self_eq_true, Bool.true_and, ← h v d hd]
    by_cases hl : d.life = pass.life
    · have hpos : 0 < d.inFlight := by
        rw [h v d hd]
        refine underway_pos ht ?_
        rw [Task.isUnderway_of_linting hs, hv, hl, beq_self_eq_true, beq_self_eq_true,
          Bool.and_true]
      simp only [Tracked.leave, hl, beq_self_eq_true, if_true, Bool.toNat_true]
      omega
    · simp [Tracked.leave, hl, Ne.symm hl]
  · rw [if_neg hv] at hd'
    rw [beq_eq_false_iff_ne.mpr (Ne.symm hv), Bool.false_and]
    exact h v d' hd'

/-- **A validation that ends is taken off**, whichever way it ends. -/
theorem Counted.complete (h : Counted s) (n : Nat) (answer : Except Mishap ToolOutput) :
    Counted (Schedule.complete around s n answer).1 := by
  by_cases hlint : ∃ t pass, s.task? n = some t ∧ t.stage = .linting pass
  · obtain ⟨t, pass, ht, hs⟩ := hlint
    have hleft : ∀ v d', (s.leave t.document.uri pass.life).tracked? v = some d' →
        d'.inFlight + (t.isUnderway v d'.life).toNat = s.underway v d'.life := fun v d' hd' =>
      h.leave ht hs hd'
    generalize hx : Schedule.complete around s n answer = x
    have hcases := complete_cases around answer ht hs
    rw [hx] at hcases
    cases hcases with
    | cancelled | failed | outdated => exact .of_setStage ht rfl hleft
    | published | undelivered =>
      refine .of_setStage ht rfl fun v d' hd' => ?_
      rw [tracked?_record] at hd'
      by_cases hv : v = t.document.uri
      · rw [if_pos hv, Option.map_eq_some_iff] at hd'
        obtain ⟨d, hd, rfl⟩ := hd'
        exact hleft v d hd
      · rw [if_neg hv] at hd'
        exact hleft v d' hd'
  · rw [complete_of_not_linting around answer fun t pass ht hs => hlint ⟨t, pass, ht, hs⟩]
    exact h

/-- **Every event keeps the numbers right.** -/
theorem Counted.step (h : Counted s) (hc : Consistent s) (e : Event) :
    Counted (Schedule.step around s e).1 := by
  cases e with
  | schedule document delay => exact h.schedule hc document delay
  | validate document sequence =>
    exact h.of_kept (fun _ d' hd' => ⟨d', hd', rfl, rfl⟩) fun v life =>
      underway_validate s v life document sequence
  | close uri => exact h.close around uri
  | shutdown =>
    refine h.of_kept (fun v d' hd' => ⟨d', ?_, rfl, rfl⟩) fun v life => underway_shutdown s v life
    exact (tracked?_shutdown s v).symm.trans hd'
  | configure | moveTo => exact h
  | resume n => exact h.resume around hc n
  | complete n answer => exact h.complete around n answer

/-- **Every run keeps the numbers right.** -/
theorem Counted.run (h : Counted s) (hc : Consistent s) (es : List Event) :
    Counted (Schedule.run around s es).1 := by
  induction es generalizing s with
  | nil => exact h
  | cons e rest ih => exact ih (h.step around hc e) (hc.step around e)

theorem counted_empty (settings : Settings) (workspace : Option Path) :
    Counted { settings, workspace } :=
  nofun

/-- **Whichever way the linter answers, the validation is over and is not counted any more**: it was
cancelled, it has failed or is outdated, or what it has found is published or cannot be
delivered. -/
theorem Counted.complete_leaves (h : Counted s) {n : Nat} {t : Task} {pass : Pass} {d : Tracked}
    (ht : s.task? n = some t) (hs : t.stage = .linting pass)
    (hd : s.tracked? t.document.uri = some d) (hl : d.life = pass.life)
    (answer : Except Mishap ToolOutput) :
    ∃ outcome d', (Schedule.complete around s n answer).1.task? n =
        some { t with stage := .done outcome } ∧
      (Schedule.complete around s n answer).1.tracked? t.document.uri = some d' ∧
      d'.life = d.life ∧ d'.inFlight + 1 = d.inFlight := by
  obtain ⟨outcome, ht'⟩ := done_complete around answer ht hs
  have hmem : t.document.uri ∈ (Schedule.complete around s n answer).1.trackedUris := by
    rw [trackedUris_complete]
    exact mem_trackedUris.mpr ⟨d, hd⟩
  obtain ⟨d', hd'⟩ := mem_trackedUris.mp hmem
  obtain ⟨d₀, hd₀, hlife, -⟩ := keeps_complete s around n answer t.document.uri d' hd'
  obtain rfl : d₀ = d := Option.some.inj (hd₀.symm.trans hd)
  have hcount := underway_complete around t.document.uri d'.life ht hs answer
  have hunderway : t.isUnderway t.document.uri d'.life = true := by
    rw [Task.isUnderway_of_linting hs, hlife, hl, beq_self_eq_true, beq_self_eq_true, Bool.and_true]
  refine ⟨outcome, d', ht', hd', hlife, ?_⟩
  rw [h.complete around n answer _ d' hd', h _ d₀ hd, ← hlife, ← hcount, hunderway]
  rfl

/-- **A task that runs on is counted exactly if it waits for the linter then.** In particular one
that fails before it has called the linter is not. -/
theorem Counted.resume_enters (h : Counted s) (hc : Consistent s) {n : Nat} {t : Task} {d : Tracked}
    (ht : s.task? n = some t) (hw : t.isWaiting = true)
    (hd : s.tracked? t.document.uri = some d) :
    ∃ t' d', (Schedule.resume around s n).1.task? n = some t' ∧
      (Schedule.resume around s n).1.tracked? t.document.uri = some d' ∧
      d'.life = d.life ∧
      d'.inFlight = d.inFlight + (t'.isUnderway t.document.uri d.life).toNat := by
  have hmem : t.document.uri ∈ (Schedule.resume around s n).1.trackedUris :=
    (mem_trackedUris_resume around hc ht).mpr (.inr (mem_trackedUris.mpr ⟨d, hd⟩))
  obtain ⟨d', hd'⟩ := mem_trackedUris.mp hmem
  have hlife : d'.life = d.life := by
    rcases (focus_resume around ht).life d' hd' with ⟨d₀, hd₀, hl, -⟩ | ⟨hnone, -⟩
    · obtain rfl : d₀ = d := Option.some.inj (hd₀.symm.trans hd)
      exact hl
    · cases hnone.symm.trans hd
  obtain ⟨t', ht', hcount⟩ := underway_resume around t.document.uri d.life ht
  rw [Task.isUnderway_of_isWaiting hw] at hcount
  refine ⟨t', d', ht', hd', hlife, ?_⟩
  rw [h.resume around hc n _ d' hd', h _ d hd, hlife]
  exact hcount

end Counted

end Schedule

end LintBridge
