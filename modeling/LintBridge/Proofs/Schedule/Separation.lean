import LintBridge.Proofs.Schedule.Mirror

/-!
# Documents do not interfere

What becomes of a document depends on nothing that happens to others. The events of a run that
concern a document, with those that concern all (`LintBridge.Schedule.ownEvents`), make a run of
their own, in which the tasks of the document are numbered as if there were no others; and **to the
document the one run is the other**: what is published of it, and all that is known of it, is the
same after each of these events.

The two runs go side by side, with a schedule on the one side and its mirror
(`LintBridge.Schedule.Mirrored`) on the other. An event of the document is made on both sides
(`LintBridge.Schedule.Mirrored.step_own`), and an event of another document on one side only
(`LintBridge.Schedule.Mirrored.step_other`).
-/

namespace LintBridge

namespace Schedule

/-! ### Requests -/

section Requests

variable {uri v : String} {s s' l l' : Schedule}

theorem isTaskOf_of_focus {k m : Nat} (f : Focus s s' v k) (hm : m ≠ k) :
    s'.isTaskOf uri m = s.isTaskOf uri m := by
  rcases f.tasks m hm with heq | heq
  · rw [isTaskOf, heq, isTaskOf]
  · rw [isTaskOf, heq, Option.any_map, isTaskOf]
    simp

theorem rank_of_focus {n : Nat} (f : Focus s s' v s.tasks.length) (hn : n ≤ s.tasks.length) :
    s'.rank uri n = s.rank uri n :=
  rank_congr fun _ hm => isTaskOf_of_focus f (Nat.ne_of_lt (Nat.lt_of_lt_of_le hm hn))

theorem kept_of_focus {n : Nat} (f : Focus s s' v s.tasks.length)
    (hn : s.isTaskOf uri n = true) :
    s'.isTaskOf uri n = true ∧ s'.rank uri n = s.rank uri n := by
  have hlt := isTaskOf_lt hn
  exact ⟨(isTaskOf_of_focus f (Nat.ne_of_lt hlt)).trans hn, rank_of_focus f (Nat.le_of_lt hlt)⟩

/-- Tasks that are marked alike mirror each other still. -/
theorem Mirrored.marked {goesOn : Prop} (h : Mirrored uri s l) (ages : Ages uri goesOn s s')
    (ages' : Ages uri goesOn l l') {p q : Nat → Task → Bool}
    (hs : ∀ m t, s.task? m = some t →
      s'.task? m = some (if p m t then t.requestCancel else t))
    (hl : ∀ m u, l.task? m = some u →
      l'.task? m = some (if q m u then u.requestCancel else u))
    (hpq : ∀ m t u, s.isTaskOf uri m = true → Task.Mirrored s l uri t u →
      q (s.rank uri m) u = p m t)
    {n : Nat} {t' : Task} (hn : n < s.tasks.length) (ht' : s'.task? n = some t')
    (hu : t'.document.uri = uri) :
    ∃ u', l'.task? (s.rank uri n) = some u' ∧ Task.Mirrored s' l' uri t' u' := by
  obtain ⟨t, ht⟩ : ∃ t, s.task? n = some t := ⟨_, List.getElem?_eq_getElem hn⟩
  obtain rfl : _ = t' := Option.some.inj ((hs n t ht).symm.trans ht')
  have hu : t.document.uri = uri := by
    split at hu
    · rwa [Task.requestCancel_document] at hu
    · exact hu
  obtain ⟨u, hmem, hmirror⟩ := h.tasks n t ht hu
  refine ⟨_, hl _ u hmem, ?_⟩
  rw [hpq n t u (isTaskOf_iff.mpr ⟨t, ht, hu⟩) hmirror]
  split
  · exact hmirror.requestCancel.age ages ages'
  · exact hmirror.age ages ages'

/-- The task that is waited for has the rank of the other. -/
theorem Mirrored.pendingOf_iff (h : Mirrored uri s l) {m : Nat} (hm : s.isTaskOf uri m = true) :
    l.pendingOf uri = some (s.rank uri m) ↔ s.pendingOf uri = some m := by
  have htracked := h.tracked
  unfold pendingOf
  generalize s.tracked? uri = x, l.tracked? uri = y at htracked
  cases htracked with
  | some hd => exact hd.pending_iff hm
  | none => simp

/-- **A task of the document is created**, and so is one that mirrors it. -/
theorem Mirrored.of_created (h : Mirrored uri s l) (f : Focus s s' uri s.tasks.length)
    (hsettings : l'.settings = s'.settings) (hworkspace : l'.workspace = s'.workspace)
    (hlength : s'.tasks.length = s.tasks.length + 1)
    (hlength' : l'.tasks.length = l.tasks.length + 1) {t u : Task}
    (hnew : s'.task? s.tasks.length = some t) (hnew' : l'.task? l.tasks.length = some u)
    (hmirror : Task.Mirrored s' l' uri t u)
    (hold : ∀ n t', n < s.tasks.length → s'.task? n = some t' → t'.document.uri = uri →
      ∃ u', l'.task? (s.rank uri n) = some u' ∧ Task.Mirrored s' l' uri t' u')
    {goesOn : Prop} (ages : Ages uri goesOn s s') (ages' : Ages uri goesOn l l')
    (htracked : Option.Rel (Tracked.Mirrored s' uri) (s'.tracked? uri) (l'.tracked? uri)) :
    Mirrored uri s' l' where
  settings := hsettings
  workspace := hworkspace
  length := by
    have hown : s'.isTaskOf uri s.tasks.length = true :=
      isTaskOf_iff.mpr ⟨t, hnew, f.own_after t hnew⟩
    rw [hlength, hlength', rank_succ, if_pos hown, rank_of_focus f (Nat.le_refl _), h.length]
  tasks n t' ht' hu := by
    have hlt := task?_lt ht'
    by_cases hn : n = s.tasks.length
    · subst hn
      obtain rfl : t = t' := Option.some.inj (hnew.symm.trans ht')
      rw [rank_of_focus f (Nat.le_refl _), ← h.length]
      exact ⟨u, hnew', hmirror⟩
    · rw [rank_of_focus f (by omega)]
      exact hold n t' (by omega) ht' hu
  tracked := htracked
  born := ages.born h.born
  born' := ages'.born h.born'

theorem workspace_cancel (s : Schedule) (n : Nat) : (s.cancel n).1.workspace = s.workspace := by
  unfold cancel
  split <;> rfl

theorem workspace_cancelAll (s : Schedule) (ns : List Nat) :
    (s.cancelAll ns).1.workspace = s.workspace := by
  induction ns generalizing s with
  | nil => rfl
  | cons n rest ih =>
    simp only [cancelAll]
    rw [ih, workspace_cancel]

theorem workspace_schedule (s : Schedule) (document : Document) (delay : Option Binary64) :
    (s.schedule document delay).1.workspace = s.workspace := by
  simp only [Schedule.schedule, create]
  cases (s.follow document.uri).2.pending with
  | none => exact workspace_follow s document.uri
  | some n => exact (workspace_cancel _ n).trans (workspace_follow s document.uri)

theorem workspace_close (s : Schedule) (around : Surroundings) :
    (close around s uri).1.workspace = s.workspace := by
  rw [close_fst]
  cases s.pendingOf uri with
  | none => rfl
  | some n => exact workspace_cancel _ n

/-- **The document is scheduled** on both sides. -/
theorem Mirrored.schedule (h : Mirrored uri s l) {document : Document} (hu : document.uri = uri)
    (delay : Option Binary64) :
    Mirrored uri (s.schedule document delay).1 (l.schedule document delay).1 := by
  subst hu
  have f := focus_schedule s document delay
  have hentry := h.entry
  have hnew : (s.schedule document delay).1.task? s.tasks.length =
      some (s.scheduledTask document delay) := by rw [task?_schedule, if_pos rfl]
  have hnew' : (l.schedule document delay).1.task? l.tasks.length =
      some (l.scheduledTask document delay) := by rw [task?_schedule, if_pos rfl]
  have hs : (s.schedule document delay).1.tracked? document.uri =
      some (s.scheduledEntry document) := by rw [tracked?_schedule, if_pos rfl]
  have hl : (l.schedule document delay).1.tracked? document.uri =
      some (l.scheduledEntry document) := by rw [tracked?_schedule, if_pos rfl]
  have ages : Ages document.uri True s (s.schedule document delay).1 :=
    ages_of_entry hs rfl (Nat.le_of_eq (nextLife_schedule s document delay).symm)
  have ages' : Ages document.uri True l (l.schedule document delay).1 :=
    ages_of_entry hl rfl (Nat.le_of_eq (nextLife_schedule l document delay).symm)
  -- On either side the task that was waited for is marked, and no other one.
  have hmarks : ∀ (s : Schedule) m t, s.task? m = some t →
      (s.schedule document delay).1.task? m =
        some (if (s.entry document.uri).pending == some m then t.requestCancel else t) := by
    intro s m t ht
    rw [task?_schedule, if_neg (Nat.ne_of_lt (task?_lt ht)), ht, Option.map_some, ← apply_ite some]
    simp only [beq_iff_eq]
  refine h.of_created f ?_ ?_ (length_tasks_schedule s document delay)
    (length_tasks_schedule l document delay) hnew hnew' ?_ ?_ ages ages' ?_
  · rw [settings_schedule, settings_schedule, h.settings]
  · rw [workspace_schedule, workspace_schedule, h.workspace]
  · refine ⟨rfl, ?_, rfl, ?_⟩
    · simp only [scheduledTask, hentry.sequence]
    · simp only [scheduledTask, h.settings]
      exact .fresh _
  · intro n t' hn ht' hu
    refine h.marked ages ages' (hmarks s) (hmarks l) (fun m t u hm _ => ?_) hn ht' hu
    rw [Bool.eq_iff_iff, beq_iff_eq, beq_iff_eq, hentry.pending_iff hm]
  · rw [hs, hl]
    refine .some ⟨?_, hentry.inFlight, hentry.published, ?_, ?_⟩
    · simp only [scheduledEntry, hentry.sequence]
    · rw [scheduledEntry, scheduledEntry, Option.map_some, rank_of_focus f (Nat.le_refl _),
        h.length]
    · rintro n hn
      cases hn
      exact isTaskOf_iff.mpr ⟨_, hnew, rfl⟩

/-- **A validation of the document is asked for** on both sides. -/
theorem Mirrored.validate (h : Mirrored uri s l) {document : Document} (hu : document.uri = uri)
    (sequence : Option Int) :
    Mirrored uri (s.validate document sequence).1 (l.validate document sequence).1 := by
  subst hu
  have f := focus_validate s document sequence
  have hnew : ∀ s : Schedule, (s.validate document sequence).1.task? s.tasks.length =
      some (directTask document sequence) := by
    intro s
    rw [task?_validate, if_pos rfl]
  have hmarks : ∀ (s : Schedule) m t, s.task? m = some t →
      (s.validate document sequence).1.task? m = some (if false then t.requestCancel else t) := by
    intro s m t ht
    rw [task?_validate, if_neg (Nat.ne_of_lt (task?_lt ht)), ht]
    rfl
  have ages : ∀ s : Schedule, Ages document.uri True s (s.validate document sequence).1 :=
    fun s => ages_of_eq rfl (Nat.le_refl _)
  refine h.of_created f h.settings h.workspace (length_tasks_validate s document sequence)
    (length_tasks_validate l document sequence) (hnew s) (hnew l) ⟨rfl, rfl, rfl, .fresh _⟩ ?_
    (ages s) (ages l) ?_
  · intro n t' hn ht' hu
    exact h.marked (ages s) (ages l) (hmarks s) (hmarks l) (fun _ _ _ _ _ => rfl) hn ht' hu
  · exact mirrored_mono h.tracked fun _ hn => kept_of_focus f hn

/-- **Tasks are marked on both sides**, and none is created. -/
theorem Mirrored.of_marked (h : Mirrored uri s l) (f : Focus s s' v s.tasks.length)
    (hsettings : l'.settings = s'.settings) (hworkspace : l'.workspace = s'.workspace)
    (hlength : s'.tasks.length = s.tasks.length) (hlength' : l'.tasks.length = l.tasks.length)
    (hold : ∀ n t', n < s.tasks.length → s'.task? n = some t' → t'.document.uri = uri →
      ∃ u', l'.task? (s.rank uri n) = some u' ∧ Task.Mirrored s' l' uri t' u')
    {goesOn : Prop} (ages : Ages uri goesOn s s') (ages' : Ages uri goesOn l l')
    (htracked : Option.Rel (Tracked.Mirrored s uri) (s'.tracked? uri) (l'.tracked? uri)) :
    Mirrored uri s' l' where
  settings := hsettings
  workspace := hworkspace
  length := by rw [hlength, hlength', rank_of_focus f (Nat.le_refl _), h.length]
  tasks n t' ht' hu := by
    have hlt : n < s.tasks.length := hlength ▸ task?_lt ht'
    rw [rank_of_focus f (Nat.le_of_lt hlt)]
    exact hold n t' hlt ht' hu
  tracked := mirrored_mono htracked fun _ hn => kept_of_focus f hn
  born := ages.born h.born
  born' := ages'.born h.born'

/-- **The document is closed** on both sides. -/
theorem Mirrored.close (h : Mirrored uri s l) (around around' : Surroundings) :
    Mirrored uri (close around s uri).1 (close around' l uri).1 := by
  have hnone : ∀ (around : Surroundings) (s : Schedule),
      (Schedule.close around s uri).1.tracked? uri = none := by
    intro around s
    rw [tracked?_close, if_pos rfl]
  have ages : ∀ (around : Surroundings) (s : Schedule),
      Ages uri False s (Schedule.close around s uri).1 := fun around s =>
    ages_of_none (hnone around s) (Nat.le_of_eq (nextLife_close s around uri).symm)
  have hmarks : ∀ (around : Surroundings) (s : Schedule) m t, s.task? m = some t →
      (Schedule.close around s uri).1.task? m =
        some (if s.pendingOf uri == some m then t.requestCancel else t) := by
    intro around s m t ht
    rw [task?_close, ht, Option.map_some, ← apply_ite some]
    simp only [beq_iff_eq]
  refine h.of_marked (focus_close s around uri) ?_ ?_ (length_tasks_close s around uri)
    (length_tasks_close l around' uri) ?_ (ages around s) (ages around' l) ?_
  · rw [settings_close, settings_close, h.settings]
  · rw [workspace_close, workspace_close, h.workspace]
  · intro n t' hn ht' hu
    refine h.marked (ages around s) (ages around' l) (hmarks around s) (hmarks around' l)
      (fun m t u hm _ => ?_) hn ht' hu
    rw [Bool.eq_iff_iff, beq_iff_eq, beq_iff_eq, h.pendingOf_iff hm]
  · rw [hnone, hnone]
    exact .none

/-- **Everything is shut down** on both sides. -/
theorem Mirrored.shutdown (h : Mirrored uri s l) : Mirrored uri s.shutdown.1 l.shutdown.1 := by
  have ages : ∀ s : Schedule, Ages uri True s s.shutdown.1 := fun s =>
    ages_of_eq (tracked?_shutdown s uri) (Nat.le_of_eq (nextLife_shutdown s).symm)
  have hmarks : ∀ (s : Schedule) m t, s.task? m = some t →
      s.shutdown.1.task? m = some (if t.isScheduled then t.requestCancel else t) := by
    intro s m t ht
    rw [task?_shutdown, ht, Option.map_some]
  refine h.of_marked (focus_shutdown s uri) ?_ ?_ (length_tasks_shutdown s)
    (length_tasks_shutdown l) ?_ (ages s) (ages l) ?_
  · exact (settings_cancelAll l _).trans (h.settings.trans (settings_cancelAll s _).symm)
  · exact (workspace_cancelAll l _).trans (h.workspace.trans (workspace_cancelAll s _).symm)
  · intro n t' hn ht' hu
    exact h.marked (ages s) (ages l) (p := fun _ t => t.isScheduled)
      (q := fun _ u => u.isScheduled) (hmarks s) (hmarks l)
      (fun _ _ _ _ hmirror => hmirror.isScheduled) hn ht' hu
  · rw [tracked?_shutdown, tracked?_shutdown]
    exact h.tracked

end Requests

/-! ### The events of a document -/

/-- Whether an event concerns all documents. -/
def Event.isGeneral : Event → Bool
  | .shutdown => true
  | .configure _ => true
  | .moveTo _ => true
  | _ => false

/-- An event with its task under another number. -/
def Event.renumber (number : Nat → Nat) : Event → Event
  | .resume n => .resume (number n)
  | .complete n answer => .complete (number n) answer
  | e => e

/-- **What an event is to a document**, if it concerns it: the event, with its task known by its
rank among those of the document. -/
def Event.own? (uri : String) (s : Schedule) (e : Event) : Option Event :=
  if e.isGeneral || e.uri s == some uri then some (e.renumber (s.rank uri)) else none

/-- **The events of a run that concern a document**, with those that concern all. -/
def ownEvents (around : Surroundings) (uri : String) (s : Schedule) : List Event → List Event
  | [] => []
  | e :: rest => (e.own? uri s).toList ++ ownEvents around uri (step around s e).1 rest

/-- What can be told of a document. -/
structure View where
  /-- Whether it is being validated. -/
  phase : Phase
  /-- What is published of it. -/
  published : Option (List Record)
  /-- The number of its latest validation, if it is followed. -/
  sequence : Option Nat
  /-- The numbers of the validations of it, in the order in which they were asked for; one that was
  asked for directly need not have any. -/
  numbers : List (Option Int)
  deriving DecidableEq, Repr

/-- What can be told of a document in a schedule. -/
def view (s : Schedule) (uri : String) : View where
  phase := s.phase uri
  published := s.published uri
  sequence := (s.tracked? uri).map (·.sequence)
  numbers := (s.tasks.filter fun t => t.document.uri == uri).map Task.sequence?

/-- **What is seen of a document with each of its events**: what is published of it, and what can be
told of it then. -/
def trail (around : Surroundings) (uri : String) (s : Schedule) :
    List Event → List (List Publication × View)
  | [] => []
  | e :: rest =>
    let after := step around s e
    ((e.own? uri s).map fun _ => (publicationsOf uri after.2, after.1.view uri)).toList ++
      trail around uri after.1 rest

section Views

variable {uri : String} {s l : Schedule}

/-- Documents are in the same phase in the mirror. -/
theorem Mirrored.phase (h : Mirrored uri s l) : l.phase uri = s.phase uri := by
  have htracked := h.tracked
  have houtstanding : ∀ n, s.isTaskOf uri n = true →
      l.isOutstanding (s.rank uri n) = s.isOutstanding n := by
    intro n hn
    obtain ⟨t, ht, hu⟩ := isTaskOf_iff.mp hn
    obtain ⟨u, hmem, hmirror⟩ := h.tasks n t ht hu
    rw [isOutstanding_of_task? ht, isOutstanding_of_task? hmem, hmirror.isDone]
  unfold Schedule.phase
  generalize s.tracked? uri = x, l.tracked? uri = y at htracked
  cases htracked with
  | none => rfl
  | some hd =>
    rename_i d d'
    simp only [hd.pending, hd.inFlight]
    cases hp : d.pending with
    | none => rfl
    | some n => simp only [Option.map_some, houtstanding n (hd.own n hp)]

/-- The tasks of a document have the same numbers in the mirror, and in the same order. -/
theorem Mirrored.numbers (h : Mirrored uri s l) {n : Nat} (hn : n ≤ s.tasks.length) :
    ((l.tasks.take (s.rank uri n)).filter fun t => t.document.uri == uri).map Task.sequence? =
      ((s.tasks.take n).filter fun t => t.document.uri == uri).map Task.sequence? := by
  induction n with
  | zero => rfl
  | succ n ih =>
    obtain ⟨t, ht⟩ : ∃ t, s.tasks[n]? = some t := ⟨_, List.getElem?_eq_getElem hn⟩
    rw [List.take_add_one, ht, List.filter_append, List.map_append, ← ih (Nat.le_of_lt hn),
      rank_succ]
    by_cases hu : t.document.uri = uri
    · obtain ⟨u, hmem, hmirror⟩ := h.tasks n t ht hu
      have hmem : l.tasks[s.rank uri n]? = some u := hmem
      rw [if_pos (isTaskOf_iff.mpr ⟨t, ht, hu⟩), List.take_add_one, hmem, List.filter_append,
        List.map_append]
      simp [hmirror.document, hmirror.sequence?, hu]
    · have hnot : s.isTaskOf uri n = false := by
        have ht : s.task? n = some t := ht
        simp [isTaskOf, ht, hu]
      simp [hnot, hu]

/-- **Nothing can be told of a document that cannot be told of it in the mirror.** -/
theorem Mirrored.view (h : Mirrored uri s l) : l.view uri = s.view uri := by
  have htracked := h.tracked
  have hnumbers := h.numbers (Nat.le_refl _)
  rw [← h.length, List.take_length, List.take_length] at hnumbers
  unfold Schedule.view Schedule.published
  rw [h.phase, hnumbers]
  generalize s.tracked? uri = x, l.tracked? uri = y at htracked
  cases htracked with
  | none => rfl
  | some hd => simp only [Option.bind_some, Option.map_some, hd.published, hd.sequence]

end Views

/-! ### Each event -/

section Steps

variable {uri : String} {around around' : Surroundings} {s l : Schedule} {e : Event}

theorem Event.own?_eq_some {e' : Event} (h : e.own? uri s = some e') :
    (e.isGeneral = true ∨ e.uri s = some uri) ∧ e' = e.renumber (s.rank uri) := by
  unfold Event.own? at h
  split at h
  · rename_i hcond
    exact ⟨by simpa using hcond, (Option.some.inj h).symm⟩
  · cases h

theorem Event.own?_eq_none (h : e.own? uri s = none) :
    e.isGeneral = false ∧ e.uri s ≠ some uri := by
  unfold Event.own? at h
  split at h
  · cases h
  · rename_i hcond
    simpa using hcond

/-- **An event of the document is made on both sides**, and publishes the same of it. -/
theorem Mirrored.step_own (h : Mirrored uri s l) (hagree : around.AgreesOn uri around')
    {e' : Event} (he : e.own? uri s = some e') :
    Mirrored uri (step around s e).1 (step around' l e').1 ∧
      publicationsOf uri (step around' l e').2 = publicationsOf uri (step around s e).2 := by
  obtain ⟨hconcerns, rfl⟩ := Event.own?_eq_some he
  have hown : ∀ n, (s.task? n).map (·.document.uri) = some uri → s.isTaskOf uri n = true := by
    intro n hn
    obtain ⟨t, ht, hu⟩ := Option.map_eq_some_iff.mp hn
    exact isTaskOf_iff.mpr ⟨t, ht, hu⟩
  have ages : ∀ (s : Schedule) settings workspace,
      Ages uri True s { s with settings, workspace } :=
    fun s _ _ => ages_of_eq rfl (Nat.le_refl _)
  cases e with
  | schedule document delay =>
    have hu : document.uri = uri := by simpa [Event.isGeneral, Event.uri] using hconcerns
    refine ⟨h.schedule hu delay, ?_⟩
    simp [Schedule.step, Event.renumber, publicationsOf]
  | validate document sequence =>
    have hu : document.uri = uri := by simpa [Event.isGeneral, Event.uri] using hconcerns
    exact ⟨h.validate hu sequence, rfl⟩
  | close u =>
    obtain rfl : u = uri := by simpa [Event.isGeneral, Event.uri] using hconcerns
    refine ⟨h.close around around', ?_⟩
    simp [Schedule.step, Event.renumber, publicationsOf]
  | shutdown =>
    refine ⟨h.shutdown, ?_⟩
    simp [Schedule.step, Event.renumber, Schedule.shutdown, publicationsOf]
  | configure settings =>
    exact ⟨h.of_tasks_eq rfl rfl rfl h.workspace (ages s _ _) (ages l _ _) h.tracked, rfl⟩
  | moveTo workspace =>
    exact ⟨h.of_tasks_eq rfl rfl h.settings rfl (ages s _ _) (ages l _ _) h.tracked, rfl⟩
  | resume n =>
    have hn := hown n (by simpa [Event.isGeneral, Event.uri] using hconcerns)
    refine ⟨h.resume hagree hn, ?_⟩
    simp [Schedule.step, Event.renumber, publicationsOf]
  | complete n answer =>
    have hn := hown n (by simpa [Event.isGeneral, Event.uri] using hconcerns)
    obtain ⟨hmirror, hpublications⟩ := h.complete hn answer
    refine ⟨hmirror, ?_⟩
    rw [publicationsOf, publicationsOf]
    exact congrArg _ hpublications

theorem workspace_resume (n : Nat) : (resume around s n).1.workspace = s.workspace := by
  cases ht : s.task? n with
  | none => rw [resume_of_absent around ht]
  | some t =>
    generalize hx : resume around s n = x
    have hcases := resume_cases around ht
    rw [hx] at hcases
    cases hcases with
    | idle | cancelled | slept | unreadable | skipped => rfl
    | stuck | called => exact workspace_enroll _ t

theorem workspace_complete (n : Nat) (answer : Except Mishap ToolOutput) :
    (complete around s n answer).1.workspace = s.workspace := by
  by_cases hlint : ∃ t pass, s.task? n = some t ∧ t.stage = .linting pass
  · obtain ⟨t, pass, ht, hs⟩ := hlint
    generalize hx : complete around s n answer = x
    have hcases := complete_cases around answer ht hs
    rw [hx] at hcases
    cases hcases <;> rfl
  · rw [complete_of_not_linting around answer fun t pass ht hs => hlint ⟨t, pass, ht, hs⟩]

/-- Only what concerns all documents replaces the settings or the root of the workspace. -/
theorem inForce_step (he : e.isGeneral = false) :
    (step around s e).1.settings = s.settings ∧ (step around s e).1.workspace = s.workspace := by
  have hsettings := settings_step around s e
  cases e with
  | schedule document delay => exact ⟨hsettings, workspace_schedule s document delay⟩
  | validate => exact ⟨rfl, rfl⟩
  | close u => exact ⟨hsettings, workspace_close s around⟩
  | resume n => exact ⟨hsettings, workspace_resume n⟩
  | complete n answer => exact ⟨hsettings, workspace_complete n answer⟩
  | shutdown | configure | moveTo => cases he

/-- Tasks do not vanish. -/
theorem length_tasks_step_le (around : Surroundings) (e : Event) :
    s.tasks.length ≤ (step around s e).1.tasks.length := by
  by_contra hnot
  obtain ⟨t', ht', -⟩ := step_progress around e (List.getElem?_eq_getElem (Nat.not_le.mp hnot))
  exact Nat.lt_irrefl _ (task?_lt ht')

/-- A task of the document is there after an event of another one exactly if it was there before,
and is the same. -/
theorem task?_step_other (hc : Consistent s) (he : e.own? uri s = none) {n : Nat} {t : Task}
    (hu : t.document.uri = uri) :
    (step around s e).1.task? n = some t ↔ s.task? n = some t := by
  obtain ⟨hgeneral, hother⟩ := Event.own?_eq_none he
  have hkept : ∀ t, t.document.uri = uri → s.task? n = some t →
      (step around s e).1.task? n = some t := by
    rintro t rfl ht
    cases e with
    | validate document sequence =>
      rw [Schedule.step, task?_validate, if_neg (Nat.ne_of_lt (task?_lt ht)), ht]
    | shutdown => cases hgeneral
    | _ => exact task?_step_of_ne around hc rfl ht hother
  refine ⟨fun ht => ?_, hkept t hu⟩
  rcases step_task_before around e ht with
    ⟨t₀, ht₀, hprogress⟩ | ⟨-, ⟨document, delay, rfl, rfl⟩ | ⟨document, sequence, rfl, rfl⟩⟩
  · have hkept₀ := hkept t₀ (hprogress.document ▸ hu) ht₀
    rw [ht₀, ← hkept₀, ht]
  · exact absurd (congrArg some hu) hother
  · exact absurd (congrArg some hu) hother

/-- **An event of another document is made on one side only**, and publishes nothing of this one. -/
theorem Mirrored.step_other (h : Mirrored uri s l) (hc : Consistent s)
    (he : e.own? uri s = none) :
    Mirrored uri (step around s e).1 l ∧ publicationsOf uri (step around s e).2 = [] := by
  obtain ⟨hgeneral, hother⟩ := Event.own?_eq_none he
  obtain ⟨hsettings, hworkspace⟩ : (step around s e).1.settings = s.settings ∧
      (step around s e).1.workspace = s.workspace := inForce_step hgeneral
  have htracked := tracked?_step_of_ne around hother
  have ages : Ages uri True s (step around s e).1 :=
    ages_of_eq htracked (step_focus around s e "").nextLife_le
  have ages' : Ages uri True l l := ages_of_eq rfl (Nat.le_refl _)
  -- What is new belongs to another document, so that ranks go on as they are.
  have htask : ∀ n, (step around s e).1.isTaskOf uri n = s.isTaskOf uri n := by
    intro n
    rw [Bool.eq_iff_iff, isTaskOf_iff, isTaskOf_iff]
    exact exists_congr fun t => and_congr_left fun hu => task?_step_other hc he hu
  have hrank : ∀ n, (step around s e).1.rank uri n = s.rank uri n :=
    fun n => rank_congr fun m _ => htask m
  refine ⟨⟨h.settings.trans hsettings.symm, h.workspace.trans hworkspace.symm, ?_, ?_, ?_,
    ages.born h.born, h.born'⟩, ?_⟩
  · rw [hrank, rank_of_length_le (length_tasks_step_le around e), h.length]
  · intro n t ht hu
    obtain ⟨u, hmem, hmirror⟩ := h.tasks n t ((task?_step_other hc he hu).mp ht) hu
    rw [hrank]
    exact ⟨u, hmem, hmirror.age ages ages'⟩
  · rw [htracked]
    exact mirrored_mono h.tracked fun n hn => ⟨(htask n).trans hn, hrank n⟩
  · refine List.filter_eq_nil_iff.mpr fun p hp hu => hother ?_
    rw [uri_of_mem_publications around hp, beq_iff_eq.mp hu]

end Steps

/-! ### Whole runs -/

section Runs

variable {uri : String} {around around' : Surroundings} {s l : Schedule}

/-- An event of the document is one in the mirror, too. -/
theorem Mirrored.isSome_own? (h : Mirrored uri s l) {e e' : Event} (he : e.own? uri s = some e') :
    (e'.own? uri l).isSome = true := by
  obtain ⟨hconcerns, rfl⟩ := Event.own?_eq_some he
  have hmem : ∀ n, (s.task? n).map (·.document.uri) = some uri →
      (l.task? (s.rank uri n)).map (·.document.uri) = some uri := by
    intro n hn
    obtain ⟨t, ht, hu⟩ := Option.map_eq_some_iff.mp hn
    obtain ⟨u, hmem, hmirror⟩ := h.tasks n t ht hu
    rw [hmem, Option.map_some, hmirror.document, hu]
  have hcond : (e.renumber (s.rank uri)).isGeneral = true ∨
      (e.renumber (s.rank uri)).uri l = some uri := by
    cases e with
    | resume n => exact .inr (hmem n (by simpa [Event.isGeneral, Event.uri] using hconcerns))
    | complete n answer =>
      exact .inr (hmem n (by simpa [Event.isGeneral, Event.uri] using hconcerns))
    | _ => exact hconcerns
  simpa [Event.own?] using hcond

/-- **A run, and the run of the events of a document in it, go side by side.** -/
theorem Mirrored.run (h : Mirrored uri s l) (hc : Consistent s)
    (hagree : around.AgreesOn uri around') (es : List Event) :
    Mirrored uri (run around s es).1 (run around' l (ownEvents around uri s es)).1 ∧
      publicationsOf uri (Schedule.run around' l (ownEvents around uri s es)).2 =
        publicationsOf uri (Schedule.run around s es).2 ∧
      trail around' uri l (ownEvents around uri s es) = trail around uri s es := by
  induction es generalizing s l with
  | nil => exact ⟨h, rfl, rfl⟩
  | cons e rest ih =>
    cases he : e.own? uri s with
    | none =>
      obtain ⟨hstep, hsilent⟩ := h.step_other hc he
      obtain ⟨hrun, hpublications, htrail⟩ := ih hstep (hc.step around e)
      have hown : ownEvents around uri s (e :: rest) =
          ownEvents around uri (step around s e).1 rest := by simp [ownEvents, he]
      rw [hown]
      refine ⟨hrun, ?_, ?_⟩
      · rw [hpublications, Schedule.run, publicationsOf_append, hsilent, List.nil_append]
      · simpa [trail, he] using htrail
    | some e' =>
      obtain ⟨hstep, hsame⟩ := h.step_own hagree he
      obtain ⟨hrun, hpublications, htrail⟩ := ih hstep (hc.step around e)
      have hown : ownEvents around uri s (e :: rest) =
          e' :: ownEvents around uri (step around s e).1 rest := by simp [ownEvents, he]
      obtain ⟨e'', he''⟩ := Option.isSome_iff_exists.mp (h.isSome_own? he)
      rw [hown]
      refine ⟨hrun, ?_, ?_⟩
      · simp only [Schedule.run, publicationsOf_append, hsame, hpublications]
      · simp only [trail, he, he'', Option.map_some, hsame, hstep.view, htrail]

/-- An empty schedule is what it is to any document. -/
theorem mirrored_empty (uri : String) (settings : Settings) (workspace : Option Path) :
    Mirrored uri { settings, workspace } { settings, workspace } where
  settings := rfl
  workspace := rfl
  length := rfl
  tasks _ _ ht := by cases ht
  tracked := .none
  born := by
    rintro life ⟨d, hd, -⟩
    cases hd
  born' := by
    rintro life ⟨d, hd, -⟩
    cases hd

theorem Surroundings.AgreesOn.refl (uri : String) (around : Surroundings) :
    around.AgreesOn uri around :=
  fun _ _ _ _ => rfl

/-- **Documents do not interfere.** In worlds outside that agree on a document,

* a run is to the document what the run of its own events is: the same is published of it, and the
  same can be told of it after each of these events and at the end;
* so two runs in which the document has the same events are the same to it, whatever happens to
  other documents in either of them.

The events of the document are those that schedule, validate or close it, those with which one of
its tasks runs or is answered by the linter, each task known by its rank among those of the
document, and the shutdowns and replacements of the settings and of the root of the workspace. What
can be told of it is its phase, what is published of it, the number of its latest validation, and
the numbers of all validations of it. -/
theorem documents_do_not_interfere (settings : Settings) (workspace : Option Path)
    (hagree : around.AgreesOn uri around') :
    (∀ es,
      publicationsOf uri (run around' { settings, workspace }
          (ownEvents around uri { settings, workspace } es)).2 =
        publicationsOf uri (run around { settings, workspace } es).2 ∧
      (run around' { settings, workspace }
          (ownEvents around uri { settings, workspace } es)).1.view uri =
        (run around { settings, workspace } es).1.view uri ∧
      trail around' uri { settings, workspace }
          (ownEvents around uri { settings, workspace } es) =
        trail around uri { settings, workspace } es) ∧
    ∀ es es',
      ownEvents around uri { settings, workspace } es =
          ownEvents around' uri { settings, workspace } es' →
        publicationsOf uri (run around { settings, workspace } es).2 =
          publicationsOf uri (run around' { settings, workspace } es').2 ∧
        (run around { settings, workspace } es).1.view uri =
          (run around' { settings, workspace } es').1.view uri ∧
        trail around uri { settings, workspace } es =
          trail around' uri { settings, workspace } es' := by
  have hempty := mirrored_empty uri settings workspace
  have hc := consistent_empty settings workspace
  have halone : ∀ {around : Surroundings}, around.AgreesOn uri around' → ∀ es,
      publicationsOf uri (run around' { settings, workspace }
          (ownEvents around uri { settings, workspace } es)).2 =
        publicationsOf uri (run around { settings, workspace } es).2 ∧
      (run around' { settings, workspace }
          (ownEvents around uri { settings, workspace } es)).1.view uri =
        (run around { settings, workspace } es).1.view uri ∧
      trail around' uri { settings, workspace }
          (ownEvents around uri { settings, workspace } es) =
        trail around uri { settings, workspace } es := by
    intro around hagree es
    obtain ⟨hmirror, hpublications, htrail⟩ := hempty.run hc hagree es
    exact ⟨hpublications, hmirror.view, htrail⟩
  refine ⟨halone hagree, fun es es' hown => ?_⟩
  obtain ⟨hpublications, hview, htrail⟩ := halone hagree es
  obtain ⟨hpublications', hview', htrail'⟩ := halone (.refl uri around') es'
  rw [hown] at hpublications hview htrail
  exact ⟨hpublications.symm.trans hpublications', hview.symm.trans hview',
    htrail.symm.trans htrail'⟩

end Runs

/-! ### One document, with and without another -/

deriving instance DecidableEq for Event

/-- A world without files, in which nothing can be delivered. -/
def Surroundings.deaf : Surroundings where
  host := {}
  deliver _ := .error (.runner "closed")

/-- Another document. -/
def stranger : Document where
  uri := "file:///lib.py"
  version := some 7

/-- A document is validated and closed. -/
def secluded : List Event :=
  [.schedule (app 1) none, .resume 0, .resume 0, .complete 0 (.ok { exitCode := some 0 }),
    .close "file:///app.py"]

/-- The same happens to it while another one is scheduled, validated and closed. -/
def crowded : List Event :=
  [.schedule stranger none, .schedule (app 1) none, .resume 1, .validate stranger none,
    .resume 0, .resume 2, .resume 1, .complete 2 (.ok { exitCode := some 0 }),
    .complete 1 (.ok { exitCode := some 0 }), .close "file:///lib.py", .close "file:///app.py"]

/-- To the document both runs are the same. -/
theorem documents_do_not_interfere_crowded :
    Surroundings.AgreesOn "file:///app.py" .calm .deaf ∧
      publicationsOf "file:///app.py"
          (run .deaf { settings := { projectMarkers := [] } } crowded).2 =
        [publicationOf (app 1) [], clearing "file:///app.py"] ∧
      ownEvents .calm "file:///app.py" { settings := { projectMarkers := [] } } secluded =
        ownEvents .deaf "file:///app.py" { settings := { projectMarkers := [] } } crowded ∧
      publicationsOf "file:///app.py"
          (run .calm { settings := { projectMarkers := [] } } secluded).2 =
        publicationsOf "file:///app.py"
          (run .deaf { settings := { projectMarkers := [] } } crowded).2 ∧
      trail .calm "file:///app.py" { settings := { projectMarkers := [] } } secluded =
        trail .deaf "file:///app.py" { settings := { projectMarkers := [] } } crowded := by
  have hagree : Surroundings.AgreesOn "file:///app.py" .calm .deaf := fun _ _ _ _ => rfl
  have hown : ownEvents .calm "file:///app.py" { settings := { projectMarkers := [] } } secluded =
      ownEvents .deaf "file:///app.py" { settings := { projectMarkers := [] } } crowded := by
    decide +kernel
  obtain ⟨hpublications, -, htrail⟩ :=
    (documents_do_not_interfere { projectMarkers := [] } none hagree).2 secluded crowded hown
  exact ⟨hagree, by decide +kernel, hown, hpublications, htrail⟩

end Schedule

end LintBridge
