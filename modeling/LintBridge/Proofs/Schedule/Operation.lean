import LintBridge.Schedule
import Mathlib.Data.List.Basic

/-!
# What the operations on a schedule do to what can be read off it

A schedule is read through two look-ups: what is known of a document
(`LintBridge.Schedule.tracked?`) and what is known of a task (`LintBridge.Schedule.task?`). Each
operation is described here by what it does to the two, so that no later proof opens it again:

* `LintBridge.Schedule.modify`, `LintBridge.Schedule.follow` and `LintBridge.Schedule.leave` change
  one document and no task;
* `LintBridge.Schedule.setStage` changes one task and no document;
* `LintBridge.Schedule.cancel` marks one task, unless it is over
  (`LintBridge.Schedule.Task.requestCancel`);
* `LintBridge.Schedule.schedule` and `LintBridge.Schedule.close` do both, and
  `LintBridge.Schedule.shutdown` marks all scheduled tasks.
-/

namespace LintBridge

namespace Schedule

/-! ### Tasks on their own -/

/-- A task whose cancellation has been asked for; one that is over stays as it is. -/
def Task.requestCancel (t : Task) : Task :=
  if t.isDone then t else { t with cancelRequested := true }

/-- A task that has not got past its delay. -/
def Task.isWaiting (t : Task) : Bool :=
  match t.stage with
  | .fresh _ => true
  | .delayed => true
  | _ => false

section Task

variable (t : Task)

@[simp] theorem Task.requestCancel_document : t.requestCancel.document = t.document := by
  unfold Task.requestCancel
  split <;> rfl

@[simp] theorem Task.requestCancel_origin : t.requestCancel.origin = t.origin := by
  unfold Task.requestCancel
  split <;> rfl

@[simp] theorem Task.requestCancel_stage : t.requestCancel.stage = t.stage := by
  unfold Task.requestCancel
  split <;> rfl

@[simp] theorem Task.requestCancel_isDone : t.requestCancel.isDone = t.isDone := by
  simp only [Task.isDone, Task.requestCancel_stage]

@[simp] theorem Task.requestCancel_isScheduled : t.requestCancel.isScheduled = t.isScheduled := by
  simp only [Task.isScheduled, Task.requestCancel_origin]

@[simp] theorem Task.requestCancel_isWaiting : t.requestCancel.isWaiting = t.isWaiting := by
  simp only [Task.isWaiting, Task.requestCancel_stage]

/-- A task that is not over is marked. -/
theorem Task.requestCancel_cancelRequested {t : Task} (h : t.isDone = false) :
    t.requestCancel.cancelRequested = true := by
  simp [Task.requestCancel, h]

/-- A mark that is there stays. -/
theorem Task.cancelRequested_of_requestCancel {t : Task}
    (h : t.requestCancel.cancelRequested = false) : t.cancelRequested = false := by
  by_cases hd : t.isDone
  · simpa [Task.requestCancel, hd] using h
  · simp [Task.requestCancel, hd] at h

@[simp] theorem Task.requestCancel_idem : t.requestCancel.requestCancel = t.requestCancel := by
  by_cases hd : t.isDone
  · have h : t.requestCancel = t := by simp only [Task.requestCancel, hd, if_true]
    rw [h, h]
  · have h : t.requestCancel = { t with cancelRequested := true } := by
      simp only [Task.requestCancel, hd, if_false, Bool.false_eq_true]
    rw [Task.requestCancel, Task.requestCancel_isDone, if_neg hd, h]

/-- A task that waits is not over. -/
theorem Task.isDone_of_isWaiting {t : Task} (h : t.isWaiting = true) : t.isDone = false := by
  unfold Task.isWaiting at h
  unfold Task.isDone
  split at h <;> simp_all

end Task

/-! ### Documents -/

section Documents

variable (s : Schedule) (uri v : String)

/-- Looking up after a change of the values of one key. -/
theorem lookup_map_modify {f : Tracked → Tracked} (l : List (String × Tracked)) :
    (l.map fun (u, d) => if u == uri then (u, f d) else (u, d)).lookup v =
      if v = uri then (l.lookup v).map f else l.lookup v := by
  induction l with
  | nil => simp
  | cons entry rest ih =>
    obtain ⟨u, d⟩ := entry
    by_cases hu : u = uri
    · subst hu
      by_cases hv : v = u
      · simp [hv]
      · have hne : (v == u) = false := by simpa using hv
        simpa [List.lookup_cons, hv, hne] using ih
    · by_cases hv : v = u
      · subst hv
        simp [hu]
      · have hne : (v == u) = false := by simpa using hv
        simpa [List.lookup_cons, hu, hne] using ih

/-- Looking up after a key has been removed. -/
theorem lookup_filter_ne (l : List (String × Tracked)) :
    (l.filter (·.1 != uri)).lookup v = if v = uri then none else l.lookup v := by
  induction l with
  | nil => simp
  | cons entry rest ih =>
    obtain ⟨u, d⟩ := entry
    by_cases hu : u = uri
    · subst hu
      have hkeep : ((u, d).1 != u) = false := by simp
      rw [List.filter_cons, hkeep]
      by_cases hv : v = u
      · simpa [hv] using ih
      · have hne : (v == u) = false := by simpa using hv
        simpa [List.lookup_cons, hv, hne] using ih
    · have hkeep : ((u, d).1 != uri) = true := by simpa using hu
      rw [List.filter_cons, hkeep]
      by_cases hv : v = u
      · subst hv
        simp [hu]
      · have hne : (v == u) = false := by simpa using hv
        simpa [List.lookup_cons, hne] using ih

theorem tracked?_modify (f : Tracked → Tracked) :
    (s.modify uri f).tracked? v = if v = uri then (s.tracked? v).map f else s.tracked? v :=
  lookup_map_modify uri v s.documents

@[simp] theorem task?_modify (f : Tracked → Tracked) (m : Nat) :
    (s.modify uri f).task? m = s.task? m := rfl

@[simp] theorem nextLife_modify (f : Tracked → Tracked) :
    (s.modify uri f).nextLife = s.nextLife := rfl

@[simp] theorem trackedUris_modify (f : Tracked → Tracked) :
    (s.modify uri f).trackedUris = s.trackedUris := by
  unfold trackedUris modify
  rw [List.map_map]
  refine List.map_congr_left fun entry _ => ?_
  obtain ⟨u, d⟩ := entry
  simp only [Function.comp_apply]
  split <;> rfl

/-- A document is followed exactly when its URI is among those that are. -/
theorem mem_trackedUris {s : Schedule} {uri : String} :
    uri ∈ s.trackedUris ↔ ∃ d, s.tracked? uri = some d := by
  rw [← Option.isSome_iff_exists, tracked?, List.lookup_isSome_iff, trackedUris, List.mem_map]
  constructor
  · rintro ⟨entry, hmem, rfl⟩
    exact ⟨entry, hmem, by simp⟩
  · rintro ⟨entry, hmem, heq⟩
    exact ⟨entry, hmem, (beq_iff_eq.mp heq).symm⟩

/-- What a validation of a document starts from: what is known of it, or a new life. -/
def entry : Tracked :=
  (s.tracked? uri).getD { life := s.nextLife }

theorem entry_of_tracked {s : Schedule} {uri : String} {d : Tracked} (h : s.tracked? uri = some d) :
    s.entry uri = d := by
  rw [entry, h, Option.getD_some]

theorem entry_of_untracked {s : Schedule} {uri : String} (h : s.tracked? uri = none) :
    s.entry uri = { life := s.nextLife } := by
  rw [entry, h, Option.getD_none]

theorem follow_of_tracked {s : Schedule} {uri : String} {d : Tracked}
    (h : s.tracked? uri = some d) : s.follow uri = (s, d) := by
  simp only [follow, h]

theorem follow_of_untracked {s : Schedule} {uri : String} (h : s.tracked? uri = none) :
    s.follow uri =
      ({ s with
          documents := s.documents ++ [(uri, { life := s.nextLife })]
          nextLife := s.nextLife + 1 },
        { life := s.nextLife }) := by
  simp only [follow, h]

@[simp] theorem follow_snd : (s.follow uri).2 = s.entry uri := by
  cases h : s.tracked? uri with
  | none => rw [follow_of_untracked h, entry_of_untracked h]
  | some d => rw [follow_of_tracked h, entry_of_tracked h]

theorem tracked?_follow :
    (s.follow uri).1.tracked? v = if v = uri then some (s.entry uri) else s.tracked? v := by
  cases h : s.tracked? uri with
  | none =>
    rw [follow_of_untracked h, entry_of_untracked h]
    by_cases hv : v = uri
    · subst hv
      unfold tracked? at h ⊢
      simp [List.lookup_append, h]
    · have hne : (v == uri) = false := by simpa using hv
      unfold tracked?
      rw [List.lookup_append, List.lookup_cons, hne, if_neg hv]
      exact Option.or_none
  | some d =>
    rw [follow_of_tracked h, entry_of_tracked h]
    by_cases hv : v = uri
    · simp [hv, h]
    · simp [hv]

@[simp] theorem task?_follow (m : Nat) : (s.follow uri).1.task? m = s.task? m := by
  unfold follow
  split <;> rfl

@[simp] theorem tasks_follow : (s.follow uri).1.tasks = s.tasks := by
  unfold follow
  split <;> rfl

@[simp] theorem settings_follow : (s.follow uri).1.settings = s.settings := by
  unfold follow
  split <;> rfl

@[simp] theorem workspace_follow : (s.follow uri).1.workspace = s.workspace := by
  unfold follow
  split <;> rfl

/-- A new life is taken only where the document is not followed yet. -/
theorem nextLife_follow :
    (s.follow uri).1.nextLife = if s.tracked? uri = none then s.nextLife + 1 else s.nextLife := by
  cases h : s.tracked? uri with
  | none => simp [follow_of_untracked h]
  | some d => simp [follow_of_tracked h]

/-- A document that is followed anew comes last. -/
theorem trackedUris_follow :
    (s.follow uri).1.trackedUris =
      if s.tracked? uri = none then s.trackedUris ++ [uri] else s.trackedUris := by
  cases h : s.tracked? uri with
  | none => simp [follow_of_untracked h, trackedUris]
  | some d => simp [follow_of_tracked h]

end Documents

/-! ### Tasks in a schedule -/

section Tasks

variable (s : Schedule) (n m : Nat)

theorem task?_modifyTask (f : Task → Task) :
    (s.modifyTask n f).task? m = if m = n then (s.task? m).map f else s.task? m := by
  unfold modifyTask task?
  rw [List.getElem?_modify]
  by_cases h : m = n
  · simp [h]
  · simp [h, Ne.symm h]

@[simp] theorem tracked?_setStage (stage : Stage) (uri : String) :
    (s.setStage n stage).tracked? uri = s.tracked? uri := rfl

@[simp] theorem trackedUris_setStage (stage : Stage) :
    (s.setStage n stage).trackedUris = s.trackedUris := rfl

@[simp] theorem nextLife_setStage (stage : Stage) :
    (s.setStage n stage).nextLife = s.nextLife := rfl

theorem task?_setStage (stage : Stage) :
    (s.setStage n stage).task? m =
      if m = n then (s.task? m).map fun t => { t with stage } else s.task? m :=
  task?_modifyTask s n m _

/-- The task that is moved itself, where nothing else has happened to the tasks. -/
theorem task?_setStage_own {s s₁ : Schedule} {n : Nat} {t : Task} {stage : Stage}
    (ht : s.task? n = some t) (htasks : ∀ m, s₁.task? m = s.task? m) :
    (s₁.setStage n stage).task? n = some { t with stage } := by
  rw [task?_setStage, if_pos rfl, htasks, ht, Option.map_some]

@[simp] theorem length_tasks_setStage (stage : Stage) :
    (s.setStage n stage).tasks.length = s.tasks.length := by
  simp [setStage, modifyTask]

theorem task?_lt {s : Schedule} {n : Nat} {t : Task} (h : s.task? n = some t) :
    n < s.tasks.length :=
  (List.getElem?_eq_some_iff.mp h).1

/-- Whether a task is outstanding depends on its stage only. -/
theorem isOutstanding_of_task? {s : Schedule} {n : Nat} {t : Task} (h : s.task? n = some t) :
    s.isOutstanding n = !t.isDone := by
  simp only [isOutstanding, h]

theorem cancel_of_outstanding {s : Schedule} {n : Nat} (h : s.isOutstanding n = true) :
    s.cancel n = (s.modifyTask n fun t => { t with cancelRequested := true }, [.cancelled n]) := by
  simp only [cancel, h, if_true]

theorem cancel_of_not_outstanding {s : Schedule} {n : Nat} (h : s.isOutstanding n = false) :
    s.cancel n = (s, []) := by
  simp only [cancel, h, if_false, Bool.false_eq_true]

@[simp] theorem documents_cancel : (s.cancel n).1.documents = s.documents := by
  unfold cancel
  split <;> rfl

@[simp] theorem nextLife_cancel : (s.cancel n).1.nextLife = s.nextLife := by
  unfold cancel
  split <;> rfl

@[simp] theorem settings_cancel : (s.cancel n).1.settings = s.settings := by
  unfold cancel
  split <;> rfl

@[simp] theorem length_tasks_cancel : (s.cancel n).1.tasks.length = s.tasks.length := by
  unfold cancel
  split
  · simp [modifyTask]
  · rfl

/-- **Asking for a cancellation marks the task, unless it is over.** -/
theorem task?_cancel :
    (s.cancel n).1.task? m =
      if m = n then (s.task? m).map Task.requestCancel else s.task? m := by
  cases h : s.isOutstanding n with
  | true =>
    rw [cancel_of_outstanding h, task?_modifyTask]
    by_cases hm : m = n
    · subst hm
      rw [if_pos rfl, if_pos rfl]
      refine Option.map_congr fun t ht => ?_
      have hd : t.isDone = false := by
        rw [isOutstanding_of_task? ht] at h
        simpa using h
      simp [Task.requestCancel, hd]
    · rw [if_neg hm, if_neg hm]
  | false =>
    rw [cancel_of_not_outstanding h]
    by_cases hm : m = n
    · subst hm
      rw [if_pos rfl]
      cases ht : s.task? m with
      | none => rfl
      | some t =>
        have hd : t.isDone = true := by
          rw [isOutstanding_of_task? ht] at h
          simpa using h
        simp [Task.requestCancel, hd]
    · rw [if_neg hm]

@[simp] theorem documents_cancelAll (ns : List Nat) :
    (s.cancelAll ns).1.documents = s.documents := by
  induction ns generalizing s with
  | nil => rfl
  | cons n rest ih =>
    simp only [cancelAll]
    rw [ih, documents_cancel]

@[simp] theorem nextLife_cancelAll (ns : List Nat) :
    (s.cancelAll ns).1.nextLife = s.nextLife := by
  induction ns generalizing s with
  | nil => rfl
  | cons n rest ih =>
    simp only [cancelAll]
    rw [ih, nextLife_cancel]

@[simp] theorem length_tasks_cancelAll (ns : List Nat) :
    (s.cancelAll ns).1.tasks.length = s.tasks.length := by
  induction ns generalizing s with
  | nil => rfl
  | cons n rest ih =>
    simp only [cancelAll]
    rw [ih, length_tasks_cancel]

theorem task?_cancelAll (ns : List Nat) :
    (s.cancelAll ns).1.task? m =
      if m ∈ ns then (s.task? m).map Task.requestCancel else s.task? m := by
  induction ns generalizing s with
  | nil => simp [cancelAll]
  | cons n rest ih =>
    simp only [cancelAll]
    rw [ih, task?_cancel]
    by_cases hn : m = n
    · subst hn
      rw [if_pos rfl, if_pos List.mem_cons_self, Option.map_map]
      have hidem : Task.requestCancel ∘ Task.requestCancel = Task.requestCancel :=
        funext fun t => t.requestCancel_idem
      rw [hidem, ite_self]
    · rw [if_neg hn]
      simp only [List.mem_cons, hn, false_or]

/-- The scheduled tasks that are not over. -/
theorem mem_outstanding {s : Schedule} {n : Nat} :
    n ∈ s.outstanding ↔ ∃ t, s.task? n = some t ∧ t.isScheduled = true ∧ t.isDone = false := by
  unfold outstanding
  rw [List.mem_filter, List.mem_range]
  constructor
  · rintro ⟨-, h⟩
    cases ht : s.task? n with
    | none => simp [ht] at h
    | some t => exact ⟨t, rfl, by simpa [ht] using h⟩
  · rintro ⟨t, ht, hs, hd⟩
    exact ⟨task?_lt ht, by simp [ht, hs, hd]⟩

/-- Where nothing is outstanding, all scheduled tasks are over. -/
theorem done_of_outstanding {s : Schedule} (hquiet : s.outstanding = []) {n : Nat} {t : Task}
    (ht : s.task? n = some t) (hs : t.isScheduled = true) : t.isDone = true := by
  by_contra hnot
  have hmem : n ∈ s.outstanding := mem_outstanding.mpr ⟨t, ht, hs, by simpa using hnot⟩
  rw [hquiet] at hmem
  cases hmem

end Tasks

/-! ### Requests -/

section Requests

variable (s : Schedule) (document : Document) (delay : Option Binary64) (m : Nat) (v : String)

/-- The task that scheduling a validation creates. -/
def scheduledTask : Task where
  document := document
  origin := .scheduled ((s.entry document.uri).sequence + 1)
  stage := .fresh (delay.getD s.settings.debounceSeconds)

/-- What is known of a document once a validation of it has been scheduled. -/
def scheduledEntry : Tracked :=
  { s.entry document.uri with
    sequence := (s.entry document.uri).sequence + 1
    pending := some s.tasks.length }

/-- A schedule in which the cancellation of a waiting task, if there is one, has been asked for. -/
def cancelPending (pending : Option Nat) : Schedule × List Effect :=
  match pending with
  | some n => s.cancel n
  | none => (s, [])

theorem task?_cancelPending (pending : Option Nat) :
    (s.cancelPending pending).1.task? m =
      if pending = some m then (s.task? m).map Task.requestCancel else s.task? m := by
  cases pending with
  | none => simp [cancelPending]
  | some n =>
    simp only [cancelPending, task?_cancel, Option.some.injEq]
    by_cases h : m = n
    · rw [if_pos h, if_pos h.symm]
    · rw [if_neg h, if_neg (Ne.symm h)]

@[simp] theorem documents_cancelPending (pending : Option Nat) :
    (s.cancelPending pending).1.documents = s.documents := by
  cases pending with
  | none => rfl
  | some n => exact documents_cancel s n

@[simp] theorem nextLife_cancelPending (pending : Option Nat) :
    (s.cancelPending pending).1.nextLife = s.nextLife := by
  cases pending with
  | none => rfl
  | some n => exact nextLife_cancel s n

@[simp] theorem settings_cancelPending (pending : Option Nat) :
    (s.cancelPending pending).1.settings = s.settings := by
  cases pending with
  | none => rfl
  | some n => exact settings_cancel s n

@[simp] theorem length_tasks_cancelPending (pending : Option Nat) :
    (s.cancelPending pending).1.tasks.length = s.tasks.length := by
  cases pending with
  | none => rfl
  | some n => exact length_tasks_cancel s n

theorem documents_schedule :
    (s.schedule document delay).1.documents =
      ((s.follow document.uri).1.modify document.uri fun d =>
        { d with
          sequence := (s.entry document.uri).sequence + 1
          pending := some s.tasks.length }).documents := by
  have hentry : (s.follow document.uri).2 = s.entry document.uri := follow_snd s document.uri
  simp only [schedule, hentry, create]
  cases (s.entry document.uri).pending with
  | none => simp [modify]
  | some n => simp [modify]

theorem tasks_schedule :
    (s.schedule document delay).1.tasks =
      ((s.follow document.uri).1.cancelPending (s.entry document.uri).pending).1.tasks ++
        [s.scheduledTask document delay] := by
  have hentry : (s.follow document.uri).2 = s.entry document.uri := follow_snd s document.uri
  simp only [schedule, hentry, create, scheduledTask]
  cases (s.entry document.uri).pending with
  | none => simp [cancelPending, modify]
  | some n => simp [cancelPending, modify]

@[simp] theorem nextLife_schedule :
    (s.schedule document delay).1.nextLife = (s.follow document.uri).1.nextLife := by
  simp only [schedule, create]
  cases (s.follow document.uri).2.pending with
  | none => simp [modify]
  | some n => simp [modify]

/-- **What scheduling does to documents**: the document takes the next number and its new task. -/
theorem tracked?_schedule :
    (s.schedule document delay).1.tracked? v =
      if v = document.uri then some (s.scheduledEntry document) else s.tracked? v := by
  unfold tracked?
  rw [documents_schedule]
  refine (tracked?_modify _ document.uri v _).trans ?_
  rw [tracked?_follow]
  by_cases hv : v = document.uri
  · simp [hv, scheduledEntry]
  · simp only [hv, if_false]
    rfl

/-- **What scheduling does to tasks**: there is a new one, and the one that waited is marked. -/
theorem task?_schedule :
    (s.schedule document delay).1.task? m =
      if m = s.tasks.length then some (s.scheduledTask document delay)
      else if (s.entry document.uri).pending = some m then (s.task? m).map Task.requestCancel
      else s.task? m := by
  have hlen : ((s.follow document.uri).1.cancelPending
      (s.entry document.uri).pending).1.tasks.length = s.tasks.length := by simp
  have hold := task?_cancelPending (s.follow document.uri).1 m (s.entry document.uri).pending
  rw [task?_follow] at hold
  unfold task? at hold ⊢
  rw [tasks_schedule, List.getElem?_append, ← hold, hlen]
  by_cases hlt : m < s.tasks.length
  · rw [if_pos hlt, if_neg (Nat.ne_of_lt hlt)]
  · rw [if_neg hlt]
    by_cases hm : m = s.tasks.length
    · simp [hm]
    · rw [if_neg hm, List.getElem?_eq_none, List.getElem?_eq_none]
      · rw [hlen]
        omega
      · simp only [List.length_singleton]
        omega

@[simp] theorem length_tasks_schedule :
    (s.schedule document delay).1.tasks.length = s.tasks.length + 1 := by
  rw [tasks_schedule]
  simp

@[simp] theorem trackedUris_schedule :
    (s.schedule document delay).1.trackedUris = (s.follow document.uri).1.trackedUris := by
  unfold trackedUris
  rw [documents_schedule]
  exact trackedUris_modify _ document.uri _

/-- The task that asking for a validation creates. -/
def directTask (sequence : Option Int) : Task where
  document := document
  origin := .direct sequence
  stage := .fresh (.ofInt 0)

theorem task?_validate (sequence : Option Int) :
    (s.validate document sequence).1.task? m =
      if m = s.tasks.length then some (directTask document sequence) else s.task? m := by
  unfold validate create task?
  rw [List.getElem?_append]
  by_cases hlt : m < s.tasks.length
  · rw [if_pos hlt, if_neg (Nat.ne_of_lt hlt)]
  · rw [if_neg hlt]
    by_cases hm : m = s.tasks.length
    · simp [hm, directTask]
    · rw [if_neg hm, List.getElem?_eq_none, List.getElem?_eq_none]
      · omega
      · simp only [List.length_singleton]
        omega

@[simp] theorem length_tasks_validate (sequence : Option Int) :
    (s.validate document sequence).1.tasks.length = s.tasks.length + 1 := by
  simp [validate, create]

variable (around : Surroundings)

/-- The task that waits for a document, if the document is followed and a task waits for it. -/
def pendingOf (uri : String) : Option Nat :=
  (s.tracked? uri).bind (·.pending)

theorem pendingOf_eq_some {s : Schedule} {uri : String} {n : Nat} :
    s.pendingOf uri = some n ↔ ∃ d, s.tracked? uri = some d ∧ d.pending = some n :=
  Option.bind_eq_some_iff

theorem close_fst (uri : String) :
    (close around s uri).1 =
      ({ s with documents := s.documents.filter (·.1 != uri) }.cancelPending
        (s.pendingOf uri)).1 := by
  unfold close pendingOf
  cases (s.tracked? uri).bind (·.pending) <;> rfl

theorem tracked?_close (uri : String) :
    (close around s uri).1.tracked? v = if v = uri then none else s.tracked? v := by
  rw [close_fst]
  exact (congrArg (List.lookup v) (documents_cancelPending _ _)).trans (lookup_filter_ne uri v _)

theorem task?_close (uri : String) :
    (close around s uri).1.task? m =
      if s.pendingOf uri = some m then (s.task? m).map Task.requestCancel else s.task? m := by
  rw [close_fst]
  exact task?_cancelPending _ m _

@[simp] theorem nextLife_close (uri : String) : (close around s uri).1.nextLife = s.nextLife := by
  rw [close_fst]
  exact nextLife_cancelPending _ _

@[simp] theorem length_tasks_close (uri : String) :
    (close around s uri).1.tasks.length = s.tasks.length := by
  rw [close_fst]
  exact length_tasks_cancelPending _ _

theorem trackedUris_close (uri : String) :
    (close around s uri).1.trackedUris = s.trackedUris.filter (· != uri) := by
  unfold trackedUris
  rw [close_fst, documents_cancelPending, List.filter_map]
  rfl

/-- **A shutdown marks every scheduled task that is not over.** -/
theorem task?_shutdown :
    s.shutdown.1.task? m =
      (s.task? m).map fun t => if t.isScheduled then t.requestCancel else t := by
  unfold shutdown
  rw [task?_cancelAll]
  cases ht : s.task? m with
  | none => simp
  | some t =>
    by_cases hm : m ∈ s.outstanding
    · obtain ⟨t', ht', hsch, -⟩ := mem_outstanding.mp hm
      obtain rfl : t = t' := by simpa [ht] using ht'
      simp [hm, hsch]
    · rw [if_neg hm]
      by_cases hsch : t.isScheduled
      · have hd : t.isDone = true := by
          by_contra hd
          exact hm (mem_outstanding.mpr ⟨t, ht, hsch, by simpa using hd⟩)
        simp [hsch, Task.requestCancel, hd]
      · simp [hsch]

@[simp] theorem tracked?_shutdown : s.shutdown.1.tracked? v = s.tracked? v :=
  congrArg (List.lookup v) (documents_cancelAll s _)

@[simp] theorem trackedUris_shutdown : s.shutdown.1.trackedUris = s.trackedUris := by
  unfold trackedUris shutdown
  rw [documents_cancelAll]

@[simp] theorem nextLife_shutdown : s.shutdown.1.nextLife = s.nextLife :=
  nextLife_cancelAll s _

@[simp] theorem length_tasks_shutdown : s.shutdown.1.tasks.length = s.tasks.length :=
  length_tasks_cancelAll s _

end Requests

end Schedule

end LintBridge
