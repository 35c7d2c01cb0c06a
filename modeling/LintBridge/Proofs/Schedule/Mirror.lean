import LintBridge.Proofs.Schedule.Outdated

/-!
# A document by itself

To a document, a schedule is what it would be if there were no other documents. Take from a schedule
what concerns one document – what is known of it, and the tasks that are validations of it – and
what is left is a schedule of that document alone, in which tasks have other numbers and lives have
other names (`LintBridge.Schedule.Mirrored`):

* a task is known by its **rank** among the tasks of its document (`LintBridge.Schedule.rank`),
  which does not change when others are created;
* of a life nothing matters but whether it still lasts. So a validation that is under way is
  mirrored by one of another life, provided that the document is in the one life exactly if it is
  in the other.

Whatever is done to the document is done to both alike. This module says so of each of the changes
that operations on schedules are made of.
-/

namespace LintBridge

namespace Schedule

/-! ### Ranks -/

/-- Whether a task is a validation of a document. -/
def isTaskOf (s : Schedule) (uri : String) (n : Nat) : Bool :=
  (s.task? n).any fun t => t.document.uri == uri

/-- **The rank of a task among those of a document**: how many of them come before it. -/
def rank (s : Schedule) (uri : String) (n : Nat) : Nat :=
  (List.range n).countP (s.isTaskOf uri)

section Rank

variable {s s' : Schedule} {uri : String} {n m : Nat}

theorem isTaskOf_iff :
    s.isTaskOf uri n = true ↔ ∃ t, s.task? n = some t ∧ t.document.uri = uri := by
  simp [isTaskOf, Option.any_eq_true]

theorem rank_succ :
    s.rank uri (n + 1) = s.rank uri n + if s.isTaskOf uri n then 1 else 0 := by
  simp [rank, List.range_succ, List.countP_append, List.countP_singleton]

theorem rank_mono (h : n ≤ m) : s.rank uri n ≤ s.rank uri m := by
  induction h with
  | refl => exact Nat.le_refl _
  | step _ ih =>
    rw [rank_succ]
    omega

theorem rank_lt (hn : s.isTaskOf uri n = true) (h : n < m) : s.rank uri n < s.rank uri m := by
  have hsucc : s.rank uri (n + 1) = s.rank uri n + 1 := by rw [rank_succ, if_pos hn]
  have hle : s.rank uri (n + 1) ≤ s.rank uri m := rank_mono h
  omega

/-- Tasks of a document differ in rank. -/
theorem rank_inj (hn : s.isTaskOf uri n = true) (hm : s.isTaskOf uri m = true) :
    s.rank uri n = s.rank uri m ↔ n = m := by
  refine ⟨fun h => ?_, fun h => h ▸ rfl⟩
  rcases Nat.lt_trichotomy n m with hlt | heq | hlt
  · exact absurd h (Nat.ne_of_lt (rank_lt hn hlt))
  · exact heq
  · exact absurd h.symm (Nat.ne_of_lt (rank_lt hm hlt))

theorem rank_congr (h : ∀ m, m < n → s'.isTaskOf uri m = s.isTaskOf uri m) :
    s'.rank uri n = s.rank uri n := by
  refine List.countP_congr fun m hm => ?_
  rw [h m (List.mem_range.mp hm)]

theorem isTaskOf_lt (h : s.isTaskOf uri n = true) : n < s.tasks.length := by
  obtain ⟨t, ht, -⟩ := isTaskOf_iff.mp h
  exact task?_lt ht

@[simp] theorem isTaskOf_setStage (stage : Stage) :
    (s.setStage n stage).isTaskOf uri m = s.isTaskOf uri m := by
  rw [isTaskOf, task?_setStage]
  split
  · rw [Option.any_map]
    rfl
  · rfl

@[simp] theorem rank_setStage (stage : Stage) :
    (s.setStage n stage).rank uri m = s.rank uri m :=
  rank_congr fun _ _ => isTaskOf_setStage stage

theorem isTaskOf_of_tasks_eq (h : s'.tasks = s.tasks) :
    s'.isTaskOf uri n = s.isTaskOf uri n := by
  simp only [isTaskOf, task?, h]

theorem rank_of_tasks_eq (h : s'.tasks = s.tasks) : s'.rank uri n = s.rank uri n :=
  rank_congr fun _ _ => isTaskOf_of_tasks_eq h

/-- Where there are no tasks, ranks do not go up. -/
theorem rank_of_length_le (h : s.tasks.length ≤ n) :
    s.rank uri n = s.rank uri s.tasks.length := by
  induction h with
  | refl => rfl
  | @step m hm ih =>
    have hnot : s.isTaskOf uri m ≠ true := fun hown => Nat.not_lt.mpr hm (isTaskOf_lt hown)
    rw [rank_succ, if_neg hnot, ih, Nat.add_zero]

theorem rank_leave (v : String) (life : Nat) : (s.leave v life).rank uri n = s.rank uri n :=
  rfl

end Rank

/-! ### Lives -/

/-- Whether a document is in a life. -/
def livesIn (s : Schedule) (uri : String) (life : Nat) : Prop :=
  ∃ d, s.tracked? uri = some d ∧ d.life = life

/-- **What becomes of the lives of a document**: those that have been given out before go on, if any
do, and a new one has not been given out before. -/
structure Ages (uri : String) (goesOn : Prop) (s s' : Schedule) : Prop where
  /-- Lives that have been given out stay given out. -/
  nextLife_le : s.nextLife ≤ s'.nextLife
  /-- The document is in the same life as before, if that goes on. -/
  livesIn_iff : ∀ life, life < s.nextLife → (s'.livesIn uri life ↔ goesOn ∧ s.livesIn uri life)
  /-- The life that the document is in has been given out. -/
  born : (∀ life, s.livesIn uri life → life < s.nextLife) →
    ∀ life, s'.livesIn uri life → life < s'.nextLife

section Ages

variable {s s' : Schedule} {uri : String}

theorem ages_of_map {f : Tracked → Tracked} (hf : ∀ d, (f d).life = d.life)
    (hd : s'.tracked? uri = (s.tracked? uri).map f) (hn : s.nextLife ≤ s'.nextLife) :
    Ages uri True s s' := by
  have hiff : ∀ life, s'.livesIn uri life ↔ s.livesIn uri life := by
    intro life
    unfold livesIn
    rw [hd]
    simp [Option.map_eq_some_iff, hf]
  exact ⟨hn, fun life _ => by rw [hiff, true_and],
    fun hborn life h => Nat.lt_of_lt_of_le (hborn life ((hiff life).mp h)) hn⟩

theorem ages_of_eq (hd : s'.tracked? uri = s.tracked? uri) (hn : s.nextLife ≤ s'.nextLife) :
    Ages uri True s s' :=
  @ages_of_map s s' uri id (fun _ => rfl) (by rw [hd, Option.map_id_fun, id_eq]) hn

/-- A document that is followed goes on with its life, or begins one that is new. -/
theorem ages_of_entry {d' : Tracked} (hd' : s'.tracked? uri = some d')
    (hlife : d'.life = (s.entry uri).life) (hn : (s.follow uri).1.nextLife ≤ s'.nextLife) :
    Ages uri True s s' := by
  have hlives : ∀ life, s'.livesIn uri life ↔ (s.entry uri).life = life := by
    intro life
    simp [livesIn, hd', hlife]
  rcases life_follow s uri with ⟨d, hd, he, hl⟩ | ⟨hd, he, hl⟩
  · refine ⟨hl ▸ hn, fun life _ => ?_, fun hborn life h => ?_⟩
    · rw [hlives, he, true_and]
      simp [livesIn, hd]
    · have hlt := hborn life ⟨d, hd, he ▸ (hlives life).mp h⟩
      omega
  · refine ⟨by omega, fun life hlt => ?_, fun _ life h => ?_⟩
    · rw [hlives, he]
      simp only [livesIn, hd, reduceCtorEq, false_and, exists_false, and_false, iff_false]
      omega
    · rw [hlives, he] at h
      have heq : s.nextLife = life := h
      omega

theorem ages_of_none (hd : s'.tracked? uri = none) (hn : s.nextLife ≤ s'.nextLife) :
    Ages uri False s s' := by
  have hnot : ∀ life, ¬ s'.livesIn uri life := by
    rintro life ⟨d, hd', -⟩
    rw [hd] at hd'
    cases hd'
  exact ⟨hn, fun life _ => by simp [hnot], fun _ life h => absurd h (hnot life)⟩

end Ages

/-! ### The mirror -/

/-- A stage, and the stage of the task that mirrors it. Only a validation that is under way has a
life of its own. -/
inductive Stage.Mirrored (s l : Schedule) (uri : String) : Stage → Stage → Prop where
  /-- Tasks that have not run yet wait alike. -/
  | fresh (delay : Binary64) : Stage.Mirrored s l uri (.fresh delay) (.fresh delay)
  /-- Tasks that wait are not told apart. -/
  | delayed : Stage.Mirrored s l uri .delayed .delayed
  /-- Validations that are under way have fixed the same, and their lives last alike. -/
  | linting (pass : Pass) (life : Nat) (born : pass.life < s.nextLife) (born' : life < l.nextLife)
      (lives : s.livesIn uri pass.life ↔ l.livesIn uri life) :
      Stage.Mirrored s l uri (.linting pass) (.linting { pass with life })
  /-- Tasks that are over are so on both sides, however they have ended. -/
  | done (outcome outcome' : Outcome) : Stage.Mirrored s l uri (.done outcome) (.done outcome')

/-- A task, and the task that mirrors it. -/
structure Task.Mirrored (s l : Schedule) (uri : String) (t u : Task) : Prop where
  /-- The document is the same. -/
  document : u.document = t.document
  /-- The origin is the same. -/
  origin : u.origin = t.origin
  /-- Both are marked, or neither is. -/
  cancelRequested : u.cancelRequested = t.cancelRequested
  /-- The stages mirror each other. -/
  stage : Stage.Mirrored s l uri t.stage u.stage

/-- What is known of a document, and what mirrors it. -/
structure Tracked.Mirrored (s : Schedule) (uri : String) (d d' : Tracked) : Prop where
  /-- The number of the latest validation is the same. -/
  sequence : d'.sequence = d.sequence
  /-- As many validations are under way. -/
  inFlight : d'.inFlight = d.inFlight
  /-- The same is published. -/
  published : d'.published = d.published
  /-- The task that is waited for has the rank of the other. -/
  pending : d'.pending = d.pending.map (s.rank uri)
  /-- The task that is waited for is one of the document. -/
  own : ∀ n, d.pending = some n → s.isTaskOf uri n = true

/-- **What a schedule is to one document**: another schedule, of that document alone. -/
structure Mirrored (uri : String) (s l : Schedule) : Prop where
  /-- The same settings are in force. -/
  settings : l.settings = s.settings
  /-- The root of the workspace is the same. -/
  workspace : l.workspace = s.workspace
  /-- There are as many tasks as there are of the document. -/
  length : l.tasks.length = s.rank uri s.tasks.length
  /-- Each task of the document is mirrored by the one that has its rank. -/
  tasks : ∀ n t, s.task? n = some t → t.document.uri = uri →
    ∃ u, l.task? (s.rank uri n) = some u ∧ Task.Mirrored s l uri t u
  /-- The document is followed in both or in neither. -/
  tracked : Option.Rel (Tracked.Mirrored s uri) (s.tracked? uri) (l.tracked? uri)
  /-- The life that the document is in has been given out. -/
  born : ∀ life, s.livesIn uri life → life < s.nextLife
  /-- The life that it is in by itself has been given out. -/
  born' : ∀ life, l.livesIn uri life → life < l.nextLife

section Mirror

variable {s s' l l' : Schedule} {uri : String} {t u : Task} {d d' : Tracked} {goesOn : Prop}

theorem Stage.Mirrored.age {stage stage' : Stage} (h : Stage.Mirrored s l uri stage stage')
    (hs : Ages uri goesOn s s') (hl : Ages uri goesOn l l') :
    Stage.Mirrored s' l' uri stage stage' := by
  cases h with
  | fresh delay => exact .fresh delay
  | delayed => exact .delayed
  | linting pass life born born' lives =>
    refine .linting pass life (Nat.lt_of_lt_of_le born hs.nextLife_le)
      (Nat.lt_of_lt_of_le born' hl.nextLife_le) ?_
    rw [hs.livesIn_iff _ born, hl.livesIn_iff _ born', lives]
  | done outcome outcome' => exact .done outcome outcome'

theorem Task.Mirrored.age (h : Task.Mirrored s l uri t u) (hs : Ages uri goesOn s s')
    (hl : Ages uri goesOn l l') : Task.Mirrored s' l' uri t u where
  document := h.document
  origin := h.origin
  cancelRequested := h.cancelRequested
  stage := h.stage.age hs hl

theorem Task.Mirrored.isScheduled (h : Task.Mirrored s l uri t u) :
    u.isScheduled = t.isScheduled := by
  simp only [Task.isScheduled, h.origin]

theorem Task.Mirrored.sequence? (h : Task.Mirrored s l uri t u) : u.sequence? = t.sequence? := by
  simp only [Task.sequence?, h.origin]

theorem Task.Mirrored.isDone (h : Task.Mirrored s l uri t u) : u.isDone = t.isDone := by
  unfold Task.isDone
  generalize t.stage = stage, u.stage = stage', h.stage = hstage
  cases hstage <;> rfl

theorem Task.Mirrored.requestCancel (h : Task.Mirrored s l uri t u) :
    Task.Mirrored s l uri t.requestCancel u.requestCancel := by
  refine ⟨by simpa using h.document, by simpa using h.origin, ?_, by simpa using h.stage⟩
  unfold Task.requestCancel
  rw [h.isDone]
  split
  · exact h.cancelRequested
  · rfl

/-- Ranks are what a document is known by, so nothing else of the tasks matters to it. -/
theorem Tracked.Mirrored.mono (h : Tracked.Mirrored s uri d d')
    (htasks : ∀ n, s.isTaskOf uri n = true →
      s'.isTaskOf uri n = true ∧ s'.rank uri n = s.rank uri n) :
    Tracked.Mirrored s' uri d d' where
  sequence := h.sequence
  inFlight := h.inFlight
  published := h.published
  pending := by
    rw [h.pending]
    exact Option.map_congr fun n hn => ((htasks n (h.own n hn)).2).symm
  own n hn := (htasks n (h.own n hn)).1

theorem mirrored_mono {x y : Option Tracked} (h : Option.Rel (Tracked.Mirrored s uri) x y)
    (htasks : ∀ n, s.isTaskOf uri n = true →
      s'.isTaskOf uri n = true ∧ s'.rank uri n = s.rank uri n) :
    Option.Rel (Tracked.Mirrored s' uri) x y := by
  cases h with
  | some hd => exact .some (hd.mono htasks)
  | none => exact .none

/-- The task that is waited for is the one that has its rank. -/
theorem Tracked.Mirrored.pending_iff (h : Tracked.Mirrored s uri d d') {n : Nat}
    (hn : s.isTaskOf uri n = true) : d'.pending = some (s.rank uri n) ↔ d.pending = some n := by
  rw [h.pending, Option.map_eq_some_iff]
  constructor
  · rintro ⟨m, hm, heq⟩
    rw [hm, (rank_inj (h.own m hm) hn).mp heq]
  · exact fun hp => ⟨n, hp, rfl⟩

end Mirror

/-! ### Changes of what is known -/

section Documents

variable {uri : String} {s l s₁ l₁ : Schedule} {goesOn : Prop}

theorem tasks_enroll (s : Schedule) (t : Task) : (s.enroll t).tasks = s.tasks :=
  tasks_follow s t.document.uri

theorem workspace_enroll (s : Schedule) (t : Task) : (s.enroll t).workspace = s.workspace :=
  workspace_follow s t.document.uri

/-- **A change that leaves the tasks alone**, made to both alike. -/
theorem Mirrored.of_tasks_eq (h : Mirrored uri s l) (hs : s₁.tasks = s.tasks)
    (hl : l₁.tasks = l.tasks) (hsettings : l₁.settings = s₁.settings)
    (hworkspace : l₁.workspace = s₁.workspace) (ages : Ages uri goesOn s s₁)
    (ages' : Ages uri goesOn l l₁)
    (htracked : Option.Rel (Tracked.Mirrored s uri) (s₁.tracked? uri) (l₁.tracked? uri)) :
    Mirrored uri s₁ l₁ where
  settings := hsettings
  workspace := hworkspace
  length := by rw [rank_of_tasks_eq hs, hs, hl, h.length]
  tasks n t ht hu := by
    rw [task?, hs] at ht
    obtain ⟨u, hmem, hmirror⟩ := h.tasks n t ht hu
    rw [rank_of_tasks_eq hs, task?, hl]
    exact ⟨u, hmem, hmirror.age ages ages'⟩
  tracked := mirrored_mono htracked fun _ hn =>
    ⟨(isTaskOf_of_tasks_eq hs).trans hn, rank_of_tasks_eq hs⟩
  born := ages.born h.born
  born' := ages'.born h.born'

/-- A change of what is known of the document within its life. -/
theorem Mirrored.modify (h : Mirrored uri s l) {f g : Tracked → Tracked}
    (hf : ∀ d, (f d).life = d.life) (hg : ∀ d, (g d).life = d.life)
    (hfg : ∀ d d', s.tracked? uri = some d → l.tracked? uri = some d' →
      Tracked.Mirrored s uri d d' → Tracked.Mirrored s uri (f d) (g d')) :
    Mirrored uri (s.modify uri f) (l.modify uri g) := by
  have hs : (s.modify uri f).tracked? uri = (s.tracked? uri).map f := by
    rw [tracked?_modify, if_pos rfl]
  have hl : (l.modify uri g).tracked? uri = (l.tracked? uri).map g := by
    rw [tracked?_modify, if_pos rfl]
  refine h.of_tasks_eq rfl rfl h.settings h.workspace (ages_of_map hf hs (Nat.le_refl _))
    (ages_of_map hg hl (Nat.le_refl _)) ?_
  rw [hs, hl]
  have htracked := h.tracked
  cases hd : s.tracked? uri with
  | none =>
    rw [hd] at htracked
    generalize l.tracked? uri = d' at htracked
    cases htracked
    exact .none
  | some d =>
    cases hd' : l.tracked? uri with
    | none =>
      rw [hd, hd'] at htracked
      cases htracked
    | some d' =>
      rw [hd, hd'] at htracked
      cases htracked with
      | some hmirror => exact .some (hfg d d' hd hd' hmirror)

/-- The task that is waited for is no longer. -/
theorem Mirrored.release (h : Mirrored uri s l) {n : Nat} (hn : s.isTaskOf uri n = true) :
    Mirrored uri (s.release n uri) (l.release (s.rank uri n) uri) := by
  refine h.modify (fun d => d.release_life n) (fun d => d.release_life _) ?_
  intro d d' _ _ hd
  have hpending := hd.pending_iff hn
  unfold Tracked.release
  by_cases hp : d.pending = some n
  · rw [if_pos hp, if_pos (hpending.mpr hp)]
    exact ⟨hd.sequence, hd.inFlight, hd.published, rfl, fun _ hm => (by cases hm)⟩
  · rw [if_neg hp, if_neg (mt hpending.mp hp)]
    exact hd

/-- A validation that is over is taken off the count. -/
theorem Mirrored.leave (h : Mirrored uri s l) {life life' : Nat}
    (hlives : s.livesIn uri life ↔ l.livesIn uri life') :
    Mirrored uri (s.leave uri life) (l.leave uri life') := by
  refine h.modify (fun d => d.leave_life life) (fun d => d.leave_life life') ?_
  intro d d' hs hl hd
  have hlife : d.life = life ↔ d'.life = life' := by
    simpa [livesIn, hs, hl] using hlives
  have hsame : (d.life == life) = (d'.life == life') := by
    rw [Bool.eq_iff_iff, beq_iff_eq, beq_iff_eq, hlife]
  have hcount : (d'.leave life').inFlight = (d.leave life).inFlight := by
    unfold Tracked.leave
    rw [hsame]
    split
    · exact congrArg (· - 1) hd.inFlight
    · exact hd.inFlight
  change Tracked.Mirrored s uri (d.leave life) (d'.leave life')
  refine ⟨?_, hcount, ?_, ?_, ?_⟩
  · simpa only [Tracked.leave_sequence] using hd.sequence
  · simpa only [Tracked.leave_published] using hd.published
  · simpa only [Tracked.leave_pending] using hd.pending
  · simpa only [Tracked.leave_pending] using hd.own

/-- What was found is written down as published. -/
theorem Mirrored.record (h : Mirrored uri s l) (records : List Record) :
    Mirrored uri (s.record uri records) (l.record uri records) :=
  h.modify (fun _ => rfl) (fun _ => rfl) fun _ _ _ _ hd =>
    ⟨hd.sequence, hd.inFlight, rfl, hd.pending, hd.own⟩

/-- What a validation of the document starts from is mirrored. -/
theorem Mirrored.entry (h : Mirrored uri s l) :
    Tracked.Mirrored s uri (s.entry uri) (l.entry uri) := by
  have htracked := h.tracked
  unfold Schedule.entry
  generalize s.tracked? uri = x, l.tracked? uri = y at htracked
  cases htracked with
  | some hd => exact hd
  | none => exact ⟨rfl, rfl, rfl, rfl, fun _ hn => (by cases hn)⟩

/-- One more validation is under way. -/
theorem Mirrored.enroll {t u : Task} (h : Mirrored uri s l) (ht : t.document.uri = uri)
    (hu : Task.Mirrored s l uri t u) : Mirrored uri (s.enroll t) (l.enroll u) := by
  have hu' : u.document.uri = uri := by rw [hu.document, ht]
  have hs : (s.enroll t).tracked? uri = some (s.enrolled t) := by
    rw [tracked?_enroll, if_pos ht.symm]
  have hl : (l.enroll u).tracked? uri = some (l.enrolled u) := by
    rw [tracked?_enroll, if_pos hu'.symm]
  have hentry := h.entry
  refine h.of_tasks_eq (tasks_enroll s t) (tasks_enroll l u)
    (by rw [settings_enroll, settings_enroll, h.settings])
    (by rw [workspace_enroll, workspace_enroll, h.workspace])
    (ages_of_entry hs (by rw [enrolled, ht]) (Nat.le_of_eq (by rw [nextLife_enroll, ht])))
    (ages_of_entry hl (by rw [enrolled, hu']) (Nat.le_of_eq (by rw [nextLife_enroll, hu']))) ?_
  rw [hs, hl]
  refine .some ⟨?_, ?_, ?_, ?_, ?_⟩
  · simp only [enrolled, ht, hu', hu.sequence?, hentry.sequence]
  · simp only [enrolled, ht, hu', hentry.inFlight]
  · simp only [enrolled, ht, hu', hentry.published]
  · simp only [enrolled, ht, hu', hentry.pending]
  · simpa only [enrolled, ht] using hentry.own

end Documents

/-! ### Changes of tasks -/

section Tasks

variable {uri : String} {s l : Schedule} {n : Nat}

/-- **A task is moved to a stage**, and so is the one that mirrors it. -/
theorem Mirrored.setStage (h : Mirrored uri s l) (hn : s.isTaskOf uri n = true)
    {stage stage' : Stage} (hstage : Stage.Mirrored s l uri stage stage') :
    Mirrored uri (s.setStage n stage) (l.setStage (s.rank uri n) stage') where
  settings := h.settings
  workspace := h.workspace
  length := by rw [length_tasks_setStage, length_tasks_setStage, rank_setStage, h.length]
  tasks m t' ht' hu' := by
    have ages : Ages uri True s (s.setStage n stage) := ages_of_eq rfl (Nat.le_refl _)
    have ages' : Ages uri True l (l.setStage (s.rank uri n) stage') :=
      ages_of_eq rfl (Nat.le_refl _)
    rw [task?_setStage] at ht'
    rw [rank_setStage, task?_setStage]
    by_cases hm : m = n
    · subst hm
      rw [if_pos rfl, Option.map_eq_some_iff] at ht'
      obtain ⟨t, ht, rfl⟩ := ht'
      obtain ⟨u, hu, hmirror⟩ := h.tasks m t ht hu'
      refine ⟨{ u with stage := stage' }, by rw [if_pos rfl, hu, Option.map_some], ?_⟩
      exact ⟨hmirror.document, hmirror.origin, hmirror.cancelRequested, hstage.age ages ages'⟩
    · rw [if_neg hm] at ht'
      obtain ⟨u, hu, hmirror⟩ := h.tasks m t' ht' hu'
      have hne : s.rank uri m ≠ s.rank uri n :=
        mt (rank_inj (isTaskOf_iff.mpr ⟨t', ht', hu'⟩) hn).mp hm
      exact ⟨u, by rw [if_neg hne, hu], hmirror.age ages ages'⟩
  tracked := mirrored_mono h.tracked fun _ hm =>
    ⟨(isTaskOf_setStage stage).trans hm, rank_setStage stage⟩
  born := h.born
  born' := h.born'

/-- A task is over on both sides. -/
theorem Mirrored.finish (h : Mirrored uri s l) (hn : s.isTaskOf uri n = true)
    (outcome outcome' : Outcome) :
    Mirrored uri (s.finish n outcome) (l.finish (s.rank uri n) outcome') :=
  h.setStage hn (.done outcome outcome')

end Tasks

/-! ### Tasks that run -/

/-- **Two worlds outside agree on a document**: in both a validation of it calls the linter in the
same way, or fails to in the same way. What can be delivered in them does not matter. -/
def Surroundings.AgreesOn (uri : String) (around around' : Surroundings) : Prop :=
  ∀ settings workspace file, Uri.toPath? uri = .ok (some file) →
    Linter.callFor around'.host settings workspace file =
      Linter.callFor around.host settings workspace file

section Running

variable {uri : String} {around around' : Surroundings} {s l : Schedule} {n : Nat} {t u : Task}

/-- Validations of two lives that last alike are current alike. -/
theorem Mirrored.isCurrent (h : Mirrored uri s l) {life life' : Nat}
    (hlives : s.livesIn uri life ↔ l.livesIn uri life') (sequence : Int) :
    l.isCurrent uri life' sequence = s.isCurrent uri life sequence := by
  have htracked := h.tracked
  unfold livesIn at hlives
  unfold Schedule.isCurrent
  generalize s.tracked? uri = x, l.tracked? uri = y at htracked hlives
  cases htracked with
  | some hd =>
    simp only [Option.some.injEq, exists_eq_left'] at hlives
    rw [Bool.eq_iff_iff]
    simp only [Bool.and_eq_true, beq_iff_eq, hd.sequence, hlives]
  | none => rfl

/-- Validations that begin begin alike. -/
theorem Mirrored.begin (h : Mirrored uri s l) (hagree : around.AgreesOn uri around')
    (ht : s.task? n = some t) (hu : t.document.uri = uri) (hmirror : Task.Mirrored s l uri t u)
    {file : Path} (hfile : Uri.toPath? uri = .ok (some file)) :
    Mirrored uri (begin around s n t file).1 (begin around' l (s.rank uri n) u file).1 := by
  have hu' : u.document.uri = uri := by rw [hmirror.document, hu]
  have hn : (s.enroll t).isTaskOf uri n = true :=
    (isTaskOf_of_tasks_eq (tasks_enroll s t)).trans (isTaskOf_iff.mpr ⟨t, ht, hu⟩)
  have hrank : (s.enroll t).rank uri n = s.rank uri n :=
    rank_of_tasks_eq (tasks_enroll s t)
  have henroll := h.enroll hu hmirror
  have hin : (s.enroll t).livesIn uri (s.entry uri).life :=
    ⟨s.enrolled t, by rw [tracked?_enroll, if_pos hu.symm], by rw [enrolled, hu]⟩
  have hin' : (l.enroll u).livesIn uri (l.entry uri).life :=
    ⟨l.enrolled u, by rw [tracked?_enroll, if_pos hu'.symm], by rw [enrolled, hu']⟩
  rw [begin_eq, begin_eq, h.settings, h.workspace, hagree _ _ _ hfile, hu, hu']
  cases Linter.callFor around.host s.settings s.workspace file with
  | error e =>
    have hleave := (henroll.leave (iff_of_true hin hin')).finish hn (.finished false)
      (.finished false)
    rw [rank_leave, hrank] at hleave
    exact hleave
  | ok call =>
    have hpass : l.passOf u file call =
        { s.passOf t file call with life := (l.entry uri).life } := by
      simp only [passOf, numberOf, hu, hu', hmirror.sequence?, h.entry.sequence, h.settings]
    have hstage := henroll.setStage hn (.linting (s.passOf t file call) (l.entry uri).life
      (henroll.born _ (by rw [passOf, hu]; exact hin)) (henroll.born' _ hin')
      (iff_of_true (by rw [passOf, hu]; exact hin) hin'))
    rw [hrank, ← hpass] at hstage
    exact hstage

/-- Tasks that get past their delays do so alike. -/
theorem Mirrored.enter (h : Mirrored uri s l) (hagree : around.AgreesOn uri around')
    (ht : s.task? n = some t) (hu : t.document.uri = uri) (hmirror : Task.Mirrored s l uri t u) :
    Mirrored uri (enter around s n t).1 (enter around' l (s.rank uri n) u).1 := by
  have hu' : u.document.uri = uri := by rw [hmirror.document, hu]
  have hn : s.isTaskOf uri n = true := isTaskOf_iff.mpr ⟨t, ht, hu⟩
  have hrelease := h.release hn
  rw [enter_eq, enter_eq, hu, hu']
  rcases hfile : Uri.toPath? uri with e | _ | file
  · exact hrelease.finish hn _ _
  · exact hrelease.finish hn _ _
  · have ages : Ages uri True s (s.release n uri) :=
      ages_of_map (fun d => d.release_life n) (by rw [tracked?_release, if_pos rfl])
        (Nat.le_refl _)
    have ages' : Ages uri True l (l.release (s.rank uri n) uri) :=
      ages_of_map (fun d => d.release_life _) (by rw [tracked?_release, if_pos rfl])
        (Nat.le_refl _)
    exact hrelease.begin hagree ht hu (hmirror.age ages ages') hfile

/-- **A task of the document runs, and so does the one that mirrors it.** -/
theorem Mirrored.resume (h : Mirrored uri s l) (hagree : around.AgreesOn uri around')
    (hn : s.isTaskOf uri n = true) :
    Mirrored uri (resume around s n).1 (resume around' l (s.rank uri n)).1 := by
  obtain ⟨t, ht, hu⟩ := isTaskOf_iff.mp hn
  obtain ⟨u, hmem, hmirror⟩ := h.tasks n t ht hu
  have henter := h.enter hagree ht hu hmirror
  simp only [Schedule.resume, ht, hmem, hmirror.cancelRequested]
  generalize hs : t.stage = stage, hs' : u.stage = stage', hmirror.stage = hstage
  cases hstage with
  | fresh delay =>
    simp only
    split
    · exact h.finish hn _ _
    · split
      · exact h.setStage hn .delayed
      · exact henter
  | delayed =>
    simp only
    split
    · exact h.finish hn _ _
    · exact henter
  | linting | done => exact h

/-- What was found is settled alike. -/
theorem Mirrored.settle (h : Mirrored uri s l) (hn : s.isTaskOf uri n = true)
    {document : Document} (hu : document.uri = uri) {life life' : Nat}
    (hlives : s.livesIn uri life ↔ l.livesIn uri life') (sequence : Int)
    (records : List Record) :
    Mirrored uri (settle around s n document life sequence records).1
        (settle around' l (s.rank uri n) document life' sequence records).1 ∧
      publications (settle around' l (s.rank uri n) document life' sequence records).2 =
        publications (settle around s n document life sequence records).2 := by
  have hrecord := (h.record records).finish hn
  subst hu
  simp only [Schedule.settle, h.isCurrent hlives]
  split
  · cases around.deliver { uri := document.uri, records, version := document.version } with
    | ok _ | error _ =>
      cases around'.deliver { uri := document.uri, records, version := document.version } with
      | ok _ | error _ => exact ⟨hrecord _ _, rfl⟩
  · exact ⟨h.finish hn _ _, rfl⟩

/-- Validations come to the same conclusion, and publish the same. -/
theorem Mirrored.conclude (h : Mirrored uri s l) (hn : s.isTaskOf uri n = true)
    {document : Document} (hu : document.uri = uri) {life life' : Nat}
    (hlives : s.livesIn uri life ↔ l.livesIn uri life') (sequence : Int)
    (found : Traced Failure (List Record)) :
    Mirrored uri (conclude around s n document life sequence found).1
        (conclude around' l (s.rank uri n) document life' sequence found).1 ∧
      publications (conclude around' l (s.rank uri n) document life' sequence found).2 =
        publications (conclude around s n document life sequence found).2 := by
  have hleave := h.leave hlives
  have hlives' : (s.leave uri life).livesIn uri life ↔ (l.leave uri life').livesIn uri life' := by
    simpa [livesIn, tracked?_leave, Option.map_eq_some_iff] using hlives
  subst hu
  simp only [Schedule.conclude]
  cases found.result with
  | error e => exact ⟨hleave.finish hn _ _, rfl⟩
  | ok records =>
    obtain ⟨hsettle, hpublications⟩ := hleave.settle hn rfl hlives' sequence records
    refine ⟨hsettle, ?_⟩
    rw [publications_append, publications_append]
    exact congrArg _ hpublications

/-- **The linter answers a task of the document, and the one that mirrors it**, and the same is
published. -/
theorem Mirrored.complete (h : Mirrored uri s l) (hn : s.isTaskOf uri n = true)
    (answer : Except Mishap ToolOutput) :
    Mirrored uri (complete around s n answer).1 (complete around' l (s.rank uri n) answer).1 ∧
      publications (complete around' l (s.rank uri n) answer).2 =
        publications (complete around s n answer).2 := by
  obtain ⟨t, ht, hu⟩ := isTaskOf_iff.mp hn
  obtain ⟨u, hmem, hmirror⟩ := h.tasks n t ht hu
  simp only [Schedule.complete, ht, hmem, hmirror.cancelRequested, hmirror.document, hu]
  generalize t.stage = stage, u.stage = stage', hmirror.stage = hstage
  cases hstage with
  | linting pass life born born' lives =>
    simp only
    split
    · exact ⟨(h.leave lives).finish hn _ _, rfl⟩
    · exact h.conclude hn hu lives _ _
  | fresh | delayed | done => exact ⟨h, rfl⟩

end Running

end Schedule

end LintBridge
