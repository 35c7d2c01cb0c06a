import LintBridge.Session
import LintBridge.Proofs.Schedule.Outdated

/-!
# The course of a session

Messages arrive, the message that has waited longest is handled, tasks run on, and the linter
answers them. That is all that happens to a session, in whatever order it happens
(`LintBridge.Session.Event`, `LintBridge.Session.run`).

What an event asks of the schedule can be told before it happens
(`LintBridge.Session.Event.demands`): a message asks for nothing but that the root of the workspace
and the settings are replaced, that a document is closed or that validations are scheduled or
cancelled. **The schedule of a session does just what is asked of it**, and nothing is published but
by the schedule (`LintBridge.Session.step_performs`). So the schedule of a session is one that
numbers validations itself (`LintBridge.Session.reached_run`), and what is known of those is known
of sessions.

There are no validations before the editor has started (`LintBridge.Session.unbegun_run`).
-/

namespace LintBridge

namespace Session

open Json (Value)
open Schedule (Surroundings)

/-! ### Events and runs -/

/-- What may happen to a session. -/
inductive Event where
  /-- A message arrives. -/
  | receive (message : Message)
  /-- The message that has waited longest is handled. -/
  | handle
  /-- A task runs on. -/
  | resume (task : Nat)
  /-- The linter answers a task. -/
  | complete (task : Nat) (answer : Except Mishap ToolOutput)

/-- What an event does. -/
def step (around : Surroundings) (s : Session) : Event → Session × List Effect
  | .receive message => receive around s message
  | .handle => handle around s
  | .resume n => s.withSchedule (s.schedule.resume around n)
  | .complete n answer => s.withSchedule (s.schedule.complete around n answer)

/-- What several events do, one after the other. -/
def run (around : Surroundings) (s : Session) : List Event → Session × List Effect
  | [] => (s, [])
  | e :: rest =>
    let (s, first) := step around s e
    let (s, more) := run around s rest
    (s, first ++ more)

/-- The publication that the world outside is given with an effect, delivered or not. -/
def Effect.publication? : Effect → Option Publication
  | .scheduled e => e.publication?
  | _ => none

/-- The publications among several effects. -/
def publications (effects : List Effect) : List Publication :=
  effects.filterMap Effect.publication?

section Runs

variable (around : Surroundings) (s : Session)

theorem run_append (es es' : List Event) :
    run around s (es ++ es') =
      ((run around (run around s es).1 es').1,
        (run around s es).2 ++ (run around (run around s es).1 es').2) := by
  induction es generalizing s with
  | nil => rfl
  | cons e rest ih =>
    simp only [List.cons_append, run]
    rw [ih]
    simp only [List.append_assoc]

theorem run_snoc (es : List Event) (e : Event) :
    run around s (es ++ [e]) =
      ((step around (run around s es).1 e).1,
        (run around s es).2 ++ (step around (run around s es).1 e).2) := by
  rw [run_append]
  simp only [run, List.append_nil]

/-- A run that is split after one of its events. -/
theorem run_split (before : List Event) (e : Event) (after : List Event) :
    (run around s (before ++ e :: after)).1 =
      (run around (run around s (before ++ [e])).1 after).1 := by
  rw [List.append_cons before e after, run_append around s (before ++ [e])]

/-- **Something holds of every event of a run**, and of the session in which it happens. -/
def Throughout (P : Session → Event → Prop) (s : Session) : List Event → Prop
  | [] => True
  | e :: rest => P s e ∧ Throughout P (step around s e).1 rest

instance (P : Session → Event → Prop) [∀ s e, Decidable (P s e)] (s : Session) :
    (es : List Event) → Decidable (Throughout around P s es)
  | [] => inferInstanceAs (Decidable True)
  | e :: rest =>
    haveI := instDecidableThroughout P (step around s e).1 rest
    inferInstanceAs (Decidable (P s e ∧ Throughout around P (step around s e).1 rest))

theorem throughout_snoc (P : Session → Event → Prop) (es : List Event) (e : Event) :
    Throughout around P s (es ++ [e]) ↔
      Throughout around P s es ∧ P (run around s es).1 e := by
  induction es generalizing s with
  | nil => simp [Throughout, run]
  | cons e' rest ih => simp only [List.cons_append, Throughout, run, ih, and_assoc]

/-- What follows of two things that hold of every event holds of every event. -/
theorem Throughout.both {around : Surroundings} {P Q R : Session → Event → Prop} {s : Session}
    {es : List Event} (hP : Throughout around P s es) (hQ : Throughout around Q s es)
    (h : ∀ s e, P s e → Q s e → R s e) : Throughout around R s es := by
  induction es generalizing s with
  | nil => trivial
  | cons e rest ih => exact ⟨h s e hP.1 hQ.1, ih hP.2 hQ.2⟩

@[simp] theorem publications_append (effects effects' : List Effect) :
    publications (effects ++ effects') = publications effects ++ publications effects' :=
  List.filterMap_append

@[simp] theorem publications_scheduled (effects : List Schedule.Effect) :
    publications (effects.map Effect.scheduled) = Schedule.publications effects := by
  unfold publications Schedule.publications
  rw [List.filterMap_map]
  rfl

end Runs

/-! ### What an event asks of the schedule -/

/-- Validations of documents as they are, up to the first that is not to be had. -/
def renewals (around : Surroundings) (s : Session) : List String → List Schedule.Event
  | [] => []
  | uri :: rest =>
    match snapshot around s uri with
    | none => []
    | some d => .schedule d (some (.ofInt 0)) :: renewals around s rest

/-- The settings that the editor brings when it starts, unless they are refused. -/
def startSettings? (around : Surroundings) (s : Session) (root : Option Path) (options : Value) :
    Option Settings :=
  (Settings.load around.host root ((Settings.sectionOf options).getD []) s.base).toOption

/-- The settings that new ones come to on top of those in force, unless there are none or they are
refused. -/
def newSettings? (s : Session) (settings : Value) : Option Settings :=
  match Settings.sectionOf settings with
  | none => none
  | some [] => none
  | some options => (s.schedule.settings.merge options).toOption

/-- What a message asks of the schedule on its arrival. -/
def Message.demands (around : Surroundings) (s : Session) : Message → List Schedule.Event
  | .started _ rootUri rootPath options =>
    match rootOf rootUri rootPath >>= rootPathOf with
    | .error _ => []
    | .ok root => .moveTo root :: ((startSettings? around s root options).map .configure).toList
  | .closed uri => if s.workspace.isSome then [.close uri] else []
  | .stopping _ => [.shutdown]
  | _ => []

/-- What a message asks of the schedule when it is handled. -/
def Pending.demands (around : Surroundings) (s : Session) : Pending → List Schedule.Event
  | .opened d => [.schedule d (some (.ofInt 0))]
  | .changed uri => ((snapshot around s uri).map fun d => .schedule d none).toList
  | .saved uri => ((snapshot around s uri).map fun d => .schedule d (some (.ofInt 0))).toList
  | .configured settings =>
    match s.newSettings? settings with
    | none => []
    | some settings => .configure settings :: renewals around s s.schedule.trackedUris

/-- **What an event asks of the schedule.** -/
def Event.demands (around : Surroundings) (s : Session) : Event → List Schedule.Event
  | .receive message => if s.stopping then [] else message.demands around s
  | .handle =>
    match s.pending with
    | [] => []
    | p :: _ => p.demands around s
  | .resume n => [.resume n]
  | .complete n answer => [.complete n answer]

section Demands

variable (around : Surroundings)

/-- Documents are as the editor has them open, or as the files have them. -/
theorem snapshot_congr {s s' : Session} (h : s'.workspace = s.workspace) (uri : String) :
    snapshot around s' uri = snapshot around s uri := by
  simp only [snapshot, h]

theorem renewals_congr {s s' : Session} (h : s'.workspace = s.workspace) (uris : List String) :
    renewals around s' uris = renewals around s uris := by
  induction uris with
  | nil => rfl
  | cons uri rest ih => simp only [renewals, snapshot_congr around h, ih]

theorem uri_of_snapshot {s : Session} {uri : String} {d : Document}
    (h : snapshot around s uri = some d) : d.uri = uri := by
  unfold snapshot at h
  split at h
  · cases h
  · split at h
    · cases h
      rfl
    · obtain ⟨text, -, rfl⟩ := Option.map_eq_some_iff.mp h
      rfl

/-- Only validations are scheduled. -/
theorem exists_of_mem_renewals {s : Session} {uris : List String} {e : Schedule.Event}
    (h : e ∈ renewals around s uris) : ∃ d, e = .schedule d (some (.ofInt 0)) := by
  induction uris with
  | nil => cases h
  | cons uri rest ih =>
    simp only [renewals] at h
    split at h
    · cases h
    · rcases List.mem_cons.mp h with rfl | h
      · exact ⟨_, rfl⟩
      · exact ih h

/-- **Each of the documents is validated, unless one that is not to be had comes before it** or is
the document itself. -/
theorem renewals_cases (s : Session) {uris : List String} {uri : String} (h : uri ∈ uris) :
    (∃ d, .schedule d (some (.ofInt 0)) ∈ renewals around s uris ∧ d.uri = uri) ∨
      ∃ before v after, uris = before ++ v :: after ∧ snapshot around s v = none ∧
        uri ∈ v :: after := by
  induction uris with
  | nil => cases h
  | cons v rest ih =>
    simp only [renewals]
    cases hd : snapshot around s v with
    | none => exact .inr ⟨[], v, rest, rfl, hd, h⟩
    | some d =>
      rcases List.mem_cons.mp h with rfl | h
      · exact .inl ⟨d, List.mem_cons_self, uri_of_snapshot around hd⟩
      · rcases ih h with ⟨d', hmem, hu⟩ | ⟨before, w, after, rfl, hw, hmem⟩
        · exact .inl ⟨d', List.mem_cons_of_mem _ hmem, hu⟩
        · exact .inr ⟨v :: before, w, after, rfl, hw, hmem⟩

end Demands

/-! ### The schedule does what is asked of it -/

/-- **A change of a session performs what is asked of its schedule**, and publishes nothing else. -/
structure Performs (around : Surroundings) (s : Session) (r : Session × List Effect)
    (es : List Schedule.Event) : Prop where
  /-- The schedule has done what was asked of it. -/
  schedule : r.1.schedule = (Schedule.run around s.schedule es).1
  /-- What is published is what the schedule publishes. -/
  published : publications r.2 = Schedule.publications (Schedule.run around s.schedule es).2

section Performs

variable {around : Surroundings} {s s' : Session} {r : Session × List Effect}
  {es : List Schedule.Event}

/-- Nothing is asked of the schedule. -/
theorem Performs.nothing (hschedule : r.1.schedule = s.schedule) (hsilent : publications r.2 = []) :
    Performs around s r [] :=
  ⟨hschedule, hsilent⟩

/-- One thing is asked of the schedule. -/
theorem Performs.one (s : Session) (e : Schedule.Event) :
    Performs around s (s.withSchedule (Schedule.step around s.schedule e)) [e] := by
  refine ⟨rfl, ?_⟩
  simp only [withSchedule, publications_scheduled, Schedule.run, List.append_nil]

/-- Something silent is asked of the schedule first. -/
theorem Performs.cons {e : Schedule.Event} (h : Performs around s' r es)
    (hschedule : s'.schedule = (Schedule.step around s.schedule e).1)
    (hsilent : Schedule.publications (Schedule.step around s.schedule e).2 = []) :
    Performs around s r (e :: es) := by
  refine ⟨?_, ?_⟩
  · rw [h.schedule, hschedule]
    rfl
  · rw [h.published, hschedule]
    simp only [Schedule.run, Schedule.publications_append, hsilent, List.nil_append]

/-- Whether effects are added that publish nothing, and what else of the session is changed, does
not matter. -/
theorem Performs.congr (h : Performs around s r es) {r' : Session × List Effect}
    (hbefore : s'.schedule = s.schedule) (hafter : r'.1.schedule = r.1.schedule)
    (hsame : publications r'.2 = publications r.2) : Performs around s' r' es := by
  refine ⟨?_, ?_⟩
  · rw [hafter, h.schedule, hbefore]
  · rw [hsame, h.published, hbefore]

/-- Validating documents changes nothing about which documents are to be had. -/
theorem performs_validateAll (around : Surroundings) {s₀ : Session} (s : Session)
    (h : s.workspace = s₀.workspace) (uris : List String) :
    Performs around s (validateAll around s uris) (renewals around s₀ uris) := by
  induction uris generalizing s with
  | nil => exact .nothing rfl rfl
  | cons uri rest ih =>
    have hsnapshot := snapshot_congr around h uri
    cases hd : snapshot around s₀ uri with
    | none =>
      simp only [validateAll, renewals, hsnapshot, hd]
      exact .nothing rfl rfl
    | some d =>
      -- The schedule moves on with every document, and the workspace stays.
      have hrest := ih (s.withSchedule (s.schedule.schedule d (some (.ofInt 0)))).1 h
      have hsilent := Schedule.publications_schedule s.schedule d (some (.ofInt 0))
      simp only [validateAll, renewals, hsnapshot, hd]
      refine (hrest.cons (e := .schedule d (some (.ofInt 0))) rfl hsilent).congr rfl rfl ?_
      simp only [withSchedule, publications_append, publications_scheduled, hsilent,
        List.nil_append]

theorem performs_start (s : Session) (id : Value) (rootUri rootPath : Option String)
    (options : Value) :
    Performs around s (start around s id rootUri rootPath options)
      ((Message.started id rootUri rootPath options).demands around s) := by
  simp only [start, Message.demands]
  cases rootOf rootUri rootPath >>= rootPathOf with
  | error e => exact .nothing rfl rfl
  | ok root =>
    simp only [startSettings?]
    cases Settings.load around.host root ((Settings.sectionOf options).getD []) s.base with
    | ok settings => exact ⟨rfl, rfl⟩
    | error e => cases e <;> exact ⟨rfl, rfl⟩

theorem performs_configure (s : Session) (settings : Value) :
    Performs around s (configure around s settings)
      ((Pending.configured settings).demands around s) := by
  simp only [configure, Pending.demands, newSettings?]
  cases Settings.sectionOf settings with
  | none => exact .nothing rfl rfl
  | some options =>
    cases options with
    | nil => exact .nothing rfl rfl
    | cons option more =>
      simp only []
      cases s.schedule.settings.merge (option :: more) with
      | error e => cases e <;> exact .nothing rfl rfl
      | ok settings =>
        -- The settings are put in force before the first document is looked at.
        let adopted : Session := { s with schedule := { s.schedule with settings } }
        have hworkspace : adopted.workspace = s.workspace := rfl
        have hall := performs_validateAll around adopted hworkspace s.schedule.trackedUris
        exact hall.cons (e := .configure settings) rfl rfl

/-- A validation of a document as it is. -/
theorem performs_scheduleAs (s : Session) (delay : Option Binary64) (uri : String) :
    Performs around s (scheduleAs around s (fun schedule d => schedule.schedule d delay) uri)
      ((snapshot around s uri).map fun d => .schedule d delay).toList := by
  simp only [scheduleAs]
  cases snapshot around s uri with
  | none => exact .nothing rfl rfl
  | some d => exact .one s (.schedule d delay)

theorem performs_handle (s : Session) :
    Performs around s (handle around s) (Event.handle.demands around s) := by
  simp only [handle, Event.demands]
  cases s.pending with
  | nil => exact .nothing rfl rfl
  | cons p rest =>
    -- What is asked for does not depend on the messages that wait.
    cases p with
    | opened d => exact (Performs.one { s with pending := rest } (.schedule d _)).congr rfl rfl rfl
    | changed uri =>
      exact (performs_scheduleAs { s with pending := rest } none uri).congr rfl rfl rfl
    | saved uri =>
      exact (performs_scheduleAs { s with pending := rest } (some (.ofInt 0)) uri).congr rfl rfl rfl
    | configured settings =>
      have h : Performs around { s with pending := rest } _ _ := performs_configure _ settings
      have hworkspace : ({ s with pending := rest } : Session).workspace = s.workspace := rfl
      have hrenewals := renewals_congr around hworkspace
      have hsame : (Pending.configured settings).demands around { s with pending := rest } =
          (Pending.configured settings).demands around s := by
        simp only [Pending.demands, newSettings?, hrenewals]
      exact (hsame ▸ h).congr rfl rfl rfl

theorem performs_receive (s : Session) (m : Message) :
    Performs around s (receive around s m) ((Event.receive m).demands around s) := by
  cases hs : s.stopping with
  | true =>
    simp only [receive, Event.demands, hs, if_true]
    exact .nothing rfl rfl
  | false =>
    simp only [receive, Event.demands, hs, if_false, Bool.false_eq_true]
    cases m with
    | started id rootUri rootPath options => exact performs_start s id rootUri rootPath options
    | opened uri version text =>
      simp only [acceptOpened, Message.demands]
      split <;> exact .nothing rfl rfl
    | changed uri version texts =>
      simp only [acceptChanged, Message.demands]
      split
      · exact .nothing rfl rfl
      · exact .nothing rfl rfl
      · split <;> exact .nothing rfl rfl
    | closed uri =>
      simp only [acceptClosed, Message.demands]
      cases s.workspace with
      | none => exact .nothing rfl rfl
      | some w => exact (@Performs.one around s (.close uri)).congr rfl rfl rfl
    | stopping id =>
      refine (@Performs.one around s .shutdown).congr rfl rfl ?_
      simp [withSchedule, publications, Effect.publication?, Schedule.step]
    | saved | configured | unknownRequest | unknownNotification => exact .nothing rfl rfl

/-- **The schedule of a session does what is asked of it**, and nothing else is published. -/
theorem step_performs (around : Surroundings) (s : Session) (e : Event) :
    Performs around s (step around s e) (e.demands around s) := by
  cases e with
  | receive m => exact performs_receive s m
  | handle => exact performs_handle s
  | resume n => exact .one s (.resume n)
  | complete n answer => exact .one s (.complete n answer)

end Performs

/-! ### What is asked for -/

section Asked

variable {around : Surroundings} {s : Session}

/-- What a message asks for on its arrival. -/
theorem of_mem_message_demands {m : Message} {e : Schedule.Event} (h : e ∈ m.demands around s) :
    (∃ root, e = .moveTo root) ∨ (∃ settings, e = .configure settings) ∨
      (∃ uri, m = .closed uri ∧ e = .close uri) ∨ e = .shutdown := by
  cases m with
  | started id rootUri rootPath options =>
    simp only [Message.demands] at h
    split at h
    · cases h
    · rcases List.mem_cons.mp h with rfl | h
      · exact .inl ⟨_, rfl⟩
      · obtain ⟨settings, -, rfl⟩ : ∃ settings, _ ∧ .configure settings = e := by simpa using h
        exact .inr (.inl ⟨settings, rfl⟩)
  | closed uri =>
    simp only [Message.demands] at h
    split at h
    · exact .inr (.inr (.inl ⟨uri, rfl, List.mem_singleton.mp h⟩))
    · cases h
  | stopping id => exact .inr (.inr (.inr (List.mem_singleton.mp h)))
  | _ => cases h

/-- What a message asks for when it is handled. -/
theorem of_mem_pending_demands {p : Pending} {e : Schedule.Event} (h : e ∈ p.demands around s) :
    (∃ d delay, e = .schedule d delay) ∨ ∃ settings, e = .configure settings := by
  cases p with
  | opened d => exact .inl ⟨d, _, List.mem_singleton.mp h⟩
  | changed uri | saved uri =>
    obtain ⟨d, -, rfl⟩ : ∃ d, _ ∧ .schedule d _ = e := by simpa [Pending.demands] using h
    exact .inl ⟨d, _, rfl⟩
  | configured settings =>
    simp only [Pending.demands] at h
    split at h
    · cases h
    · rcases List.mem_cons.mp h with rfl | h
      · exact .inr ⟨_, rfl⟩
      · obtain ⟨d, rfl⟩ := exists_of_mem_renewals around h
        exact .inl ⟨d, _, rfl⟩

/-- What is asked for on the arrival of a message. -/
theorem of_mem_receive_demands {m : Message} {e : Schedule.Event}
    (h : e ∈ (Event.receive m).demands around s) : e ∈ m.demands around s := by
  simp only [Event.demands] at h
  split at h
  · cases h
  · exact h

/-- What is asked for when a message is handled. -/
theorem of_mem_handle_demands {e : Schedule.Event} (h : e ∈ Event.handle.demands around s) :
    ∃ p ∈ s.pending, e ∈ p.demands around s := by
  simp only [Event.demands] at h
  split at h
  · cases h
  · rename_i p rest hp
    exact ⟨p, hp ▸ List.mem_cons_self, h⟩

/-- What a message asks for lets no task run. -/
theorem isRequest_of_mem_demands {e : Event} {e' : Schedule.Event} (h : e' ∈ e.demands around s)
    (hresume : ∀ n, e ≠ .resume n) (hcomplete : ∀ n answer, e ≠ .complete n answer) :
    e'.isRequest = true := by
  cases e with
  | receive m =>
    rcases of_mem_message_demands (of_mem_receive_demands h) with
      ⟨_, rfl⟩ | ⟨_, rfl⟩ | ⟨_, -, rfl⟩ | rfl <;> rfl
  | handle =>
    obtain ⟨p, -, hp⟩ := of_mem_handle_demands h
    rcases of_mem_pending_demands hp with ⟨_, _, rfl⟩ | ⟨_, rfl⟩ <;> rfl
  | resume n => exact absurd rfl (hresume n)
  | complete n answer => exact absurd rfl (hcomplete n answer)

/-- No number comes from outside. -/
theorem isUnnumbered_of_mem_demands {e : Event} {e' : Schedule.Event}
    (h : e' ∈ e.demands around s) : e'.isUnnumbered = true := by
  cases e with
  | receive m =>
    rcases of_mem_message_demands (of_mem_receive_demands h) with
      ⟨_, rfl⟩ | ⟨_, rfl⟩ | ⟨_, -, rfl⟩ | rfl <;> rfl
  | handle =>
    obtain ⟨p, -, hp⟩ := of_mem_handle_demands h
    rcases of_mem_pending_demands hp with ⟨_, _, rfl⟩ | ⟨_, rfl⟩ <;> rfl
  | resume | complete =>
    rw [List.mem_singleton.mp h]
    rfl

theorem reached_step (h : Schedule.Reached around s.schedule) (e : Event) :
    Schedule.Reached around (step around s e).1.schedule := by
  rw [(step_performs around s e).schedule]
  exact h.run fun _ => isUnnumbered_of_mem_demands

/-- **The schedule of a session has come about without numbers from outside.** -/
theorem reached_run (around : Surroundings) (base : Settings) (es : List Event) :
    Schedule.Reached around (run around (ofSettings base) es).1.schedule := by
  induction es using List.reverseRecOn with
  | nil => exact .empty around base none
  | append_singleton es e ih =>
    rw [run_snoc]
    exact reached_step ih e

end Asked

/-! ### Before the editor has started -/

/-- **A session in which nothing is validated before the editor has started.** -/
structure Unbegun (s : Session) : Prop where
  /-- There are no tasks. -/
  tasks : s.workspace = none → ∀ n, s.schedule.task? n = none
  /-- No message waits by which a document was opened. -/
  pending : s.workspace = none → ∀ d, .opened d ∉ s.pending

section Unbegun

variable {around : Surroundings} {s : Session}

theorem workspace_validateAll (uris : List String) :
    (validateAll around s uris).1.workspace = s.workspace := by
  induction uris generalizing s with
  | nil => rfl
  | cons uri rest ih =>
    simp only [validateAll]
    split
    · rfl
    · exact ih

theorem pending_validateAll (uris : List String) :
    (validateAll around s uris).1.pending = s.pending := by
  induction uris generalizing s with
  | nil => rfl
  | cons uri rest ih =>
    simp only [validateAll]
    split
    · rfl
    · exact ih

/-- A message that is handled is taken from those that wait, and opens and closes nothing. -/
theorem handle_keeps (around : Surroundings) (s : Session) :
    (handle around s).1.workspace = s.workspace ∧
      (handle around s).1.pending = s.pending.drop 1 := by
  unfold handle
  split
  · rename_i h
    exact ⟨rfl, by rw [h]; rfl⟩
  · rename_i p rest h
    rw [h]
    cases p with
    | opened d => exact ⟨rfl, rfl⟩
    | changed uri | saved uri =>
      simp only [scheduleAs]
      split <;> exact ⟨rfl, rfl⟩
    | configured settings =>
      simp only [configure]
      split
      · exact ⟨rfl, rfl⟩
      · exact ⟨rfl, rfl⟩
      · split
        · exact ⟨rfl, rfl⟩
        · exact ⟨rfl, rfl⟩
        · exact ⟨workspace_validateAll _, pending_validateAll _⟩

/-- A message that arrives before the editor has started opens nothing. -/
theorem receive_keeps {m : Message} (h : (receive around s m).1.workspace = none) :
    s.workspace = none ∧
      ∀ d, .opened d ∈ (receive around s m).1.pending → .opened d ∈ s.pending := by
  cases hs : s.stopping with
  | true =>
    simp only [receive, hs, if_true] at h ⊢
    exact ⟨h, fun _ hd => hd⟩
  | false =>
    simp only [receive, hs, if_false, Bool.false_eq_true] at h ⊢
    cases m with
    | started id rootUri rootPath options =>
      simp only [start] at h ⊢
      split at h
      · exact ⟨h, fun _ hd => hd⟩
      · split at h <;> cases h
    | opened uri version text =>
      simp only [acceptOpened] at h ⊢
      split at h
      · cases h
      · exact ⟨h, fun _ hd => hd⟩
    | changed uri version texts =>
      simp only [acceptChanged] at h ⊢
      split at h
      · exact ⟨h, fun _ hd => hd⟩
      · rename_i hw _
        exact absurd (hw.symm.trans h) (by simp)
      · rename_i hw _
        split at h
        · cases h
        · exact absurd (hw.symm.trans h) (by simp)
    | closed uri =>
      simp only [acceptClosed] at h ⊢
      split at h
      · exact ⟨h, fun _ hd => hd⟩
      · cases h
    | saved | configured => exact ⟨h, fun d hd => by simpa [enqueue] using hd⟩
    | stopping | unknownRequest | unknownNotification => exact ⟨h, fun _ hd => hd⟩

/-- Before the editor has started no validation is asked for. -/
theorem Unbegun.creates_eq_false (h : Unbegun s) (hw : s.workspace = none) {e : Event}
    {e' : Schedule.Event} (hmem : e' ∈ e.demands around s) : e'.creates = false := by
  -- Without a workspace no document is to be had.
  have hsnapshot : ∀ uri, snapshot around s uri = none := fun uri => by simp only [snapshot, hw]
  have hrenewals : ∀ uris, renewals around s uris = [] := fun uris => by
    cases uris <;> simp only [renewals, hsnapshot]
  cases e with
  | receive m =>
    rcases of_mem_message_demands (of_mem_receive_demands hmem) with
      ⟨_, rfl⟩ | ⟨_, rfl⟩ | ⟨_, -, rfl⟩ | rfl <;> rfl
  | handle =>
    obtain ⟨p, hp, hmem⟩ := of_mem_handle_demands hmem
    cases p with
    | opened d => exact absurd hp (h.pending hw d)
    | changed uri | saved uri => simp [Pending.demands, hsnapshot] at hmem
    | configured settings =>
      simp only [Pending.demands, hrenewals] at hmem
      split at hmem
      · cases hmem
      · rw [List.mem_singleton.mp hmem]
        rfl
  | resume | complete =>
    rw [List.mem_singleton.mp hmem]
    rfl

theorem Unbegun.step (h : Unbegun s) (e : Event) : Unbegun (step around s e).1 := by
  -- A workspace is never given up, so that a session that has none had none before.
  have hkeeps : (Session.step around s e).1.workspace = none → s.workspace = none ∧
      ∀ d, .opened d ∈ (Session.step around s e).1.pending → .opened d ∈ s.pending := by
    intro hw
    cases e with
    | receive m => exact receive_keeps hw
    | handle =>
      obtain ⟨hworkspace, hpending⟩ := handle_keeps around s
      refine ⟨hworkspace.symm.trans hw, fun d hd => ?_⟩
      exact List.mem_of_mem_drop (hpending ▸ hd)
    | resume | complete => exact ⟨hw, fun _ hd => hd⟩
  refine ⟨fun hw => ?_, fun hw d hd => ?_⟩
  · obtain ⟨hw₀, -⟩ := hkeeps hw
    rw [(step_performs around s e).schedule]
    exact Schedule.task?_run_of_creates_eq_false around (h.tasks hw₀)
      fun _ => h.creates_eq_false hw₀
  · obtain ⟨hw₀, hpending⟩ := hkeeps hw
    exact h.pending hw₀ d (hpending d hd)

/-- **There are no validations before the editor has started.** -/
theorem unbegun_run (around : Surroundings) (base : Settings) (es : List Event) :
    Unbegun (run around (ofSettings base) es).1 := by
  induction es using List.reverseRecOn with
  | nil => exact ⟨fun _ _ => rfl, fun _ _ => List.not_mem_nil⟩
  | append_singleton es e ih =>
    rw [run_snoc]
    exact ih.step e

end Unbegun

end Session

end LintBridge
