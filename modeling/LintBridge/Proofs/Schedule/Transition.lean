import LintBridge.Proofs.Schedule.Operation

/-!
# What a task does when it runs

A task runs in two places: where it waits for its first run or the end of its delay
(`LintBridge.Schedule.resume`), and where the linter has answered it
(`LintBridge.Schedule.complete`). Each of the two ends in one of a few ways, and every later
statement about runs goes through the two lists of them:

* `LintBridge.Schedule.Resumption` – a task sleeps, is cancelled, is turned away by its URI, fails
  before it has called the linter, or calls it;
* `LintBridge.Schedule.Completion` – a task is cancelled, fails, is outdated, publishes, or has a
  set that cannot be delivered.

`LintBridge.Schedule.resume_cases` and `LintBridge.Schedule.complete_cases` say that the lists are
complete, with the state and the effects of each way written out.
-/

namespace LintBridge

namespace Schedule

/-! ### Getting past the delay -/

/-- A task that goes on to its validation when it runs next, unless it is cancelled. -/
def Task.isDue (t : Task) : Bool :=
  match t.stage with
  | .fresh delay => !delay.isPositive
  | .delayed => true
  | _ => false

theorem Task.isWaiting_of_isDue {t : Task} (h : t.isDue = true) : t.isWaiting = true := by
  unfold Task.isDue at h
  unfold Task.isWaiting
  split at h <;> simp_all

/-- What is known of a document once a task no longer waits for it. -/
def Tracked.release (d : Tracked) (n : Nat) : Tracked :=
  if d.pending = some n then { d with pending := none } else d

section Release

variable (d : Tracked) (n : Nat)

@[simp] theorem Tracked.release_life : (d.release n).life = d.life := by
  unfold Tracked.release
  split <;> rfl

@[simp] theorem Tracked.release_sequence : (d.release n).sequence = d.sequence := by
  unfold Tracked.release
  split <;> rfl

@[simp] theorem Tracked.release_inFlight : (d.release n).inFlight = d.inFlight := by
  unfold Tracked.release
  split <;> rfl

@[simp] theorem Tracked.release_published : (d.release n).published = d.published := by
  unfold Tracked.release
  split <;> rfl

/-- The tasks that are waited for afterwards are those before, without the one released. -/
theorem Tracked.release_pending {d : Tracked} {n m : Nat} :
    (d.release n).pending = some m ↔ d.pending = some m ∧ m ≠ n := by
  unfold Tracked.release
  split
  · rename_i h
    constructor
    · intro hnone
      cases hnone
    · rintro ⟨hm, hne⟩
      rw [h] at hm
      exact absurd (Option.some.inj hm).symm hne
  · rename_i h
    constructor
    · intro hm
      refine ⟨hm, ?_⟩
      rintro rfl
      exact h hm
    · exact fun hm => hm.1

/-- A new life waits for no task. -/
@[simp] theorem Tracked.release_new (life : Nat) :
    Tracked.release { life := life } n = { life := life } := by
  simp [Tracked.release]

end Release

/-- What is known of a document once a validation of one of its lives is over. -/
def Tracked.leave (d : Tracked) (life : Nat) : Tracked :=
  if d.life == life then { d with inFlight := d.inFlight - 1 } else d

section Leave

variable (d : Tracked) (life : Nat)

@[simp] theorem Tracked.leave_life : (d.leave life).life = d.life := by
  unfold Tracked.leave
  split <;> rfl

@[simp] theorem Tracked.leave_sequence : (d.leave life).sequence = d.sequence := by
  unfold Tracked.leave
  split <;> rfl

@[simp] theorem Tracked.leave_pending : (d.leave life).pending = d.pending := by
  unfold Tracked.leave
  split <;> rfl

@[simp] theorem Tracked.leave_published : (d.leave life).published = d.published := by
  unfold Tracked.leave
  split <;> rfl

end Leave

section Enter

variable (s : Schedule) (n : Nat) (t : Task)

/-- A schedule in which a task no longer waits for its document. -/
def release (uri : String) : Schedule :=
  s.modify uri fun d => d.release n

theorem tracked?_release (uri v : String) :
    (s.release n uri).tracked? v =
      if v = uri then (s.tracked? v).map (·.release n) else s.tracked? v :=
  tracked?_modify s uri v _

@[simp] theorem entry_release (uri : String) :
    (s.release n uri).entry uri = (s.entry uri).release n := by
  have h := tracked?_release s n uri uri
  rw [if_pos rfl] at h
  cases hd : s.tracked? uri with
  | none =>
    rw [hd] at h
    rw [entry_of_untracked hd, entry_of_untracked h]
    simp [release]
  | some d =>
    rw [hd] at h
    rw [entry_of_tracked hd, entry_of_tracked h]

/-- The number under which a task validates: the one it has, or the next one. -/
def numberOf : Int :=
  t.sequence?.getD ((s.entry t.document.uri).sequence + 1)

/-- What is known of a document while one more validation of it is under way. -/
def enrolled : Tracked :=
  { s.entry t.document.uri with
    sequence :=
      if t.sequence?.isNone then (s.entry t.document.uri).sequence + 1
      else (s.entry t.document.uri).sequence
    inFlight := (s.entry t.document.uri).inFlight + 1 }

/-- A schedule in which one more validation of a document is under way. -/
def enroll : Schedule :=
  (s.follow t.document.uri).1.modify t.document.uri fun d =>
    { d with
      sequence := if t.sequence?.isNone then d.sequence + 1 else d.sequence
      inFlight := d.inFlight + 1 }

theorem tracked?_enroll (v : String) :
    (s.enroll t).tracked? v =
      if v = t.document.uri then some (s.enrolled t) else s.tracked? v := by
  refine (tracked?_modify _ t.document.uri v _).trans ?_
  rw [tracked?_follow]
  by_cases hv : v = t.document.uri
  · simp [hv, enrolled]
  · simp [hv]

theorem enrolled_release_life :
    ((s.release n t.document.uri).enrolled t).life = (s.entry t.document.uri).life := by
  simp only [enrolled, entry_release, Tracked.release_life]

/-- A task without a number takes the next one. -/
theorem enrolled_release_sequence {s : Schedule} (n : Nat) {t : Task} (h : t.sequence? = none) :
    ((s.release n t.document.uri).enrolled t).sequence = (s.entry t.document.uri).sequence + 1 := by
  simp only [enrolled, entry_release, Tracked.release_sequence, h, Option.isNone_none, if_true]

@[simp] theorem task?_enroll (m : Nat) : (s.enroll t).task? m = s.task? m := by
  simp [enroll]

@[simp] theorem nextLife_enroll :
    (s.enroll t).nextLife = (s.follow t.document.uri).1.nextLife := by
  simp [enroll]

@[simp] theorem trackedUris_enroll :
    (s.enroll t).trackedUris = (s.follow t.document.uri).1.trackedUris := by
  simp [enroll]

/-- What a task fixes when it calls the linter. -/
def passOf (file : Path) (call : Linter.Call) : Pass where
  life := (s.entry t.document.uri).life
  sequence := s.numberOf t
  settings := s.settings
  file := file
  call := call

theorem tracked?_leave (uri v : String) (life : Nat) :
    (s.leave uri life).tracked? v =
      if v = uri then (s.tracked? v).map (·.leave life) else s.tracked? v :=
  tracked?_modify s uri v _

@[simp] theorem task?_leave (uri : String) (life m : Nat) :
    (s.leave uri life).task? m = s.task? m := rfl

@[simp] theorem nextLife_leave (uri : String) (life : Nat) :
    (s.leave uri life).nextLife = s.nextLife := rfl

@[simp] theorem trackedUris_leave (uri : String) (life : Nat) :
    (s.leave uri life).trackedUris = s.trackedUris :=
  trackedUris_modify s uri _

/-- Only the task that is released ceases to be waited for. -/
theorem pendingOf_release {s : Schedule} {n m : Nat} {uri : String} :
    (s.release n uri).pendingOf uri = some m ↔ s.pendingOf uri = some m ∧ m ≠ n := by
  unfold pendingOf
  rw [tracked?_release, if_pos rfl]
  cases s.tracked? uri with
  | none => simp
  | some d => exact Tracked.release_pending

@[simp] theorem pendingOf_enroll :
    (s.enroll t).pendingOf t.document.uri = s.pendingOf t.document.uri := by
  unfold pendingOf
  rw [tracked?_enroll, if_pos rfl]
  cases h : s.tracked? t.document.uri with
  | none => simp [enrolled, entry_of_untracked h]
  | some d => simp [enrolled, entry_of_tracked h]

@[simp] theorem pendingOf_leave (uri v : String) (life : Nat) :
    (s.leave uri life).pendingOf v = s.pendingOf v := by
  unfold pendingOf
  rw [tracked?_leave]
  by_cases hv : v = uri
  · rw [if_pos hv]
    cases s.tracked? v with
    | none => rfl
    | some d => exact d.leave_pending life
  · rw [if_neg hv]

/-- Leaving changes neither lives nor numbers, hence nothing about what is current. -/
@[simp] theorem isCurrent_leave (uri v : String) (life life' : Nat) (sequence : Int) :
    (s.leave uri life).isCurrent v life' sequence = s.isCurrent v life' sequence := by
  unfold isCurrent
  rw [tracked?_leave]
  by_cases hv : v = uri
  · rw [if_pos hv]
    cases s.tracked? v with
    | none => rfl
    | some d => simp only [Option.map_some, Tracked.leave_life, Tracked.leave_sequence]
  · rw [if_neg hv]

/-- A validation is current when its life lasts and its number is the latest. -/
theorem isCurrent_iff {s : Schedule} {uri : String} {life : Nat} {sequence : Int} :
    s.isCurrent uri life sequence = true ↔
      ∃ d, s.tracked? uri = some d ∧ d.life = life ∧ sequence = d.sequence := by
  unfold isCurrent
  cases s.tracked? uri with
  | none => simp
  | some d => simp

end Enter

/-! ### The ways in which a task is resumed -/

/-- **The ways in which a waiting task is resumed**, each with what becomes of the schedule and with
what the world outside gets to see. -/
inductive Resumption (around : Surroundings) (s : Schedule) (n : Nat) (t : Task) :
    Schedule × List Effect → Prop where
  /-- It is not waiting, and nothing happens. -/
  | idle (notWaiting : t.isWaiting = false) : Resumption around s n t (s, [])
  /-- It was cancelled while it waited. -/
  | cancelled (waiting : t.isWaiting = true) (cancelled : t.cancelRequested = true) :
      Resumption around s n t (s.finish n .cancelled, [])
  /-- It begins to wait for its delay to end. -/
  | slept (delay : Binary64) (stage : t.stage = .fresh delay) (kept : t.cancelRequested = false)
      (positive : delay.isPositive = true) :
      Resumption around s n t (s.setStage n .delayed, [.sleeping n delay])
  /-- Its URI cannot be read. -/
  | unreadable (e : Uri.Error) (due : t.isDue = true) (kept : t.cancelRequested = false)
      (file : Uri.toPath? t.document.uri = .error e) :
      Resumption around s n t
        ((s.release n t.document.uri).finish n (.failed (.badTarget e)), [])
  /-- Its URI names no file. -/
  | skipped (due : t.isDue = true) (kept : t.cancelRequested = false)
      (file : Uri.toPath? t.document.uri = .ok none) :
      Resumption around s n t ((s.release n t.document.uri).finish n (.finished false), [])
  /-- The directory to lint in cannot be found out. -/
  | stuck (file : Path) (e : Host.Error) (due : t.isDue = true) (kept : t.cancelRequested = false)
      (named : Uri.toPath? t.document.uri = .ok (some file))
      (call : Linter.callFor around.host s.settings s.workspace file = .error e) :
      Resumption around s n t
        ((((s.release n t.document.uri).enroll t).leave t.document.uri
            (s.entry t.document.uri).life).finish n (.finished false),
          [.logged (failureEntry t.document.uri (.mishap (.system e)))])
  /-- It calls the linter. -/
  | called (file : Path) (call : Linter.Call) (due : t.isDue = true)
      (kept : t.cancelRequested = false)
      (named : Uri.toPath? t.document.uri = .ok (some file))
      (callFor : Linter.callFor around.host s.settings s.workspace file = .ok call) :
      Resumption around s n t
        (((s.release n t.document.uri).enroll t).setStage n (.linting (s.passOf t file call)),
          [.called n call])

/-- Beginning a validation, with its steps named. -/
theorem begin_eq (around : Surroundings) (s : Schedule) (n : Nat) (t : Task) (file : Path) :
    begin around s n t file =
      match Linter.callFor around.host s.settings s.workspace file with
      | .error e =>
        ((((s.enroll t).leave t.document.uri (s.entry t.document.uri).life).finish n
          (.finished false)), [.logged (failureEntry t.document.uri (.mishap (.system e)))])
      | .ok call =>
        ((s.enroll t).setStage n (.linting (s.passOf t file call)), [.called n call]) := by
  have hentry : (s.follow t.document.uri).2 = s.entry t.document.uri := follow_snd s _
  have hsettings : (s.enroll t).settings = s.settings := settings_follow s _
  have hworkspace : (s.enroll t).workspace = s.workspace := workspace_follow s _
  have hcallFor : begin around s n t file =
      match Linter.callFor around.host (s.enroll t).settings (s.enroll t).workspace file with
      | .error e =>
        conclude around (s.enroll t) n t.document (s.entry t.document.uri).life (s.numberOf t)
          (.fail (.mishap (.system e)))
      | .ok call =>
        ((s.enroll t).setStage n (.linting
          { s.passOf t file call with settings := (s.enroll t).settings }), [.called n call]) := by
    simp only [begin, hentry]
    rfl
  rw [hcallFor, hsettings, hworkspace]
  cases Linter.callFor around.host s.settings s.workspace file with
  | error e => rfl
  | ok call => rfl

/-- Entering a validation, with its steps named. -/
theorem enter_eq (around : Surroundings) (s : Schedule) (n : Nat) (t : Task) :
    enter around s n t =
      match Uri.toPath? t.document.uri with
      | .error e => ((s.release n t.document.uri).finish n (.failed (.badTarget e)), [])
      | .ok none => ((s.release n t.document.uri).finish n (.finished false), [])
      | .ok (some file) => begin around (s.release n t.document.uri) n t file := by
  have hrelease : (s.modify t.document.uri fun d =>
      if d.pending == some n then { d with pending := none } else d) =
        s.release n t.document.uri := by
    unfold release Tracked.release
    simp only [beq_iff_eq]
  rcases hfile : Uri.toPath? t.document.uri with e | _ | file
  all_goals simp only [enter, hrelease, hfile]

/-- A task that gets past its delay ends in one of four ways. -/
theorem enter_cases (around : Surroundings) (s : Schedule) (n : Nat) {t : Task}
    (due : t.isDue = true) (kept : t.cancelRequested = false) :
    Resumption around s n t (enter around s n t) := by
  rw [enter_eq]
  cases hfile : Uri.toPath? t.document.uri with
  | error e => exact .unreadable e due kept hfile
  | ok file? =>
    cases file? with
    | none => exact .skipped due kept hfile
    | some file =>
      have hlife : ((s.release n t.document.uri).entry t.document.uri).life =
          (s.entry t.document.uri).life := by
        rw [entry_release, Tracked.release_life]
      have hnumber : (s.release n t.document.uri).numberOf t = s.numberOf t := by
        unfold numberOf
        rw [entry_release, Tracked.release_sequence]
      have hpass : ∀ call, (s.release n t.document.uri).passOf t file call =
          s.passOf t file call := by
        intro call
        unfold passOf
        rw [hlife, hnumber]
        rfl
      simp only [begin_eq]
      cases hcall : Linter.callFor around.host s.settings s.workspace file with
      | error e =>
        have hcall' : Linter.callFor around.host (s.release n t.document.uri).settings
            (s.release n t.document.uri).workspace file = .error e := hcall
        simp only [hcall', hlife]
        exact .stuck file e due kept hfile hcall
      | ok call =>
        have hcall' : Linter.callFor around.host (s.release n t.document.uri).settings
            (s.release n t.document.uri).workspace file = .ok call := hcall
        simp only [hcall', hpass]
        exact .called file call due kept hfile hcall

/-- **A task is resumed in one of the ways listed.** -/
theorem resume_cases (around : Surroundings) {s : Schedule} {n : Nat} {t : Task}
    (h : s.task? n = some t) : Resumption around s n t (resume around s n) := by
  simp only [resume, h]
  cases hstage : t.stage with
  | fresh delay =>
    have hw : t.isWaiting = true := by simp [Task.isWaiting, hstage]
    cases hc : t.cancelRequested with
    | true => simpa [hc] using Resumption.cancelled hw hc
    | false =>
      cases hp : delay.isPositive with
      | true => simpa [hp] using Resumption.slept delay hstage hc hp
      | false =>
        have hdue : t.isDue = true := by simp [Task.isDue, hstage, hp]
        simpa [hp] using enter_cases around s n hdue hc
  | delayed =>
    have hw : t.isWaiting = true := by simp [Task.isWaiting, hstage]
    cases hc : t.cancelRequested with
    | true => simpa using Resumption.cancelled hw hc
    | false =>
      have hdue : t.isDue = true := by simp [Task.isDue, hstage]
      simpa using enter_cases around s n hdue hc
  | linting pass => exact .idle (by simp [Task.isWaiting, hstage])
  | done outcome => exact .idle (by simp [Task.isWaiting, hstage])

theorem resume_of_absent (around : Surroundings) {s : Schedule} {n : Nat}
    (h : s.task? n = none) : resume around s n = (s, []) := by
  simp only [resume, h]

theorem resume_of_not_waiting (around : Surroundings) {s : Schedule} {n : Nat} {t : Task}
    (h : s.task? n = some t) (hw : t.isWaiting = false) : resume around s n = (s, []) := by
  simp only [resume, h]
  cases hs : t.stage with
  | fresh delay => simp [Task.isWaiting, hs] at hw
  | delayed => simp [Task.isWaiting, hs] at hw
  | linting pass => rfl
  | done outcome => rfl

/-! ### The ways in which a task ends with an answer of the linter -/

/-- What a pass comes to with the answer of the linter. -/
def Pass.read (pass : Pass) (uri : String) (answer : Except Mishap ToolOutput) :
    Traced Failure (List Record) :=
  match answer with
  | .error m => .fail (.mishap m)
  | .ok out => Linter.findings pass.settings uri pass.file out

/-- The publication of what a validation of a document has found. -/
def publicationOf (document : Document) (records : List Record) : Publication where
  uri := document.uri
  records := records
  version := document.version

/-- A schedule in which a set has been written down as the one published last. -/
def record (s : Schedule) (uri : String) (records : List Record) : Schedule :=
  s.modify uri fun d => { d with published := some records }

theorem tracked?_record (s : Schedule) (uri v : String) (records : List Record) :
    (s.record uri records).tracked? v =
      if v = uri then (s.tracked? v).map fun d => { d with published := some records }
      else s.tracked? v :=
  tracked?_modify s uri v _

@[simp] theorem pendingOf_record (s : Schedule) (uri v : String) (records : List Record) :
    (s.record uri records).pendingOf v = s.pendingOf v := by
  unfold pendingOf
  rw [tracked?_record]
  by_cases hv : v = uri
  · rw [if_pos hv]
    cases s.tracked? v <;> rfl
  · rw [if_neg hv]

/-- **The ways in which a task ends once the linter has answered it**, each with what becomes of the
schedule and with what the world outside gets to see. -/
inductive Completion (around : Surroundings) (s : Schedule) (n : Nat) (t : Task) (pass : Pass)
    (answer : Except Mishap ToolOutput) : Schedule × List Effect → Prop where
  /-- It was cancelled while the linter was at work. -/
  | cancelled (cancelled : t.cancelRequested = true) :
      Completion around s n t pass answer
        ((s.leave t.document.uri pass.life).finish n .cancelled, [])
  /-- The pass fails. -/
  | failed (e : Failure) (kept : t.cancelRequested = false)
      (read : (pass.read t.document.uri answer).result = .error e) :
      Completion around s n t pass answer
        ((s.leave t.document.uri pass.life).finish n (.finished false),
          (pass.read t.document.uri answer).log.map Effect.logged ++
            [.logged (failureEntry t.document.uri e)])
  /-- The pass is outdated. -/
  | outdated (records : List Record) (kept : t.cancelRequested = false)
      (read : (pass.read t.document.uri answer).result = .ok records)
      (stale : s.isCurrent t.document.uri pass.life pass.sequence = false) :
      Completion around s n t pass answer
        ((s.leave t.document.uri pass.life).finish n (.finished false),
          (pass.read t.document.uri answer).log.map Effect.logged)
  /-- What the pass has found is published. -/
  | published (records : List Record) (kept : t.cancelRequested = false)
      (read : (pass.read t.document.uri answer).result = .ok records)
      (current : s.isCurrent t.document.uri pass.life pass.sequence = true)
      (delivered : around.deliver (publicationOf t.document records) = .ok ()) :
      Completion around s n t pass answer
        (((s.leave t.document.uri pass.life).record t.document.uri records).finish n
            (.finished true),
          (pass.read t.document.uri answer).log.map Effect.logged ++
            [.published (publicationOf t.document records)])
  /-- What the pass has found cannot be delivered. -/
  | undelivered (records : List Record) (m : Mishap) (kept : t.cancelRequested = false)
      (read : (pass.read t.document.uri answer).result = .ok records)
      (current : s.isCurrent t.document.uri pass.life pass.sequence = true)
      (refused : around.deliver (publicationOf t.document records) = .error m) :
      Completion around s n t pass answer
        (((s.leave t.document.uri pass.life).record t.document.uri records).finish n (.failed m),
          (pass.read t.document.uri answer).log.map Effect.logged ++
            [.undelivered (publicationOf t.document records) m])

/-- **A task that has called the linter ends in one of the ways listed.** -/
theorem complete_cases (around : Surroundings) {s : Schedule} {n : Nat} {t : Task} {pass : Pass}
    (answer : Except Mishap ToolOutput) (h : s.task? n = some t) (hs : t.stage = .linting pass) :
    Completion around s n t pass answer (complete around s n answer) := by
  cases hc : t.cancelRequested with
  | true =>
    simp only [complete, h, hs, hc, if_true]
    exact .cancelled hc
  | false =>
    have hread : complete around s n answer =
        conclude around s n t.document pass.life pass.sequence
          (pass.read t.document.uri answer) := by
      simp only [complete, h, hs, hc, if_false, Bool.false_eq_true]
      cases answer <;> rfl
    rw [hread]
    simp only [conclude]
    cases hfound : (pass.read t.document.uri answer).result with
    | error e => exact .failed e hc hfound
    | ok records =>
      simp only [settle, isCurrent_leave]
      cases hcur : s.isCurrent t.document.uri pass.life pass.sequence with
      | false => simpa using Completion.outdated records hc hfound hcur
      | true =>
        cases hdel : around.deliver (publicationOf t.document records) with
        | ok _ =>
          have hdel' : around.deliver
              { uri := t.document.uri, records, version := t.document.version } = .ok () := hdel
          simp only [hdel', if_true]
          exact .published records hc hfound hcur hdel
        | error m =>
          have hdel' : around.deliver
              { uri := t.document.uri, records, version := t.document.version } = .error m := hdel
          simp only [hdel', if_true]
          exact .undelivered records m hc hfound hcur hdel

/-- A task that has not called the linter does not end with an answer. -/
theorem complete_of_not_linting (around : Surroundings) {s : Schedule} {n : Nat}
    (answer : Except Mishap ToolOutput)
    (h : ∀ t pass, s.task? n = some t → t.stage ≠ .linting pass) :
    complete around s n answer = (s, []) := by
  cases ht : s.task? n with
  | none => simp only [complete, ht]
  | some t =>
    cases hstage : t.stage with
    | linting pass => exact absurd hstage (h t pass ht)
    | _ => simp only [complete, ht, hstage]

end Schedule

end LintBridge
