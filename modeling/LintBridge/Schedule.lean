import LintBridge.Document
import LintBridge.Linter.Pass
import LintBridge.Publication

/-!
# Scheduling validations

Every change of a document calls for a validation of it. A validation first waits for further
changes, then has the linter called, and at last publishes what was found. Meanwhile the document
may change again or be closed, so that a validation may no longer be wanted when its time comes: one
that still waits is cancelled by the next, and **what an outdated one has found is dropped**.

* `LintBridge.Schedule` – the documents that are followed and the validations of them;
* `LintBridge.Schedule.Tracked` – what is known of a document. Its `life` tells it from an earlier
  life of the same document, one that was ended by closing it;
* `LintBridge.Schedule.Task` – a validation, with the stage it is in;
* `LintBridge.Schedule.Effect` – what the world outside gets to see.
-/

namespace LintBridge

namespace Schedule

/-- What is known of a document that is followed. -/
structure Tracked where
  /-- The life of the document, which no other life shares. -/
  life : Nat
  /-- The number of the latest validation. -/
  sequence : Nat := 0
  /-- How many validations are under way, from the call of the linter to the end. -/
  inFlight : Nat := 0
  /-- The task that has not yet begun its validation. -/
  pending : Option Nat := none
  /-- The diagnostics published last. -/
  published : Option (List Record) := none
  deriving DecidableEq, Repr

/-- What a validation has fixed when it begins. -/
structure Pass where
  /-- The life of the document. -/
  life : Nat
  /-- The number of the validation. -/
  sequence : Int
  /-- The settings in force. -/
  settings : Settings
  /-- The file. -/
  file : Path
  /-- The call of the linter. -/
  call : Linter.Call
  deriving DecidableEq, Repr

/-- How a task ended. -/
inductive Outcome where
  /-- It came to its end; the flag says whether it published anything. -/
  | finished (published : Bool)
  /-- It was cancelled. -/
  | cancelled
  /-- It failed in a way nobody provides for. -/
  | failed (mishap : Mishap)
  deriving DecidableEq, Repr

/-- The stage a task is in. -/
inductive Stage where
  /-- It has not run yet, and is to wait for so many seconds. -/
  | fresh (delay : Binary64)
  /-- It waits for further changes. -/
  | delayed
  /-- It waits for the linter. -/
  | linting (pass : Pass)
  /-- It is over. -/
  | done (outcome : Outcome)
  deriving DecidableEq, Repr

/-- Where a task comes from. -/
inductive Origin where
  /-- It was scheduled, with the number it got. -/
  | scheduled (sequence : Nat)
  /-- It was asked for directly, possibly with a number. -/
  | direct (sequence : Option Int)
  deriving DecidableEq, Repr

/-- A validation. -/
structure Task where
  /-- The document, as it was when the validation was asked for. -/
  document : Document
  /-- Where it comes from. -/
  origin : Origin
  /-- The stage it is in. -/
  stage : Stage
  /-- Whether its cancellation has been asked for. -/
  cancelRequested : Bool := false
  deriving DecidableEq, Repr

/-- Whether a task is over. -/
def Task.isDone (t : Task) : Bool :=
  match t.stage with
  | .done _ => true
  | _ => false

/-- Whether a task was scheduled. -/
def Task.isScheduled (t : Task) : Bool :=
  match t.origin with
  | .scheduled _ => true
  | .direct _ => false

/-- The number of a task, if it has one before it begins. -/
def Task.sequence? (t : Task) : Option Int :=
  match t.origin with
  | .scheduled n => some n
  | .direct n => n

/-- What the world outside gets to see. -/
inductive Effect where
  /-- A task was created. -/
  | created (task : Nat)
  /-- The cancellation of a task was asked for. -/
  | cancelled (task : Nat)
  /-- A task is to be resumed after so many seconds. -/
  | sleeping (task : Nat) (delay : Binary64)
  /-- A task has called the linter. -/
  | called (task : Nat) (call : Linter.Call)
  /-- Diagnostics were published. -/
  | published (publication : Publication)
  /-- Diagnostics could not be delivered. -/
  | undelivered (publication : Publication) (mishap : Mishap)
  /-- An entry was made in the log. -/
  | logged (entry : LogEntry)
  deriving DecidableEq, Repr

/-- The world outside: the files, and the receiver of publications, which may fail. -/
structure Surroundings where
  /-- The files. -/
  host : Host
  /-- Delivers a publication. -/
  deliver : Publication → Except Mishap Unit

/-- Whether a document is being validated. -/
inductive Phase where
  /-- Nothing is under way. -/
  | idle
  /-- A validation waits or is under way. -/
  | validating
  deriving DecidableEq, Repr

/-- The name of a phase. -/
def Phase.name : Phase → String
  | .idle => "idle"
  | .validating => "validating"

end Schedule

/-- The documents that are followed and the validations of them. -/
structure Schedule where
  /-- The settings in force. -/
  settings : Settings := {}
  /-- The root of the workspace. -/
  workspace : Option Path := none
  /-- The documents that are followed, longest followed first. -/
  documents : List (String × Schedule.Tracked) := []
  /-- The tasks, each under its number. -/
  tasks : List Schedule.Task := []
  /-- The life that the next document to be followed gets. -/
  nextLife : Nat := 0
  deriving DecidableEq, Repr

namespace Schedule

/-! ### Views -/

/-- What is known of a document. -/
def tracked? (s : Schedule) (uri : String) : Option Tracked :=
  s.documents.lookup uri

/-- The URIs of the documents that are followed, longest followed first. -/
def trackedUris (s : Schedule) : List String :=
  s.documents.map (·.1)

/-- A task by number. -/
def task? (s : Schedule) (n : Nat) : Option Task :=
  s.tasks[n]?

/-- Whether a task exists and is not over. -/
def isOutstanding (s : Schedule) (n : Nat) : Bool :=
  match s.task? n with
  | some t => !t.isDone
  | none => false

/-- Whether a validation of a document waits or is under way. -/
def phase (s : Schedule) (uri : String) : Phase :=
  match s.tracked? uri with
  | none => .idle
  | some d =>
    let waiting := match d.pending with
      | some n => s.isOutstanding n
      | none => false
    if waiting || d.inFlight != 0 then .validating else .idle

/-- The diagnostics of a document that were published last. -/
def published (s : Schedule) (uri : String) : Option (List Record) :=
  (s.tracked? uri).bind (·.published)

/-- The scheduled tasks that are not over. -/
def outstanding (s : Schedule) : List Nat :=
  (List.range s.tasks.length).filter fun n =>
    match s.task? n with
    | some t => t.isScheduled && !t.isDone
    | none => false

/-! ### Changes -/

/-- Replaces what is known of a document that is followed. -/
def modify (s : Schedule) (uri : String) (f : Tracked → Tracked) : Schedule :=
  { s with documents := s.documents.map fun (u, d) => if u == uri then (u, f d) else (u, d) }

/-- Follows a document, which begins a new life if it is not followed yet. -/
def follow (s : Schedule) (uri : String) : Schedule × Tracked :=
  match s.tracked? uri with
  | some d => (s, d)
  | none =>
    let d : Tracked := { life := s.nextLife }
    ({ s with documents := s.documents ++ [(uri, d)], nextLife := s.nextLife + 1 }, d)

/-- Changes a task. -/
def modifyTask (s : Schedule) (n : Nat) (f : Task → Task) : Schedule :=
  { s with tasks := s.tasks.modify n f }

/-- Moves a task to a stage. -/
def setStage (s : Schedule) (n : Nat) (stage : Stage) : Schedule :=
  s.modifyTask n fun t => { t with stage }

/-- Ends a task. -/
def finish (s : Schedule) (n : Nat) (outcome : Outcome) : Schedule :=
  s.setStage n (.done outcome)

/-- Asks for the cancellation of a task, unless it is over. -/
def cancel (s : Schedule) (n : Nat) : Schedule × List Effect :=
  if s.isOutstanding n then
    (s.modifyTask n fun t => { t with cancelRequested := true }, [.cancelled n])
  else (s, [])

/-- Asks for the cancellation of several tasks. -/
def cancelAll (s : Schedule) : List Nat → Schedule × List Effect
  | [] => (s, [])
  | n :: rest =>
    let (s, first) := s.cancel n
    let (s, more) := s.cancelAll rest
    (s, first ++ more)

/-- Creates a task. -/
def create (s : Schedule) (t : Task) : Schedule × List Effect :=
  ({ s with tasks := s.tasks ++ [t] }, [.created s.tasks.length])

/-- Delivers a publication. -/
def send (around : Surroundings) (p : Publication) : List Effect :=
  match around.deliver p with
  | .ok () => [.published p]
  | .error m => [.undelivered p m]

/-! ### What is asked for -/

/-- Schedules a validation of a document after so many seconds, by default those of the settings. A
validation of it that still waits is cancelled. -/
def schedule (s : Schedule) (document : Document) (delay : Option Binary64) :
    Schedule × List Effect :=
  let (s, d) := s.follow document.uri
  let (s, first) := match d.pending with
    | some n => s.cancel n
    | none => (s, [])
  let sequence := d.sequence + 1
  let wait := delay.getD s.settings.debounceSeconds
  let s := s.modify document.uri fun d => { d with sequence, pending := some s.tasks.length }
  let (s, more) := s.create { document, origin := .scheduled sequence, stage := .fresh wait }
  (s, first ++ more)

/-- Validates a document that was opened, at once. -/
def opened (s : Schedule) (document : Document) : Schedule × List Effect :=
  s.schedule document (some (.ofInt 0))

/-- Validates a document that was changed, when no more changes come. -/
def changed (s : Schedule) (document : Document) : Schedule × List Effect :=
  s.schedule document none

/-- Validates a document that was saved, at once. -/
def saved (s : Schedule) (document : Document) : Schedule × List Effect :=
  s.schedule document (some (.ofInt 0))

/-- Validates a document directly, under the number given or the next one. -/
def validate (s : Schedule) (document : Document) (sequence : Option Int) :
    Schedule × List Effect :=
  s.create { document, origin := .direct sequence, stage := .fresh (.ofInt 0) }

/-- Ends the life of a document and clears its diagnostics. -/
def close (around : Surroundings) (s : Schedule) (uri : String) : Schedule × List Effect :=
  let pending := (s.tracked? uri).bind (·.pending)
  let s := { s with documents := s.documents.filter (·.1 != uri) }
  let (s, first) := match pending with
    | some n => s.cancel n
    | none => (s, [])
  (s, first ++ send around { uri, records := [], version := none })

/-- Cancels all scheduled validations that are not over. -/
def shutdown (s : Schedule) : Schedule × List Effect :=
  s.cancelAll s.outstanding

/-! ### What tasks do -/

/-- Takes a validation that is over off the count of its document, if that life still lasts. -/
def leave (s : Schedule) (uri : String) (life : Nat) : Schedule :=
  s.modify uri fun d => if d.life == life then { d with inFlight := d.inFlight - 1 } else d

/-- Whether a validation is the latest of its document, and its life still lasts. -/
def isCurrent (s : Schedule) (uri : String) (life : Nat) (sequence : Int) : Bool :=
  match s.tracked? uri with
  | some d => d.life == life && sequence == d.sequence
  | none => false

/-- The entry of the log for a validation that failed. -/
def failureEntry (uri : String) : Failure → LogEntry
  | .linter e => { level := .error, message := s!"Validation of {uri} failed: {e.message}" }
  | .mishap m =>
    { level := .error, message := s!"Unexpected error while validating {uri}", mishap := some m }

/-- Publishes what a validation has found, unless it is outdated. -/
def settle (around : Surroundings) (s : Schedule) (n : Nat) (document : Document) (life : Nat)
    (sequence : Int) (records : List Record) : Schedule × List Effect :=
  if s.isCurrent document.uri life sequence then
    let s := s.modify document.uri fun d => { d with published := some records }
    let p : Publication := { uri := document.uri, records, version := document.version }
    match around.deliver p with
    | .ok () => (s.finish n (.finished true), [.published p])
    | .error m => (s.finish n (.failed m), [.undelivered p m])
  else (s.finish n (.finished false), [])

/-- Ends a validation with what the linter came to. -/
def conclude (around : Surroundings) (s : Schedule) (n : Nat) (document : Document) (life : Nat)
    (sequence : Int) (found : Traced Failure (List Record)) : Schedule × List Effect :=
  let s := s.leave document.uri life
  let logs := found.log.map Effect.logged
  match found.result with
  | .error e => (s.finish n (.finished false), logs ++ [.logged (failureEntry document.uri e)])
  | .ok records =>
    let (s, more) := settle around s n document life sequence records
    (s, logs ++ more)

/-- Begins a validation: calls the linter for a file, under the number given or the next one. -/
def begin (around : Surroundings) (s : Schedule) (n : Nat) (t : Task) (file : Path) :
    Schedule × List Effect :=
  let uri := t.document.uri
  let (s, d) := s.follow uri
  let sequence := t.sequence?.getD (d.sequence + 1)
  let s := s.modify uri fun d =>
    { d with
      sequence := if t.sequence?.isNone then d.sequence + 1 else d.sequence
      inFlight := d.inFlight + 1 }
  match Linter.callFor around.host s.settings s.workspace file with
  | .error e => conclude around s n t.document d.life sequence (.fail (.mishap (.system e)))
  | .ok call =>
    let pass : Pass := { life := d.life, sequence, settings := s.settings, file, call }
    (s.setStage n (.linting pass), [.called n call])

/-- A task is past its delay. It no longer waits for changes, and validates its document if that is
a file. -/
def enter (around : Surroundings) (s : Schedule) (n : Nat) (t : Task) : Schedule × List Effect :=
  let s := s.modify t.document.uri fun d =>
    if d.pending == some n then { d with pending := none } else d
  match Uri.toPath? t.document.uri with
  | .error e => (s.finish n (.failed (.badTarget e)), [])
  | .ok none => (s.finish n (.finished false), [])
  | .ok (some file) => begin around s n t file

/-- Runs a task that waits for its first run or for the end of its delay. -/
def resume (around : Surroundings) (s : Schedule) (n : Nat) : Schedule × List Effect :=
  match s.task? n with
  | none => (s, [])
  | some t =>
    match t.stage with
    | .fresh delay =>
      if t.cancelRequested then (s.finish n .cancelled, [])
      else if delay.isPositive then (s.setStage n .delayed, [.sleeping n delay])
      else enter around s n t
    | .delayed => if t.cancelRequested then (s.finish n .cancelled, []) else enter around s n t
    | _ => (s, [])

/-- The linter answers a task, or its runner fails. -/
def complete (around : Surroundings) (s : Schedule) (n : Nat) (answer : Except Mishap ToolOutput) :
    Schedule × List Effect :=
  match s.task? n with
  | none => (s, [])
  | some t =>
    match t.stage with
    | .linting pass =>
      if t.cancelRequested then ((s.leave t.document.uri pass.life).finish n .cancelled, [])
      else
        let found : Traced Failure (List Record) :=
          match answer with
          | .error m => .fail (.mishap m)
          | .ok out => Linter.findings pass.settings t.document.uri pass.file out
        conclude around s n t.document pass.life pass.sequence found
    | _ => (s, [])

/-! ### Runs -/

/-- What may happen to a schedule. -/
inductive Event where
  /-- A validation is scheduled. -/
  | schedule (document : Document) (delay : Option Binary64)
  /-- A validation is asked for directly. -/
  | validate (document : Document) (sequence : Option Int)
  /-- A document is closed. -/
  | close (uri : String)
  /-- All scheduled validations are cancelled. -/
  | shutdown
  /-- The settings are replaced. -/
  | configure (settings : Settings)
  /-- The root of the workspace is replaced. -/
  | moveTo (workspace : Option Path)
  /-- A task runs on. -/
  | resume (task : Nat)
  /-- The linter answers a task. -/
  | complete (task : Nat) (answer : Except Mishap ToolOutput)

/-- What an event does. -/
def step (around : Surroundings) (s : Schedule) : Event → Schedule × List Effect
  | .schedule document delay => s.schedule document delay
  | .validate document sequence => s.validate document sequence
  | .close uri => close around s uri
  | .shutdown => s.shutdown
  | .configure settings => ({ s with settings }, [])
  | .moveTo workspace => ({ s with workspace }, [])
  | .resume n => resume around s n
  | .complete n answer => complete around s n answer

/-- What several events do, one after the other. -/
def run (around : Surroundings) (s : Schedule) : List Event → Schedule × List Effect
  | [] => (s, [])
  | e :: rest =>
    let (s, first) := step around s e
    let (s, more) := run around s rest
    (s, first ++ more)

end Schedule

end LintBridge
