import LintBridge.Session

/-!
# The loop that runs a session

Tasks and waiting messages take turns. What is ready runs in the order in which it became ready, and
runs until it waits for a timer, for a gate, or not at all; **timers that end at the same moment
wake in the order in which they were set**. Time stands still while anything is ready.

* `LintBridge.Loop` – a session with its turns, timers and gates;
* `LintBridge.Loop.Reply` – how the linter answers a call: after a delay, behind a gate, or at once;
* `LintBridge.Loop.settle` – runs everything that is ready;
* `LintBridge.Loop.advance` – lets time pass; `LintBridge.Loop.drain` – lets as much of it pass as
  the scheduled validations take.
-/

namespace LintBridge

namespace Loop

/-- How the linter answers a call. -/
structure Reply where
  /-- How many seconds it takes. -/
  delay : Binary64 := .ofInt 0
  /-- Whether the answer waits for the gate of the call to be opened. -/
  gated : Bool := false
  /-- The answer. -/
  answer : Except Mishap ToolOutput

/-- The world outside a loop. -/
structure World where
  /-- The files, and the receiver of publications. -/
  around : Schedule.Surroundings
  /-- The linter, which is told the number of the call. -/
  linter : Nat → Linter.Call → Reply

/-- A turn. -/
inductive Turn where
  /-- A task runs on. -/
  | task (n : Nat)
  /-- The message that has waited longest is handled. -/
  | message
  /-- The editor is told of a failure. -/
  | complaint
  deriving DecidableEq, Repr

/-- A call that is not answered yet. -/
structure OpenCall where
  /-- The task that called. -/
  task : Nat
  /-- The number of the call. -/
  number : Nat
  /-- The answer to come. -/
  reply : Reply
  /-- Whether the delay is over. -/
  ripe : Bool := false

end Loop

/-- A session with its turns, timers and gates. -/
structure Loop where
  /-- The session. -/
  session : Session := {}
  /-- The turns that are ready, in order. -/
  ready : List Loop.Turn := []
  /-- The tasks that wait for a time, in milliseconds, in the order in which they began to wait. -/
  timers : List (Nat × Nat) := []
  /-- The tasks that wait at the gate of a call, each with the number of the call. -/
  gates : List (Nat × Nat) := []
  /-- The calls whose gates are open. -/
  opened : List Nat := []
  /-- The calls that are not answered yet. -/
  calls : List Loop.OpenCall := []
  /-- How many calls there have been. -/
  callCount : Nat := 0
  /-- The time, in milliseconds. -/
  now : Nat := 0
  /-- What the world outside has seen, oldest first. -/
  effects : List Session.Effect := []

namespace Loop

/-! ### Waiting -/

/-- Adds a turn after those that are ready. -/
def push (l : Loop) (t : Turn) : Loop :=
  { l with ready := l.ready ++ [t] }

/-- Lets a task wait for so many seconds. One that is to wait forever has no timer. -/
def sleep (l : Loop) (n : Nat) (delay : Binary64) : Loop :=
  match delay.thousandths? with
  | some ms => { l with timers := l.timers ++ [(l.now + ms.toNat, n)] }
  | none => l

/-- Makes a task ready that waits for whatever it is; a task that is ready keeps its turn. -/
def wake (l : Loop) (n : Nat) : Loop :=
  if l.ready.contains (.task n) then l
  else
    let l := { l with timers := l.timers.filter (·.2 != n), gates := l.gates.filter (·.2 != n) }
    l.push (.task n)

/-- Takes note of an effect. -/
def absorb (l : Loop) (e : Session.Effect) : Loop :=
  let l := { l with effects := l.effects ++ [e] }
  match e with
  | .queued => l.push .message
  | .failed => l.push .complaint
  | .scheduled (.created n) => l.push (.task n)
  | .scheduled (.cancelled n) => l.wake n
  | .scheduled (.sleeping n delay) => l.sleep n delay
  | _ => l

/-- Takes note of what a change of the session has done. -/
def take (l : Loop) (x : Session × List Session.Effect) : Loop :=
  x.2.foldl absorb { l with session := x.1 }

/-- Changes the schedule. -/
def act (l : Loop) (f : Schedule → Schedule × List Schedule.Effect) : Loop :=
  l.take (l.session.withSchedule (f l.session.schedule))

/-! ### The linter -/

/-- The call of a task that is not answered yet. -/
def callOf? (l : Loop) (n : Nat) : Option OpenCall :=
  l.calls.find? (·.task == n)

/-- Answers the call of a task. -/
def answer (w : World) (l : Loop) (n : Nat) (reply : Reply) : Loop :=
  { l with calls := l.calls.filter (·.task != n) }.act fun s => s.complete w.around n reply.answer

/-- Answers the call of a task unless its gate is closed. -/
def reachGate (w : World) (l : Loop) (call : OpenCall) : Loop :=
  if call.reply.gated && !l.opened.contains call.number then
    { l with
      gates := l.gates ++ [(call.number, call.task)]
      calls := l.calls.filter (·.task != call.task) ++ [{ call with ripe := true }] }
  else answer w l call.task call.reply

/-- A task has called the linter. -/
def attend (w : World) (l : Loop) (n : Nat) (c : Linter.Call) : Loop :=
  let call : OpenCall := { task := n, number := l.callCount, reply := w.linter l.callCount c }
  let l := { l with callCount := l.callCount + 1 }
  if call.reply.delay.isPositive then
    { l with calls := l.calls ++ [call] }.sleep n call.reply.delay
  else reachGate w l call

/-- The call that an effect is. -/
def callIn? : Schedule.Effect → Option Linter.Call
  | .called _ c => some c
  | _ => none

/-! ### Turns -/

/-- A task runs on. -/
def runTask (w : World) (l : Loop) (n : Nat) : Loop :=
  match l.callOf? n with
  | some call =>
    let cancelled := match l.session.schedule.task? n with
      | some t => t.cancelRequested
      | none => true
    if cancelled || call.ripe then answer w l n call.reply else reachGate w l call
  | none =>
    let x := l.session.schedule.resume w.around n
    let l := l.take (l.session.withSchedule x)
    match x.2.findSome? callIn? with
    | some c => attend w l n c
    | none => l

/-- Takes a turn. -/
def run (w : World) (l : Loop) : Turn → Loop
  | .task n => runTask w l n
  | .message => l.take (l.session.handle w.around)
  | .complaint => l.absorb .complained

/-- The timers that have ended, the earliest first. -/
def ended (l : Loop) : List (Nat × Nat) :=
  (l.timers.filter (·.1 ≤ l.now)).mergeSort fun a b => a.1 ≤ b.1

/-- Makes the tasks ready whose timers have ended. -/
def wakeEnded (l : Loop) : Loop :=
  { l with
    timers := l.timers.filter fun t => !(t.1 ≤ l.now)
    ready := l.ready ++ l.ended.map fun t => .task t.2 }

/-- Takes the next turn; there is none if nothing is ready and no timer has ended. -/
def next (w : World) (l : Loop) : Option Loop :=
  match l.ready with
  | t :: rest => some (run w { l with ready := rest } t)
  | [] => if l.ended.isEmpty then none else some l.wakeEnded

/-- Takes at most so many turns. -/
def runTurns (w : World) : Nat → Loop → Loop
  | 0, l => l
  | k + 1, l =>
    match next w l with
    | some l => runTurns w k l
    | none => l

/-- The tasks that are not over. -/
def unfinished (l : Loop) : Nat :=
  (l.session.schedule.tasks.filter fun t => !t.isDone).length

/-- As many turns as there can be before time has to pass: a task has one for its first run, for the
end of its delay, for the end of the delay of the linter and for the gate, each possibly with a
timer; and a message creates at most a task for each document. -/
def turnBound (l : Loop) : Nat :=
  let waiting := l.session.pending.length
  let documents := l.session.schedule.documents.length
  l.ready.length + 8 * l.unfinished + waiting * (2 + 8 * (documents + waiting + 1)) + 1

/-- Runs everything that is ready. -/
def settle (w : World) (l : Loop) : Loop :=
  runTurns w l.turnBound l

/-! ### Time -/

/-- The time at which the next timer ends. -/
def nextTime? (l : Loop) : Option Nat :=
  (l.timers.map (·.1)).min?

/-- Moves the clock forward. -/
def moveTo (l : Loop) (time : Nat) : Loop :=
  { l with now := max l.now time }

/-- Lets time pass up to the given one, from one timer to the next, at most so many times. -/
def passTo (w : World) (time : Nat) : Nat → Loop → Loop
  | 0, l => l
  | k + 1, l =>
    match l.nextTime? with
    | some t => if t ≤ time then passTo w time k (settle w (l.moveTo t)) else l
    | none => l

/-- As many times as timers can end: a task has one for its delay and one for that of the linter. -/
def timerBound (l : Loop) : Nat :=
  2 * l.unfinished + l.timers.length

/-- Lets time pass up to the given one, in milliseconds. -/
def advanceTo (w : World) (l : Loop) (time : Nat) : Loop :=
  let l := settle w l
  settle w ((passTo w time l.timerBound l).moveTo time)

/-- Lets so many seconds pass. -/
def advance (w : World) (l : Loop) (seconds : Binary64) : Loop :=
  l.advanceTo w (l.now + (seconds.thousandths?.getD 0).toNat)

/-- Lets time pass until the scheduled validations are over, from one timer to the next, at most so
many times. -/
def passUntilIdle (w : World) : Nat → Loop → Loop
  | 0, l => l
  | k + 1, l =>
    if l.session.schedule.outstanding.isEmpty then l
    else
      match l.nextTime? with
      | some t => passUntilIdle w k (settle w (l.moveTo t))
      | none => l

/-- Lets time pass until the scheduled validations are over, or nothing is left to wait for. -/
def drain (w : World) (l : Loop) : Loop :=
  let l := settle w l
  passUntilIdle w l.timerBound l

/-- Whether the scheduled validations are over. -/
def isDrained (l : Loop) : Bool :=
  l.session.schedule.outstanding.isEmpty

/-! ### The outside -/

/-- Opens the gate of a call. -/
def openGate (l : Loop) (number : Nat) : Loop :=
  let waiting := (l.gates.filter (·.1 == number)).map (·.2)
  waiting.foldl wake { l with opened := l.opened ++ [number] }

/-- A message arrives. -/
def receive (w : World) (l : Loop) (m : Session.Message) : Loop :=
  l.take (l.session.receive w.around m)

/-- Forgets what the world outside has seen. -/
def clear (l : Loop) : Loop :=
  { l with effects := [] }

end Loop

end LintBridge
