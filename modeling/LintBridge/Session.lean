import LintBridge.Schedule
import LintBridge.Session.Message
import LintBridge.Settings.Project
import LintBridge.Text.Percent

/-!
# A session with an editor

The server keeps what the editor has open, and schedules a validation for each thing that happens to
a document. Some messages are dealt with on arrival; the others are noted down on arrival and
**handled in turn**, with the documents as they are by then.

* `LintBridge.Session` – a session: the documents that are open, the schedule, and the messages that
  wait;
* `LintBridge.Session.receive` – a message arrives;
* `LintBridge.Session.handle` – the message that has waited longest is handled;
* `LintBridge.Session.snapshot` – a document as it is.
-/

namespace LintBridge

open Json (Value)

namespace Session

/-- A document that the editor has open. -/
structure OpenDocument where
  /-- Its version. -/
  version : Option Int
  /-- Its text. -/
  text : String
  deriving DecidableEq, Repr

/-- The documents that the editor has open, each under its decoded URI. -/
abbrev Workspace := List (String × OpenDocument)

/-- A message that waits to be handled. -/
inductive Pending where
  /-- A document was opened. -/
  | opened (document : Document)
  /-- A document was changed. -/
  | changed (uri : String)
  /-- A document was saved. -/
  | saved (uri : String)
  /-- The editor has new settings. -/
  | configured (settings : Value)

/-- What the world outside gets to see. -/
inductive Effect where
  /-- Something that the schedule does. -/
  | scheduled (effect : Schedule.Effect)
  /-- A message waits to be handled. -/
  | queued
  /-- A request is answered; the flag says whether it succeeded. -/
  | replied (id : Value) (ok : Bool)
  /-- The handling of a message failed. -/
  | failed
  /-- The editor is told of a failure. -/
  | complained

end Session

/-- A session with an editor. -/
structure Session where
  /-- The settings to start from. -/
  base : Settings := {}
  /-- The documents that are followed and the validations of them. -/
  schedule : Schedule := {}
  /-- The documents that are open, once the editor has started. -/
  workspace : Option Session.Workspace := none
  /-- The messages that wait to be handled, oldest first. -/
  pending : List Session.Pending := []
  /-- Whether the editor is stopping; then all messages are passed over. -/
  stopping : Bool := false

namespace Session

open Schedule (Surroundings)

/-- A session that has not begun. -/
def ofSettings (base : Settings) : Session :=
  { base, schedule := { settings := base } }

/-! ### Documents -/

/-- The key of a document. -/
def keyOf (uri : String) : String :=
  Text.Percent.decode uri

/-- Puts a document among those that are open. -/
def Workspace.put (w : Workspace) (uri : String) (d : OpenDocument) : Workspace :=
  w.filter (·.1 != keyOf uri) ++ [(keyOf uri, d)]

/-- The text of the file that a URI names. -/
def fileContents? (around : Surroundings) (uri : String) : Option String :=
  match Uri.fileText? uri with
  | .ok (some path) =>
    match around.host.read (Path.ofString path) with
    | .ok octets =>
      match Text.Utf8.decode? octets with
      | .ok text => some (String.ofList text)
      | .error _ => none
    | .error _ => none
  | _ => none

/-- A document as it is: as the editor has it open, or else as its file has it. -/
def snapshot (around : Surroundings) (s : Session) (uri : String) : Option Document :=
  match s.workspace with
  | none => none
  | some w =>
    match w.lookup (keyOf uri) with
    | some d => some { uri, version := d.version, text := d.text }
    | none => (fileContents? around uri).map fun text => { uri, version := none, text }

/-! ### Effects -/

/-- The effects of the schedule as those of the session. -/
def withSchedule (s : Session) (x : Schedule × List Schedule.Effect) : Session × List Effect :=
  ({ s with schedule := x.1 }, x.2.map .scheduled)

/-- Notes a message down. -/
def enqueue (s : Session) (p : Pending) : Session × List Effect :=
  ({ s with pending := s.pending ++ [p] }, [.queued])

/-- An entry of the log for settings that are refused. -/
def refusal (e : Settings.Error) : Effect :=
  .scheduled
    (.logged { level := .error, message := s!"Ignoring invalid configuration: {e.message}" })

/-! ### Messages -/

/-- The URI of the root of a workspace. -/
def rootOf (rootUri rootPath : Option String) : Except Uri.Error (Option String) :=
  match rootUri, rootPath with
  | some uri, _ => .ok (some uri)
  | none, some path => (Uri.ofPathText path).map some
  | none, none => .ok none

/-- The path of the root of a workspace, absent where its URI spells none. -/
def rootPathOf (root : Option String) : Except Uri.Error (Option Path) :=
  match root with
  | none => .ok none
  | some uri => Uri.toPath? uri

/-- The editor starts: the session begins anew, with the settings of the workspace. Settings that
are refused leave those in force as they are. -/
def start (around : Surroundings) (s : Session) (id : Value) (rootUri rootPath : Option String)
    (options : Value) : Session × List Effect :=
  match rootOf rootUri rootPath >>= rootPathOf with
  | .error _ => (s, [.replied id false])
  | .ok root =>
    let s := { s with workspace := some [], schedule := { s.schedule with workspace := root } }
    match Settings.load around.host root ((Settings.sectionOf options).getD []) s.base with
    | .ok settings =>
      ({ s with schedule := { s.schedule with settings } }, [.replied id true])
    | .error (.settings e) => (s, [refusal e, .replied id true])
    | .error _ => (s, [.replied id false])

/-- A document was opened. -/
def acceptOpened (s : Session) (uri : String) (version : Option Int) (text : String) :
    Session × List Effect :=
  match s.workspace, Uri.fileText? uri with
  | some w, .ok _ =>
    let s := { s with workspace := some (w.put uri { version, text }) }
    s.enqueue (.opened { uri, version, text })
  | _, _ => (s, [.complained])

/-- A document was changed. A document that is not open cannot be. -/
def acceptChanged (s : Session) (uri : String) (version : Option Int) (texts : List String) :
    Session × List Effect :=
  match s.workspace, texts.getLast? with
  | none, _ => (s, [.complained])
  | some _, none => s.enqueue (.changed uri)
  | some w, some text =>
    if (w.lookup (keyOf uri)).isSome then
      let w := w.map fun (k, d) => if k == keyOf uri then (k, ⟨version, text⟩) else (k, d)
      { s with workspace := some w }.enqueue (.changed uri)
    else (s, [.complained])

/-- A document was closed. -/
def acceptClosed (around : Surroundings) (s : Session) (uri : String) : Session × List Effect :=
  match s.workspace with
  | none => (s, [.complained])
  | some w =>
    let s := { s with workspace := some (w.filter (·.1 != keyOf uri)) }
    s.withSchedule (s.schedule.close around uri)

/-- A message arrives. -/
def receive (around : Surroundings) (s : Session) (m : Message) : Session × List Effect :=
  if s.stopping then (s, [])
  else
    match m with
    | .started id rootUri rootPath options => start around s id rootUri rootPath options
    | .opened uri version text => s.acceptOpened uri version text
    | .changed uri version texts => s.acceptChanged uri version texts
    | .saved uri => s.enqueue (.saved uri)
    | .closed uri => acceptClosed around s uri
    | .configured settings => s.enqueue (.configured settings)
    | .stopping id =>
      let (s, effects) := s.withSchedule s.schedule.shutdown
      ({ s with stopping := true }, effects ++ [.replied id true])
    | .unknownRequest id => (s, [.replied id false])
    | .unknownNotification => (s, [])

/-- Schedules validations of documents as they are, up to the first that is not to be had. -/
def validateAll (around : Surroundings) (s : Session) : List String → Session × List Effect
  | [] => (s, [])
  | uri :: rest =>
    match snapshot around s uri with
    | none => (s, [.failed])
    | some d =>
      let (s, first) := s.withSchedule (s.schedule.schedule d (some (.ofInt 0)))
      let (s, more) := validateAll around s rest
      (s, first ++ more)

/-- The editor has new settings: they are put on top of those in force, and all documents that are
followed are validated again. Settings that cannot be put there leave those in force as they are. -/
def configure (around : Surroundings) (s : Session) (settings : Value) : Session × List Effect :=
  match Settings.sectionOf settings with
  | none => (s, [])
  | some [] => (s, [])
  | some options =>
    match s.schedule.settings.merge options with
    | .error (.refused e) => (s, [refusal e])
    | .error (.broken _) => (s, [.failed])
    | .ok settings =>
      let s := { s with schedule := { s.schedule with settings } }
      validateAll around s s.schedule.trackedUris

/-- Schedules a validation of a document as it is. -/
def scheduleAs (around : Surroundings) (s : Session)
    (act : Schedule → Document → Schedule × List Schedule.Effect) (uri : String) :
    Session × List Effect :=
  match snapshot around s uri with
  | some d => s.withSchedule (act s.schedule d)
  | none => (s, [.failed])

/-- The message that has waited longest is handled. -/
def handle (around : Surroundings) (s : Session) : Session × List Effect :=
  match s.pending with
  | [] => (s, [])
  | p :: rest =>
    let s := { s with pending := rest }
    match p with
    | .opened d => s.withSchedule (s.schedule.opened d)
    | .changed uri => scheduleAs around s Schedule.changed uri
    | .saved uri => scheduleAs around s Schedule.saved uri
    | .configured settings => configure around s settings

end Session

end LintBridge
