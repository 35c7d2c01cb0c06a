import LintBridge.CommandLine
import LintBridge.Linter.Invocation
import LintBridge.Linter.Reach
import LintBridge.Loop
import LintBridge.Report.Layout
import LintBridge.Session.Wire
import LintBridge.Shell.System

/-!
# The program

Everything that touches the machine: looking at files, reading what an editor sends, and printing.
**What is done with it is decided elsewhere**: before a command is carried out, or a turn of a
session is taken, the places that it depends on are looked at, and the rest is computed from what
was found there.

* `LintBridge.Program.look` – the files at given places;
* `LintBridge.Program.lint` – carries out a command that is not for an editor;
* `LintBridge.Program.serve` – serves an editor on standard input and output.
-/

namespace LintBridge.Program

/-! ### Files -/

/-- Whether octets begin the way scripts do. -/
def isScript (octets : List UInt8) : Bool :=
  octets.take 2 == [0x23, 0x21]

/-- Why the system refuses, in the terms of a host. -/
def errnoOf : IO.Error → Host.Errno
  | .noFileOrDirectory .. => .noEntry
  | .permissionDenied .. => .denied
  | e => .other 5 (toString e)

/-- What stands at an absolute path; for a link, its end. -/
def entryAt? (path : String) : IO (Option Host.Entry) := do
  match ← (IO.FS.realPath path).toBaseIO with
  | .error e =>
    let errno := errnoOf e
    return if errno == .noEntry then none else some (.hidden errno)
  | .ok place =>
    let target := toString place
    if target != path then return some (.link target)
    if ← place.isDir then return some .directory
    match ← (IO.FS.readBinFile place).toBaseIO with
    | .ok octets => return some (.file octets.toList (isScript octets.toList))
    | .error e => return some (.sealed (errnoOf e) false)

/-- Looks at the segments from a place on, and at the end of the first link on the way. -/
partial def lookFrom (tree : Host.Tree) (place pending : List String) : IO Host.Tree := do
  match pending with
  | [] => return tree
  | seg :: rest =>
    let here := place ++ [seg]
    match tree.entry? here with
    | some .directory => lookFrom tree here rest
    | some _ => return tree
    | none =>
      match ← entryAt? ("/" ++ "/".intercalate here) with
      | none => return tree
      | some (.link target) =>
        let segments := (Path.ofString target).segments
        lookFrom (tree.add here (.link target)) [] (segments ++ rest)
      | some e => lookFrom (tree.add here e) here rest

/-- The files at given places, beside those of the system. -/
def look (h : Host) (places : List Path) : IO Host := do
  let mut tree := h.tree
  for p in places do
    let start := if p.isAbsolute then [] else h.cwd
    tree ← lookFrom tree [] (start ++ p.segments.filter (· != ".."))
  return { h with tree }

/-- A host of which only the system, the current directory and the search path are known. -/
def bareHost : IO Host := do
  let cwd := (Path.ofString (toString (← IO.currentDir))).segments
  let searchPath := (← IO.getEnv "PATH").getD ""
  look { tree := Shell.systemTree, cwd, searchPath } [⟨.root, cwd⟩]

/-! ### Linting -/

/-- Prints something. -/
def print (p : CommandLine.Printed) : IO Unit := do
  match p with
  | .usage none => IO.print (CommandLine.usageText none)
  | .usage e => IO.eprint (CommandLine.usageText e)
  | .table t => IO.print t.text
  | p =>
    IO.print (p.toStdout (Console.isColoured (← (← IO.getStdout).isTty) none))
    IO.eprint (p.toStderr (Console.isColoured (← (← IO.getStderr).isTty) none))

/-- The places that a command depends on before its settings are known. -/
def firstPlaces (args : List String) : List Path :=
  args.flatMap fun arg =>
    let arg := if arg.startsWith "-" then ((CommandLine.divide arg).2).getD "" else arg
    [Path.ofString arg, (Path.ofString arg).join Settings.projectFile]

/-- The host as far as a command depends on it. -/
def hostFor (args : List String) : IO Host := do
  let bare ← bareHost
  let h ← look bare (Path.ofString Settings.projectFile :: firstPlaces args)
  match CommandLine.read h args with
  | .ok (.lint o) =>
    match CommandLine.rootFor h o with
    | .error _ => return h
    | .ok root =>
      match Settings.load h (some root) (CommandLine.overrides o) with
      | .ok settings => look h (Linter.reach h settings (some root) o.file)
      | .error _ => return h
  | _ => return h

/-- The linter on a host. -/
def linterOn (h : Host) (c : Linter.Call) : Except Mishap ToolOutput :=
  .ok (Linter.invoke Shell.system h c.args c.directory c.timeout)

/-- Shows the entries of a log. -/
def showLog (threshold : Threshold) (entries : List LogEntry) : IO Unit :=
  (entries.filter fun e => threshold.shows e.level).forM fun e => IO.eprintln e.line

/-- Shows what comes of a command. -/
def conclude (x : CommandLine.Result) : IO UInt32 := do
  showLog x.threshold x.log
  x.printed.forM print
  if let some crash := x.crash then IO.eprintln crash.message
  return x.status.toUInt32

/-! ### Serving -/

/-- Reads the header of a message: the length of the body, if there is a message. -/
partial def readHeader (input : IO.FS.Stream) (length : Option Nat) : IO (Option Nat) := do
  let line ← input.getLine
  if line.isEmpty then return none
  if line == "\r\n" || line == "\n" then return length
  readHeader input ((Session.lengthIn? line).or length)

/-- Reads so many octets, or fewer where there are no more. -/
partial def readOctets (input : IO.FS.Stream) (seen : ByteArray) (count : Nat) : IO ByteArray := do
  if count ≤ seen.size then return seen
  let more ← input.read (count - seen.size).toUSize
  if more.isEmpty then return seen
  readOctets input (seen ++ more) count

/-- Reads a message, if there is one more. -/
def readMessage (input : IO.FS.Stream) : IO (Option Json.Value) := do
  let some length ← readHeader input none | return none
  return Session.bodyOf? (← readOctets input .empty length).toList

/-- The places that a session depends on: those of its documents, and of the one of a message. -/
def placesOf (h : Host) (s : Session) (m : Session.Message) : List Path :=
  let uris := s.schedule.trackedUris ++ m.uris
  let files := uris.filterMap fun uri => ((Uri.fileText? uri).toOption.join).map Path.ofString
  let roots :=
    (m.workspace?.toList ++ s.schedule.workspace.toList).map (·.join Settings.projectFile)
  roots ++ files.flatMap (Linter.reach h s.schedule.settings s.schedule.workspace)

/-- The world around a session on a host. -/
def worldOn (h : Host) : Loop.World :=
  { around := { host := h, deliver := fun p => p.notice.map fun _ => () }
    linter := fun _ c => { answer := linterOn h c } }

/-- Sends what a message has brought about, and forgets it. -/
def send (threshold : Threshold) (m : Session.Message) (l : Loop) : IO Loop := do
  let output ← IO.getStdout
  for v in l.effects.filterMap (Session.Effect.answer? m) do
    output.putStr (Session.framed v)
  output.flush
  showLog threshold (l.effects.filterMap Session.Effect.entry?)
  return l.clear

/-- Lets a session go on up to the present, after a message if there is one. -/
def proceed (threshold : Threshold) (bare : Host) (m : Session.Message) (l : Loop) : IO Loop := do
  let first ← look bare (placesOf bare l.session m)
  let l := l.receive (worldOn first) m
  let h ← look first (placesOf first l.session m)
  send threshold m (l.advanceTo (worldOn h) (← IO.monoMsNow))

/-- Serves an editor until it leaves; the task reads its next message. -/
partial def attend (threshold : Threshold) (bare : Host) (input : IO.FS.Stream) (l : Loop)
    (reading : Task (Except IO.Error (Option Json.Value))) : IO Unit := do
  if ← IO.hasFinished reading then
    match reading.get with
    | .ok (some v) =>
      if Session.isExit v then return
      let l ← proceed threshold bare (Session.Message.ofJson v) l
      attend threshold bare input l (← IO.asTask (readMessage input))
    | _ => return
  else
    IO.sleep 10
    let due := l.nextTime?.any (· ≤ (← IO.monoMsNow))
    let l ← if due then proceed threshold bare .unknownNotification l else pure l
    attend threshold bare input l reading

/-- Serves an editor on standard input and output. -/
def serve (threshold : Threshold) : IO Unit := do
  let input ← IO.getStdin
  let now ← IO.monoMsNow
  let loop : Loop := { session := .ofSettings {}, now }
  attend threshold (← bareHost) input loop (← IO.asTask (readMessage input))

end LintBridge.Program

open LintBridge in
/-- Carries out a command line and returns its exit status. -/
def main (args : List String) : IO UInt32 := do
  let h ← Program.hostFor args
  let x := CommandLine.run h (Program.linterOn h) args Report.Table.refusal?
  match x.endpoint with
  | none => Program.conclude x
  | some .stdio =>
    Program.serve x.threshold
    return 0
  | some (.tcp host port) =>
    IO.eprintln s!"cannot listen on {host}, port {port}"
    return 1
