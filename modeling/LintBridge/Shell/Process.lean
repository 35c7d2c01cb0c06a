import LintBridge.Host.Search
import LintBridge.Shell.Format

/-!
# A shell at work

What a shell knows while it runs a script: the files, its variables and functions, where its input
comes from and where its outputs lead, and what it has written so far.

* `LintBridge.Shell.Finished` – what a run leaves behind;
* `LintBridge.Shell.Process` – a shell in the middle of a script;
* `LintBridge.Shell.Process.emit` – **whatever is written goes where the output leads at that
  time**;
* `LintBridge.Shell.Process.value?` – the value of a parameter.
-/

namespace LintBridge.Shell

open Host (Entry Errno)

/-- How a process ends. -/
inductive Ending where
  /-- With a status. -/
  | status (n : Nat)
  /-- By a signal. -/
  | signal (n : Nat)
  deriving DecidableEq, Repr

/-- The status by which a shell knows an ending. -/
def Ending.toStatus : Ending → Nat
  | .status n => n
  | .signal n => 128 + n

/-- Names with their values. -/
abbrev Bindings := List (Octets × Octets)

/-- What a program starts with. -/
structure Start where
  /-- The files, the current directory and the search path. -/
  host : Host
  /-- Its input. -/
  input : Octets := []
  /-- The variables that are handed to it. -/
  environment : Bindings := []

/-- What a run leaves behind. -/
structure Finished where
  /-- What was written to standard output. -/
  out : Octets := []
  /-- What was written to standard error. -/
  err : Octets := []
  /-- The input that was not read. -/
  unread : Octets := []
  /-- How many milliseconds it took until nobody could write any more. -/
  elapsed : Nat := 0
  /-- How it ended. -/
  ending : Ending := .status 0

/-- A time that no run is waited for, in milliseconds. -/
def forever : Nat := 1000000000

/-- Where an output leads. -/
inductive Sink where
  /-- To standard output. -/
  | out
  /-- To standard error. -/
  | err
  /-- Nowhere. -/
  | nowhere
  /-- To the file at a place. -/
  | file (place : List String)
  deriving DecidableEq, Repr

/-- What interrupts the commands of a body. -/
inductive Jump where
  /-- So many loops come to their end. -/
  | leave (levels : Nat)
  /-- So many loops but one come to their end, and that one goes on. -/
  | again (levels : Nat)
  /-- The function comes to its end. -/
  | back
  deriving DecidableEq, Repr

/-- A shell in the middle of a script. -/
structure Process where
  /-- The files, the current directory and the search path. -/
  host : Host
  /-- The name of the script. -/
  program : Octets
  /-- Its arguments. -/
  args : List Octets := []
  /-- The variables. -/
  bindings : Bindings := []
  /-- The names of the variables that are handed to programs. -/
  exported : List Octets := []
  /-- What is run at the end. -/
  atExit : Octets := []
  /-- Whether a failure ends the shell. -/
  strict : Bool := false
  /-- Whether what commands come to is tested, so that they may fail. -/
  tested : Bool := false
  /-- The signals that have no effect. -/
  ignored : List Nat := []
  /-- The functions. -/
  functions : List (Octets × Command) := []
  /-- The input that has not been read. -/
  input : Octets := []
  /-- Where standard output leads. -/
  outSink : Sink := .out
  /-- Where standard error leads. -/
  errSink : Sink := .err
  /-- The status of the last command. -/
  last : Nat := 0
  /-- The status of the last script whose output was put into a word. -/
  substituted : Nat := 0
  /-- What has been written to standard output, the latest first. -/
  out : List Octets := []
  /-- What has been written to standard error, the latest first. -/
  err : List Octets := []
  /-- How many milliseconds have passed. -/
  elapsed : Nat := 0
  /-- The time at which the last command ends that nobody waits for. -/
  held : Nat := 0
  /-- How many loops are at work. -/
  loops : Nat := 0
  /-- What interrupts the commands at work, if anything does. -/
  jump : Option Jump := none
  /-- How the shell has ended, if it has. -/
  ended : Option Ending := none

/-- What a run leaves behind that does not come to an end. -/
def Finished.endless : Finished :=
  { elapsed := forever, ending := .signal 9 }

namespace Process

/-! ### Outputs -/

/-- Where an output leads. -/
def sink (p : Process) : Output → Sink
  | .standard => p.outSink
  | .error => p.errSink

/-- Lets an output lead elsewhere. -/
def setSink (p : Process) (o : Output) (s : Sink) : Process :=
  match o with
  | .standard => { p with outSink := s }
  | .error => { p with errSink := s }

/-- Adds octets to the file at a place. -/
def append (h : Host) (place : List String) (t : Octets) : Host :=
  match h.tree.entry? place with
  | some (.file octets executable) =>
    { h with tree := h.tree.add place (.file (octets ++ t.toBytes) executable) }
  | _ => h

/-- Writes to an output. -/
def emit (p : Process) (o : Output) (t : Octets) : Process :=
  match p.sink o with
  | .out => { p with out := t :: p.out }
  | .err => { p with err := t :: p.err }
  | .nowhere => p
  | .file place => if t.isEmpty then p else { p with host := append p.host place t }

/-- Ends a command with a status. -/
def withStatus (p : Process) (n : Nat) : Process :=
  { p with last := n }

/-- Ends a command with a complaint. -/
def complain (p : Process) (line : Nat) (what : String) (status : Nat) : Process :=
  (p.emit .error (p.program ++ Octets.ofString s!": {line}: {what}\n")).withStatus status

/-- Ends the shell with a complaint. -/
def abort (p : Process) (line : Nat) (what : String) (status : Nat) : Process :=
  { p.complain line what status with ended := some (.status status) }

/-- Whether commands are passed over. -/
def isInterrupted (p : Process) : Bool :=
  p.ended.isSome || p.jump.isSome

/-- What has been written, as one text. -/
def written (pieces : List Octets) : Octets :=
  pieces.reverse.flatten

/-- A shell that does not come to an end. -/
def endless (p : Process) : Process :=
  { p with elapsed := p.elapsed + forever, ended := some (.signal 9) }

/-- What the shell leaves behind. -/
def finished (p : Process) : Finished :=
  { out := written p.out, err := written p.err, unread := p.input, elapsed := max p.elapsed p.held
    ending := p.ended.getD (.status p.last) }

/-- Takes over what another run has left behind. -/
def adopt (p : Process) (f : Finished) : Process :=
  { (p.emit .standard f.out).emit .error f.err with
    input := f.unread, elapsed := p.elapsed + f.elapsed, last := f.ending.toStatus }

/-! ### Parameters -/

/-- The text of the current directory. -/
def directory (p : Process) : Octets :=
  Octets.ofString ("/" ++ "/".intercalate p.host.cwd)

/-- The number of every process. -/
def number : Octets := "4242".toList

/-- The value of a variable, if it has one. -/
def bound? (p : Process) (name : Octets) : Option Octets :=
  if name == "PWD".toList then some p.directory
  else if name == "PATH".toList then some (Octets.ofString p.host.searchPath)
  else p.bindings.lookup name

/-- The value of a parameter, if it has one. -/
def value? (p : Process) (name : Octets) : Option Octets :=
  match name with
  | ['@'] => if p.args.isEmpty then none else some (joinWith ' ' p.args)
  | ['*'] => if p.args.isEmpty then none else some (joinWith ' ' p.args)
  | ['#'] => some (toString p.args.length).toList
  | ['?'] => some (toString p.last).toList
  | ['$'] => some number
  | ['0'] => some p.program
  | ['-'] => some []
  | [c] => if c.isDigit then p.args[c.toNat - 49]? else p.bound? [c]
  | name => p.bound? name

/-- The value of a parameter; it is empty where there is none. -/
def value (p : Process) (name : Octets) : Octets :=
  (p.value? name).getD []

/-- Sets a variable. -/
def set (p : Process) (name value : Octets) : Process :=
  if name == "PATH".toList then
    { p with host := { p.host with searchPath := Octets.toString value } }
  else { p with bindings := (name, value) :: p.bindings.filter (·.1 != name) }

/-- Takes the value of a variable away. -/
def unset (p : Process) (name : Octets) : Process :=
  { p with
    bindings := p.bindings.filter (·.1 != name)
    exported := p.exported.filter (· != name)
    functions := p.functions.filter (·.1 != name) }

/-- Hands a variable to the programs that are started. -/
def exportName (p : Process) (name : Octets) : Process :=
  if p.exported.contains name then p else { p with exported := p.exported ++ [name] }

/-- What a program is started with. -/
def start (p : Process) : Start :=
  { host := p.host, input := p.input
    environment := p.exported.filterMap fun name => (p.bindings.lookup name).map (name, ·) }

/-- A shell that is about to run a script. -/
def ofStart (s : Start) (program : Octets) (args : List Octets) : Process :=
  { host := s.host, program, args, input := s.input, bindings := s.environment
    exported := s.environment.map (·.1) }

/-! ### Redirections -/

/-- The files as they are when a shell that works for another one has come to its end. -/
def filesOf (p inner : Process) : Host :=
  { p.host with tree := inner.host.tree }

/-- The words for a file that cannot be opened. -/
def openError (e : Errno) : String :=
  match e with
  | .noEntry => "No such file"
  | e => e.words

/-- The words for a file that cannot be created. -/
def createError (e : Errno) : String :=
  match e with
  | .noEntry => "Directory nonexistent"
  | e => e.words

/-- The octets of a file. -/
def contents (h : Host) (name : Octets) : Except Errno Octets :=
  match h.find (Octets.toString name) with
  | .ok (_, .file octets _) => .ok (Octets.ofBytes octets)
  | .ok (_, .directory) => .error .isDirectory
  | .ok _ => .ok []
  | .error e => .error e

/-- The place of a file that is to be written, and whether there is one already. -/
def placeOf (h : Host) (name : Octets) : Except Errno (List String × Bool) :=
  let path := Octets.toString name
  match h.find path with
  | .ok (_, .directory) => .error .isDirectory
  | .ok (place, _) => .ok (place, true)
  | .error .noEntry =>
    let p := Path.ofString path
    match h.find p.parent.toString with
    | .ok (place, .directory) =>
    if p.name.isEmpty then .error .noEntry else .ok (place ++ [p.name], false)
    | .ok _ => .error .notDirectory
    | .error e => .error e
  | .error e => .error e

/-- Lets an output lead to a file, which is empty at first unless it is written on. -/
def openTarget (p : Process) (o : Output) (appending : Bool) (name : Octets) :
    Except Errno Process :=
  match Octets.toString name with
  | "/dev/null" => .ok (p.setSink o .nowhere)
  | "/dev/stdout" => .ok (p.setSink o p.outSink)
  | "/dev/stderr" => .ok (p.setSink o p.errSink)
  | _ => do
    let (place, isThere) ← placeOf p.host name
    let tree := if isThere && appending then p.host.tree else p.host.tree.add place (.file [] false)
    return { p with host := { p.host with tree } }.setSink o (.file place)

/-- Lets everything lead where it led in another state. -/
def restoreSinks (p before : Process) : Process :=
  { p with outSink := before.outSink, errSink := before.errSink }

end Process

end LintBridge.Shell
