import LintBridge.Host.Run
import LintBridge.Linter.Pass
import LintBridge.Text.Utf8

/-!
# Running the linter

The linter is started in a directory and given some time. What prevents its start is part of what
the run leaves behind, as is a time that is up; then **nothing it has written counts**. What a
program does once it is started is up to the system.

* `LintBridge.Linter.spawn` – a run of a command line, or what prevents its start;
* `LintBridge.Linter.invoke` – the output of a run.
-/

namespace LintBridge.Linter

open Host (Run Runner)

/-- What prevents the start of a command. -/
inductive SpawnError where
  /-- Its program is not found. -/
  | command (error : CommandError)
  /-- A text in it cannot be encoded. -/
  | unencodable (fault : Json.Unencodable)
  /-- A NUL character stands in it, or in the name of the directory. -/
  | nulCharacter
  /-- The operating system refuses. -/
  | system (error : Host.Error)
  deriving DecidableEq, Repr

/-- The words for what prevents the start of a command. -/
def SpawnError.message : SpawnError → String
  | .command e => e.message
  | .unencodable fault => fault.message
  | .nulCharacter => "embedded null byte"
  | .system e => e.message

/-- The places in which a program is looked for at its start. -/
def places (h : Host) (program : String) : List String :=
  if program.contains '/' then [program]
  else h.searchDirectories.map fun dir => Host.below dir program

/-- Whether a refusal says only that there is no such file. -/
def isAbsence : Host.Errno → Bool
  | .noEntry => true
  | .notDirectory => true
  | _ => false

/-- Runs the first of several files that can be run. Of their refusals the first counts that does
not say only that there is no such file, or else the last. -/
def runFirst (system : Runner) (h : Host) (command : List String) (refusal : Host.Errno) :
    List String → Except Host.Errno Run
  | [] => .error refusal
  | place :: rest =>
    match h.find place >>= fun (_, entry) => Host.runEntry system h entry place command with
    | .ok run => .ok run
    | .error e => runFirst system h command (if isAbsence refusal then e else refusal) rest

/-- The place of the directory that a path text leads to, if a run can be started in it. -/
def enter (h : Host) (path : String) : Except Host.Errno (List String) :=
  match h.find path with
  | .ok (place, .directory) => .ok place
  | .ok (_, .closed reason) => .error reason
  | .ok _ => .error .notDirectory
  | .error errno => .error errno

/-- A run of a command line in a directory, or what prevents its start. -/
def spawn (system : Runner) (h : Host) (args : List String) (directory : Path) :
    Except SpawnError Run := do
  let command ← (resolve h args).mapError .command
  let dir := directory.toString
  if (dir :: command).any (·.contains '\x00') then throw .nulCharacter
  let place ← (enter h dir).mapError fun errno => .system ⟨errno, dir⟩
  match command with
  | [] => throw (.command .empty)
  | program :: _ =>
    let h := { h with cwd := place }
    (runFirst system h command .noEntry (places h program)).mapError
      fun errno => .system ⟨errno, program⟩

/-- Whether a run takes longer than it may. No run takes no time at all. -/
def isTimedOut (timeout : Option Binary64) (elapsed : Nat) : Bool :=
  match timeout.bind Binary64.thousandths? with
  | some ms => ms ≤ (max 1 elapsed : Nat)
  | none => false

/-- The status that a run ends with, negative for a signal. -/
def exitCodeOf : Host.Exit → Int
  | .status n => n
  | .signal n => -n

/-- The text that octets stand for, with `U+FFFD` for what is no character. -/
def decoded (octets : List UInt8) : String :=
  String.ofList (Text.Utf8.decodeReplacing octets)

/-- A command line whose texts can all be encoded. -/
def encoded : List Json.CodePoints → Except SpawnError (List String)
  | [] => .ok []
  | arg :: rest => do
    let arg ← arg.encode?.mapError .unencodable
    return arg :: (← encoded rest)

/-- The output of a run of a command line. -/
def invoke (system : Runner) (h : Host) (args : List Json.CodePoints) (directory : Path)
    (timeout : Option Binary64) : ToolOutput :=
  let started := do spawn system h (← encoded args) directory
  let args := args.map Json.CodePoints.toString
  match started with
  | .error e => { command := args, spawnError := some e.message }
  | .ok run =>
    if isTimedOut timeout run.elapsed then
      { command := args
        stderr := match timeout with
          | some t => s!"Command timed out after {t.oneDecimal}s"
          | none => "Command timed out" }
    else
      { command := args, stdout := decoded run.out, stderr := decoded run.err
        exitCode := some (exitCodeOf run.exit) }

end LintBridge.Linter
