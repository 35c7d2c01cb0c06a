import LintBridge.Checked.Scalar
import LintBridge.Diagnostic.Json
import LintBridge.Failure

/-!
# What a run of the linter leaves behind

* `LintBridge.ToolOutput` – what was run, what it wrote and how it ended;
* `LintBridge.ToolOutput.ending` – success, a **tolerated** status, which is how the linter says
  that it found problems, or fatal;
* `LintBridge.ToolOutput.usable` – the ending, or the failure of an output that must be discarded.
-/

namespace LintBridge

open Json (Value)

/-- What a run of the linter leaves behind. -/
structure ToolOutput where
  /-- The command line. -/
  command : List String := []
  /-- What was written to standard output. -/
  stdout : String := ""
  /-- What was written to standard error. -/
  stderr : String := ""
  /-- The status it ended with, absent if it was not started or not waited for. -/
  exitCode : Option Int := none
  /-- Why it could not be started. -/
  spawnError : Option String := none
  deriving DecidableEq, Repr

/-- How a run ended. -/
inductive Ending where
  /-- With status zero. -/
  | success
  /-- With a status that says that there are problems. -/
  | tolerated
  /-- In any other way. -/
  | fatal
  deriving DecidableEq, Repr

/-- The name of an ending. -/
def Ending.name : Ending → String
  | .success => "success"
  | .tolerated => "tolerated"
  | .fatal => "fatal"

namespace ToolOutput

/-- The statuses that say that there are problems. -/
def toleratedCodes : List Int := [1]

/-- How a run ended. -/
def ending (out : ToolOutput) : Ending :=
  match out.spawnError, out.exitCode with
  | none, some code =>
    if code == 0 then .success
    else if toleratedCodes.contains code then .tolerated
    else .fatal
  | _, _ => .fatal

/-- The ending of a run whose output can be used. -/
def usable (out : ToolOutput) : Except LinterFailure Ending :=
  match out.ending with
  | .fatal =>
    match out.spawnError with
    | some reason => .error (.notStarted out.command reason)
    | none => .error (.fatalExit out.command out.exitCode out.stderr)
  | ending => .ok ending

/-- An output read from a structured value. -/
def check (v : Value) : Checked ToolOutput :=
  (Checked.entries "RawToolOutput" v).andThen fun fields =>
    ToolOutput.mk <$> Checked.defaulted "command" [] (Checked.tupleOf Checked.string) fields
      <*> Checked.defaulted "stdout" "" Checked.string fields
      <*> Checked.defaulted "stderr" "" Checked.string fields
      <*> Checked.defaulted "exit_code" none (Checked.optional Checked.int) fields
      <*> Checked.defaulted "spawn_error" none (Checked.optional Checked.string) fields

/-- An output as JSON. -/
def toJson (out : ToolOutput) : Value :=
  .ofFields
    [("command", .array (out.command.map Value.ofString)),
     ("stdout", .ofString out.stdout),
     ("stderr", .ofString out.stderr),
     ("exit_code", match out.exitCode with
       | some code => .int code
       | none => .null),
     ("spawn_error", .ofOption (out.spawnError.map Json.CodePoints.ofString))]

end ToolOutput

end LintBridge
