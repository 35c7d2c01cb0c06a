import LintBridge.Host.Tree
import LintBridge.Json.Reader
import LintBridge.Text.Blank
import LintBridge.Uri.Split

/-!
# What can go wrong in a validation

A validation fails in one of two ways. The linter may not have done its work, which is expected now
and then and is reported in one sentence; or something nobody provides for has happened, which is
reported as such.

* `LintBridge.LinterFailure` – the linter could not be started, or ended with a status that is not
  tolerated;
* `LintBridge.Mishap` – everything else;
* `LintBridge.Failure` – either.
-/

namespace LintBridge

/-- The linter has not done its work. -/
inductive LinterFailure where
  /-- It could not be started. -/
  | notStarted (command : List String) (reason : String)
  /-- It ended with a status that is not tolerated, or with none. -/
  | fatalExit (command : List String) (status : Option Int) (stderr : String)
  deriving DecidableEq, Repr

/-- The program of a command. -/
def commandHead (command : List String) : String :=
  command.head?.getD "<empty>"

/-- The words for a failure of the linter. -/
def LinterFailure.message : LinterFailure → String
  | .notStarted command reason => s!"Unable to run '{commandHead command}': {reason}"
  | .fatalExit command status stderr =>
    let ending := match status with
      | none => "no exit status"
      | some n => s!"status {n}"
    let stderr := Text.strip stderr
    let shown := if stderr.isEmpty then "<none>" else stderr
    s!"Command '{commandHead command}' exited with {ending}. stderr: {shown}"

/-- What nobody provides for. -/
inductive Mishap where
  /-- An integer in the output of the linter has too many digits. -/
  | tooManyDigits (count : Nat)
  /-- A target or a path has no parts or no URI. -/
  | badTarget (error : Uri.Error)
  /-- A number does not fit into the protocol of the editor. -/
  | outOfRange (what : String) (low high value : Int)
  /-- The operating system refuses. -/
  | system (error : Host.Error)
  /-- The runner of the linter itself fails. -/
  | runner (reason : String)
  deriving DecidableEq, Repr

/-- The words for a mishap. -/
def Mishap.message : Mishap → String
  | .tooManyDigits count => Json.Error.message (.tooManyDigits count)
  | .badTarget e => e.message
  | .outOfRange what low high value =>
    s!"{what} should be in range [{low}:{high}], but was {value}."
  | .system e => e.message
  | .runner reason => reason

/-- Why a validation fails. -/
inductive Failure where
  /-- The linter has not done its work. -/
  | linter (failure : LinterFailure)
  /-- Something nobody provides for. -/
  | mishap (mishap : Mishap)
  deriving DecidableEq, Repr

end LintBridge
