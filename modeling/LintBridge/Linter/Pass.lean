import LintBridge.Linter.Command
import LintBridge.Linter.Directory
import LintBridge.Linter.Output
import LintBridge.Log
import LintBridge.Matching
import LintBridge.Response

/-!
# One pass of the linter

A pass over a document is a call of the linter and the reading of what it leaves behind: the output
is discarded if the linter failed, and otherwise read, searched for what belongs to the document,
and cut down to what the settings let through.

* `LintBridge.Linter.Call` – what the linter is asked to do; `LintBridge.Linter.callFor` – for a
  document;
* `LintBridge.Linter.limit` – the diagnostics that the settings let through;
* `LintBridge.Linter.findings` – the diagnostics of an output that belong to a document;
* `LintBridge.Linter.collect` – a whole pass, with the linter as a function.
-/

namespace LintBridge.Linter

/-- A call of the linter. -/
structure Call where
  /-- The command line. -/
  args : List Json.CodePoints
  /-- The directory to start in. -/
  directory : Path
  /-- How many seconds it may take. -/
  timeout : Option Binary64
  deriving DecidableEq, Repr

/-- The names among some texts that a file can have, which are those that can be encoded. -/
def fileNames (texts : List Json.CodePoints) : List String :=
  texts.filterMap fun t => t.encode?.toOption

/-- The call that lints a file. -/
def callFor (h : Host) (s : Settings) (workspace : Option Path) (file : Path) :
    Except Host.Error Call := do
  let directory ← workingDirectory h (fileNames s.projectMarkers) workspace file
  return { args := commandFor s file, directory, timeout := s.timeoutSeconds }

/-- The diagnostics that are urgent enough, as many of them as are wanted. -/
def limit (s : Settings) (records : List Record) : List Record :=
  let kept := records.filter fun r => r.severity.isAtLeast s.minimumSeverity
  match s.maxProblems with
  | some n => kept.take n
  | none => kept

/-- Reports what the linter wrote to standard error. -/
def reportStderr (s : Settings) (out : ToolOutput) : Traced Failure Unit :=
  let text := Text.strip out.stderr
  if text.isEmpty then pure ()
  else Traced.say .info s!"{s.executable.toString} stderr: {text}"

/-- The diagnostics of an output that belong to a document. -/
def findings (s : Settings) (uri : String) (file : Path) (out : ToolOutput) :
    Traced Failure (List Record) := do
  let _ ← Traced.of (out.usable.mapError .linter)
  reportStderr s out
  let ctx : Response.Context := { requestedUri := uri, source := s.source }
  let groups ← (Response.parse Response.Shape.all ctx out.stdout).mapError .mishap
  let records ← Traced.of
    ((Matching.select file.toString groups).mapError fun e => .mishap (.badTarget e))
  return limit s records

/-- A whole pass over a document. -/
def collect (h : Host) (run : Call → Except Mishap ToolOutput) (s : Settings)
    (workspace : Option Path)
    (uri : String) (file : Path) : Traced Failure (List Record) := do
  let call ← Traced.of ((callFor h s workspace file).mapError fun e => .mishap (.system e))
  let out ← Traced.of ((run call).mapError .mishap)
  findings s uri file out

end LintBridge.Linter
