import LintBridge.Host.Tree

/-!
# What running a file comes to

How the files of a host are run is a matter of the system: a program may write what it wants, take
the time that it wants, and end as it wants. All that is known of a run is what it leaves behind.
**A system is therefore a function**, from the file that is run and its command line to what the run
leaves behind, or to a refusal.

* `LintBridge.Host.Run` – what a run leaves behind;
* `LintBridge.Host.Runner` – a system that runs files;
* `LintBridge.Host.runEntry` – a run of what stands at a place, which **must be executable**.
-/

namespace LintBridge.Host

/-- How a run ends. -/
inductive Exit where
  /-- With a status. -/
  | status (n : Nat)
  /-- By a signal. -/
  | signal (n : Nat)
  deriving DecidableEq, Repr

/-- What a run leaves behind. -/
structure Run where
  /-- What was written to standard output. -/
  out : List UInt8 := []
  /-- What was written to standard error. -/
  err : List UInt8 := []
  /-- How many milliseconds it took until nobody could write any more. -/
  elapsed : Nat := 0
  /-- How it ended. -/
  exit : Exit := .status 0
  deriving DecidableEq, Repr

/-- A system that runs files: it is given the host with the current directory of the run, the file,
the path text that led to it, and the command line. -/
abbrev Runner := (h : Host) → Entry → (path : String) → (command : List String) → Except Errno Run

/-- A run of what a path text has led to. What may not be run is refused. -/
def runEntry (system : Runner) (h : Host) (e : Entry) (path : String) (command : List String) :
    Except Errno Run :=
  if e.isExecutable then system h e path command else .error .denied

end LintBridge.Host
