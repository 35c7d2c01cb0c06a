import LintBridge.Failure
import LintBridge.Text.CaseMap

/-!
# The log

What the program tells whoever runs it, apart from its results. A computation that reports keeps its
entries beside its result, **also when it fails**.

* `LintBridge.LogEntry` – one entry;
* `LintBridge.Threshold` – the least important entries that are shown;
* `LintBridge.Traced` – a result with the entries made on the way to it.
-/

namespace LintBridge

/-- How important an entry is. -/
inductive LogLevel where
  /-- Something to know. -/
  | info
  /-- Something odd. -/
  | warning
  /-- Something failed. -/
  | error
  deriving DecidableEq, Repr

/-- The name of a level. -/
def LogLevel.name : LogLevel → String
  | .info => "INFO"
  | .warning => "WARNING"
  | .error => "ERROR"

/-- The least important entries that are shown. -/
inductive Threshold where
  /-- All entries. -/
  | debug
  /-- Things to know and all above. -/
  | info
  /-- Odd things and all above. -/
  | warning
  /-- Failures and all above. -/
  | error
  /-- The worst. -/
  | critical
  deriving DecidableEq, Repr

namespace Threshold

/-- All thresholds, lowest first. -/
def all : List Threshold := [.debug, .info, .warning, .error, .critical]

/-- The name of a threshold. -/
def name : Threshold → String
  | .debug => "DEBUG"
  | .info => "INFO"
  | .warning => "WARNING"
  | .error => "ERROR"
  | .critical => "CRITICAL"

/-- The threshold of a name, in any case. -/
def ofName? (text : String) : Option Threshold :=
  all.find? fun t => t.name == Text.upper text

/-- The words for a name that no threshold has. -/
def unknownName (text : String) : String :=
  s!"unknown log level '{text}'"

end Threshold

/-- Whether entries of a level are shown. -/
def Threshold.shows : Threshold → LogLevel → Bool
  | .debug, _ => true
  | .info, _ => true
  | .warning, level => level != .info
  | .error, level => level == .error
  | .critical, _ => false

/-- One entry of the log. -/
structure LogEntry where
  /-- How important it is. -/
  level : LogLevel
  /-- What it says. -/
  message : String
  /-- The mishap it reports. -/
  mishap : Option Mishap := none
  deriving DecidableEq, Repr

/-- The line of an entry. -/
def LogEntry.line (e : LogEntry) : String :=
  match e.mishap with
  | none => s!"{e.level.name}: {e.message}"
  | some m => s!"{e.level.name}: {e.message}: {m.message}"

/-- A result with the log entries made on the way to it. -/
structure Traced (ε α : Type) where
  /-- The result. -/
  result : Except ε α
  /-- The entries, oldest first. -/
  log : List LogEntry := []

namespace Traced

variable {ε α β : Type}

/-- Goes on with a result, after the entries made so far. -/
def bind (x : Traced ε α) (f : α → Traced ε β) : Traced ε β :=
  match x.result with
  | .ok a => ⟨(f a).result, x.log ++ (f a).log⟩
  | .error e => ⟨.error e, x.log⟩

instance : Monad (Traced ε) where
  pure a := ⟨.ok a, []⟩
  bind := bind

/-- A failure. -/
def fail (e : ε) : Traced ε α :=
  ⟨.error e, []⟩

/-- A result without entries. -/
def of (x : Except ε α) : Traced ε α :=
  ⟨x, []⟩

/-- The same, with another failure in the place of a failure. -/
def mapError {ε' : Type} (f : ε → ε') (x : Traced ε α) : Traced ε' α :=
  ⟨x.result.mapError f, x.log⟩

/-- One entry. -/
def say (level : LogLevel) (message : String) : Traced ε Unit :=
  ⟨.ok (), [{ level, message }]⟩

end Traced

end LintBridge
