import LintBridge.Host.Tree
import LintBridge.Json.Reader
import LintBridge.Settings
import LintBridge.Text.Lines
import LintBridge.Text.Utf8
import LintBridge.Toml.Reader

/-!
# The settings of a project

A project keeps its settings in a section of its project file. They are put on top of the settings
to start from, and what the editor asks for on top of them.

* `LintBridge.Settings.projectTable` – the section of the project file, empty where there is none;
* `LintBridge.Settings.load` – the settings of a workspace.
-/

namespace LintBridge.Settings

/-- The name of the project file. -/
def projectFile : String := "pyproject.toml"

/-- Why the settings of a workspace cannot be had. -/
inductive LoadError where
  /-- A layer is refused. -/
  | settings (error : Error)
  /-- The check of a layer has ended. -/
  | broken (fault : Json.Unencodable)
  /-- The project file is no UTF-8. -/
  | notUtf8 (fault : Text.Utf8.Fault)
  /-- The project file holds an integer with too many digits. -/
  | tooManyDigits (count : Nat)
  /-- The project file is nested too deeply. -/
  | tooDeep
  /-- The operating system refuses. -/
  | system (error : Host.Error)

/-- The words for a failure. -/
def LoadError.message : LoadError → String
  | .settings e => e.message
  | .broken fault => fault.message
  | .notUtf8 fault => fault.message
  | .tooManyDigits count => Json.Error.message (.tooManyDigits count)
  | .tooDeep => "maximum recursion depth exceeded"
  | .system e => e.message

/-- Why the settings of a workspace cannot be had if a layer cannot be put on top of others. -/
def LoadError.ofMerge : MergeError → LoadError
  | .refused e => .settings e
  | .broken fault => .broken fault

/-- The section that a project file holds. -/
def sectionTable (file : Path) (table : Toml.Table) : Except Error Toml.Table :=
  match table.lookup "tool" with
  | some (.table tool) =>
    match tool.lookup sectionName with
    | none => .ok []
    | some (.table found) => .ok found
    | some _ => .error (.notATable file)
  | _ => .ok []

/-- The section of the project file of a workspace. -/
def projectTable (host : Host) (root : Path) : Except LoadError Toml.Table := do
  let file := root.join projectFile
  if !(← (host.isFile file).mapError .system) then return []
  match host.read file with
  | .error _ => throw (.settings (.unreadable file))
  | .ok octets =>
    let text ← (Text.Utf8.decode? octets).mapError .notUtf8
    match Toml.read (Text.unifyNewlines text) with
    | .error .malformed => throw (.settings (.unreadable file))
    | .error (.tooManyDigits count) => throw (.tooManyDigits count)
    | .error .tooDeep => throw .tooDeep
    | .ok table => (sectionTable file table).mapError .settings

/-- The settings of a workspace: those to start from, then those of its project file, then those the
editor asks for. -/
def load (host : Host) (root : Option Path) (options : Response.Fields) (base : Settings := {}) :
    Except LoadError Settings := do
  let settings ← match root with
    | some root => do
      let table ← projectTable host root
      (base.merge (Toml.entriesToJson table)).mapError .ofMerge
    | none => pure base
  (settings.merge options).mapError .ofMerge

end LintBridge.Settings
