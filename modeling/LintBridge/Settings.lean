import LintBridge.Checked.Scalar
import LintBridge.Diagnostic.Check
import LintBridge.Path
import LintBridge.Response.Field

/-!
# Settings

How the linter is called and what of its output is shown. Settings come in layers, and a layer on
top replaces fields of the one below; a key may be written with underscores, with hyphens or in
camel case.

* `LintBridge.Settings` – the settings, with their defaults; their texts are kept as the editor
  sends them, with surrogates if there are any;
* `LintBridge.Settings.check` – settings read from an object, each field checked; **a label that
  names no severity ends the check** if it cannot be repeated in an issue;
* `LintBridge.Settings.toFields` – settings as an object, which `check` reads back;
* `LintBridge.Settings.normalizeKey` – **all spellings of a key become one**;
* `LintBridge.Settings.merge` – a layer put on top; `LintBridge.Settings.assign` – one field
  replaced.
-/

namespace LintBridge

open Json (Value CodePoints)

/-- How the linter is called and what of its output is shown. -/
structure Settings where
  /-- The program to run. -/
  executable : CodePoints := .ofString "chalk"
  /-- Its arguments. -/
  lintArgs : List CodePoints := [.ofString "lint", .ofString "--format=lsp"]
  /-- Whether the linter is run on the whole project and not on one file. -/
  lintWholeProject : Bool := false
  /-- The files that mark the root of a project. -/
  projectMarkers : List CodePoints := [.ofString "chalk.yaml", .ofString "chalk.yml"]
  /-- How many seconds the linter may take, without limit where absent. -/
  timeoutSeconds : Option Binary64 := some (Binary64.ofInt 60)
  /-- How many seconds to wait for further changes. -/
  debounceSeconds : Binary64 := Binary64.ofDecimal false 3 (-1)
  /-- The tool named in diagnostics. -/
  source : CodePoints := .ofString "chalk"
  /-- The least urgent severity shown. -/
  minimumSeverity : Severity := .hint
  /-- How many diagnostics are shown, all of them where absent. -/
  maxProblems : Option Nat := none
  deriving DecidableEq, Repr

instance : Inhabited Settings := ⟨{}⟩

namespace Settings

/-! ### Fields -/

/-- The program to run, trimmed; it must not be empty. -/
def checkExecutable (v : Value) : Checked CodePoints :=
  (Checked.text v).andThen fun t =>
    if t.isAllBlank then .refuse (.rejected "executable must not be empty") else .valid t.strip

/-- A time limit, which is greater than zero. -/
def checkTimeout (v : Value) : Checked (Option Binary64) :=
  Checked.optional (fun v =>
    (Checked.float v).andThen fun x => if x.isPositive then .valid x else .refuse .notPositive) v

/-- A time to wait, which is not negative. -/
def checkDebounce (v : Value) : Checked Binary64 :=
  (Checked.float v).andThen fun x => if x.isNonnegative then .valid x else .refuse (.below 0)

/-- What is wrong with a label that names no severity: it is repeated in the words for that, unless
they cannot be encoded with it. -/
def checkUnknownLabel (t : CodePoints) : Checked Severity :=
  match (Severity.unknownLabel t).encode? with
  | .ok reason => .refuse (.rejected reason)
  | .error fault => .broken fault

/-- A severity, by label or by number. -/
def checkSeverity (v : Value) : Checked Severity :=
  match v with
  | .string t =>
    match Severity.ofLabel? t.toString with
    | some s => .valid s
    | none => checkUnknownLabel t
  | v => Severity.check v

/-- Settings read from an object. Fields that are absent have their defaults, and fields that
settings do not have are passed over. -/
def check (v : Value) : Checked Settings :=
  (Checked.entries "ServerConfig" v).andThen fun fields =>
    let base : Settings := {}
    Settings.mk <$> Checked.defaulted "executable" base.executable checkExecutable fields
      <*> Checked.defaulted "lint_args" base.lintArgs (Checked.listOf Checked.text) fields
      <*> Checked.defaulted "lint_whole_project" base.lintWholeProject Checked.bool fields
      <*> Checked.defaulted "project_markers" base.projectMarkers (Checked.listOf Checked.text)
        fields
      <*> Checked.defaulted "timeout_seconds" base.timeoutSeconds checkTimeout fields
      <*> Checked.defaulted "debounce_seconds" base.debounceSeconds checkDebounce fields
      <*> Checked.defaulted "source" base.source Checked.text fields
      <*> Checked.defaulted "minimum_severity" base.minimumSeverity checkSeverity fields
      <*> Checked.defaulted "max_problems" base.maxProblems (Checked.optional (Checked.atLeast 1))
        fields

/-- Settings as the fields of an object. -/
def toFields (s : Settings) : List (String × Value) :=
  [("executable", .string s.executable),
   ("lint_args", .array (s.lintArgs.map Value.string)),
   ("lint_whole_project", .bool s.lintWholeProject),
   ("project_markers", .array (s.projectMarkers.map Value.string)),
   ("timeout_seconds", match s.timeoutSeconds with
     | some x => .float x
     | none => .null),
   ("debounce_seconds", .float s.debounceSeconds),
   ("source", .string s.source),
   ("minimum_severity", .int s.minimumSeverity.number),
   ("max_problems", match s.maxProblems with
     | some n => .int n
     | none => .null)]

/-! ### Layers -/

/-- Puts an underscore before every capital letter but one at the front. -/
def separateCapitals : List Char → List Char
  | [] => []
  | c :: rest => c :: rest.flatMap fun c => if c.isUpper then ['_', c] else [c]

/-- The one spelling of a key: words in lower case with underscores between them. -/
def normalizeKey (key : String) : String :=
  let spaced := key.toList.map fun c => if c == '-' then '_' else c
  String.ofList (Text.lowerList (separateCapitals spaced))

/-- Why a layer of settings is refused. -/
inductive Error where
  /-- The settings would have issues. -/
  | invalid (issues : List Issue)
  /-- The file cannot be read. -/
  | unreadable (file : Path)
  /-- The file has something else where the settings are due. -/
  | notATable (file : Path)
  deriving DecidableEq, Repr

/-- The section of a project file that holds the settings. -/
def sectionName : String := "chalk-lsp"

/-- The words for a refusal. -/
def Error.message : Error → String
  | .invalid _ => s!"invalid {sectionName} settings"
  | .unreadable file => s!"unable to read {file}"
  | .notATable file => s!"[tool.{sectionName}] in {file} must be a table"

/-- Why a layer cannot be put on top of settings. -/
inductive MergeError where
  /-- The layer is refused. -/
  | refused (error : Error)
  /-- The check of the settings has ended. -/
  | broken (fault : Json.Unencodable)
  deriving DecidableEq, Repr

/-- What a failed check of settings comes to. -/
def MergeError.ofCheck : CheckError → MergeError
  | .issues issues => .refused (.invalid issues)
  | .broken fault => .broken fault

/-- Settings as an object, with a layer written over it. Of several entries for one field the last
counts. -/
def overlay (base : Settings) (layer : Response.Fields) : Response.Fields :=
  layer.foldl
    (fun fields (k, v) =>
      Json.insert fields (CodePoints.ofString (normalizeKey (CodePoints.toString k))) v)
    (base.toFields.map fun (k, v) => (CodePoints.ofString k, v))

/-- Puts a layer on top of settings. An empty layer changes nothing. -/
def merge (base : Settings) (layer : Response.Fields) : Except MergeError Settings :=
  if layer.isEmpty then .ok base
  else (check (.object (overlay base layer))).toExcept.mapError .ofCheck

/-- Replaces one field. -/
def assign (s : Settings) (field : String) (v : Value) : Checked Settings :=
  let checked : Checked Settings :=
    match field with
    | "executable" => (checkExecutable v).map fun x => { s with executable := x }
    | "lint_args" => (Checked.listOf Checked.text v).map fun x => { s with lintArgs := x }
    | "lint_whole_project" => (Checked.bool v).map fun x => { s with lintWholeProject := x }
    | "project_markers" =>
      (Checked.listOf Checked.text v).map fun x => { s with projectMarkers := x }
    | "timeout_seconds" => (checkTimeout v).map fun x => { s with timeoutSeconds := x }
    | "debounce_seconds" => (checkDebounce v).map fun x => { s with debounceSeconds := x }
    | "source" => (Checked.text v).map fun x => { s with source := x }
    | "minimum_severity" => (checkSeverity v).map fun x => { s with minimumSeverity := x }
    | "max_problems" =>
      (Checked.optional (Checked.atLeast 1) v).map fun x => { s with maxProblems := x }
    | name => .refuse (.noSuchField name)
  checked.under (.field field)

/-- The names under which an editor sends the settings. -/
def sectionKeys : List String :=
  ["chalk-lsp", "chalkLsp", "chalk"]

/-- The settings in what an editor sends: those under one of the names, or all of it. -/
def sectionOf : Value → Option Response.Fields
  | .object fields =>
    some ((sectionKeys.findSome? fun k => (Json.get? fields k).bind Response.fields?).getD fields)
  | _ => none

end Settings

end LintBridge
