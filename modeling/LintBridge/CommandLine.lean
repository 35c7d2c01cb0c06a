import LintBridge.CommandLine.Options
import LintBridge.Console
import LintBridge.Linter.Pass
import LintBridge.Settings.Project

/-!
# The command line

The program has two commands: one serves an editor, the other lints a file and prints what an editor
would be told.

* `LintBridge.CommandLine.Command` – what is to be done; `LintBridge.CommandLine.read` – read from
  the arguments;
* `LintBridge.CommandLine.Result` – what is printed, and **the exit status**, which tells whether
  the linter could be run and whether there are errors;
* `LintBridge.CommandLine.run` – a command carried out.
-/

namespace LintBridge.CommandLine

open Json (CodePoints Value)

/-- Where the server listens. -/
inductive Endpoint where
  /-- On standard input and output. -/
  | stdio
  /-- On a network port. -/
  | tcp (host : String) (port : Int)
  deriving DecidableEq, Repr

/-- What is to be linted, and how. -/
structure LintOptions where
  /-- The file. -/
  file : Path
  /-- The root of the workspace. -/
  root : Option String := none
  /-- The program to run. -/
  executable : Option String := none
  /-- The least urgent severity shown, by label. -/
  severity : Option String := none
  /-- Whether JSON is printed. -/
  asJson : Bool := false
  /-- Whether messages have marks. -/
  marked : Bool := true
  /-- The least important log entries shown. -/
  threshold : Threshold := .warning
  deriving DecidableEq, Repr

/-- What is to be done. -/
inductive Command where
  /-- The usage is to be shown. -/
  | help
  /-- Nothing was said. -/
  | nothing
  /-- An editor is to be served. -/
  | serve (endpoint : Endpoint) (threshold : Threshold)
  /-- A file is to be linted. -/
  | lint (options : LintOptions)
  deriving DecidableEq, Repr

/-! ### Reading -/

/-- The option that asks for the usage. -/
def helpOption : OptionSpec :=
  { key := "help", names := ["--help"], flag := some true }

/-- The option for log entries. -/
def thresholdOption : OptionSpec :=
  { key := "log-level", names := ["--log-level"] }

/-- The options for linting. -/
def lintSpecs : List OptionSpec :=
  [{ key := "root", names := ["--root", "-r"] },
   { key := "executable", names := ["--executable", "-e"] },
   { key := "min-severity", names := ["--min-severity"] },
   { key := "json", names := ["--json"], flag := some true },
   { key := "emoji", names := ["--emoji"], flag := some true },
   { key := "emoji", names := ["--no-emoji"], flag := some false },
   thresholdOption, helpOption]

/-- The options for serving. -/
def serveSpecs : List OptionSpec :=
  [{ key := "tcp", names := ["--tcp"], flag := some true },
   { key := "host", names := ["--host"] },
   { key := "port", names := ["--port"] },
   thresholdOption, helpOption]

/-- The threshold that the options name. -/
def thresholdOf (a : Arguments) (default : Threshold) : Except UsageError Threshold :=
  match a.value? "log-level" with
  | none => .ok default
  | some text =>
    match Threshold.ofName? text with
    | some t => .ok t
    | none => .error (.badValue "--log-level")

/-- The file that an argument leads to, which has to be there and to be readable. -/
def existingFile (h : Host) (arg : String) : Except UsageError Path :=
  let path := h.realPath (Path.ofString arg)
  match h.find path.toString with
  | .ok (_, e) => if e.isDirectory || !e.isReadable then .error (.badValue "PATH") else .ok path
  | .error _ => .error (.badValue "PATH")

/-- The arguments for linting. -/
def readLint (h : Host) (args : List String) : Except UsageError Command := do
  let a ← readArguments lintSpecs true args
  if (a.flag? "help").isSome then return .help
  let threshold ← thresholdOf a .warning
  match a.positional with
  | [] => throw (.missingArgument "PATH")
  | [arg] =>
    let file ← existingFile h arg
    return .lint
      { file, root := a.value? "root", executable := a.value? "executable"
        severity := a.value? "min-severity", asJson := (a.flag? "json").getD false
        marked := (a.flag? "emoji").getD true, threshold }
  | _ :: extra :: _ => throw (.extraArgument extra)

/-- The arguments for serving. -/
def readServe (args : List String) : Except UsageError Command := do
  let a ← readArguments serveSpecs true args
  if (a.flag? "help").isSome then return .help
  let threshold ← thresholdOf a .info
  let port ← match a.value? "port" with
    | none => pure 2087
    | some text =>
      match Text.readInt? text with
      | some n => pure n
      | none => throw (.badValue "--port")
  match a.positional with
  | extra :: _ => throw (.extraArgument extra)
  | [] =>
    let endpoint := if (a.flag? "tcp").getD false then
        Endpoint.tcp ((a.value? "host").getD "127.0.0.1") port
      else .stdio
    return .serve endpoint threshold

/-- What is to be done, read from the arguments. -/
def read (h : Host) (args : List String) : Except UsageError Command := do
  if args.isEmpty then return .nothing
  let a ← readArguments [helpOption] false args
  if (a.flag? "help").isSome then return .help
  match a.positional with
  | [] => throw .missingCommand
  | "lint" :: rest => readLint h rest
  | "serve" :: rest => readServe rest
  | name :: _ => throw (.unknownCommand name)

/-! ### Running -/

/-- Something that is printed. -/
inductive Printed where
  /-- The usage, with what is wrong if anything is. -/
  | usage (error : Option UsageError)
  /-- A table. -/
  | table (table : Report.Table)
  /-- JSON text. -/
  | json (text : String)
  /-- A message. -/
  | message (kind : Console.Kind) (marked : Bool) (text : String)
  deriving DecidableEq, Repr

/-- What nobody provides for. -/
inductive Crash where
  /-- The links on the way to the root of the workspace lead in a circle. -/
  | circularRoot (path : Path)
  /-- The settings cannot be had. -/
  | load (error : Settings.LoadError)
  /-- The validation does not come to an end. -/
  | mishap (mishap : Mishap)
  /-- A line or a character has too many digits to be written in a table. -/
  | unwritable
  /-- The table cannot be drawn. -/
  | undrawn (reason : String)

/-- What comes of a command. -/
structure Result where
  /-- The exit status. -/
  status : Nat
  /-- What is printed, in order. -/
  printed : List Printed := []
  /-- The calls of the linter. -/
  calls : List Linter.Call := []
  /-- The entries of the log. -/
  log : List LogEntry := []
  /-- The least important of them that are shown. -/
  threshold : Threshold := .warning
  /-- Where a server is to be started. -/
  endpoint : Option Endpoint := none
  /-- What nobody provides for. -/
  crash : Option Crash := none

/-- The status that says that there are errors. -/
def errorsFound : Nat := 1

/-- The status that says that the linter could not be run. -/
def unavailable : Nat := 2

/-- What a setting is asked to be, if an option names anything. -/
def override (name : String) : Option String → Response.Fields
  | some v => if v.isEmpty then [] else [(CodePoints.ofString name, Value.ofString v)]
  | none => []

/-- The settings that the options ask for. -/
def overrides (o : LintOptions) : Response.Fields :=
  override "executable" o.executable ++ override "minimum_severity" o.severity

/-- The root of the workspace, which need not be there. -/
def rootFor (h : Host) (o : LintOptions) : Except Crash Path :=
  match o.root with
  | some root =>
    let path := h.realPath (Path.ofString root)
    match h.find path.toString with
    | .error .tooManyLinks => .error (.circularRoot path)
    | _ => .ok path
  | none => .ok ⟨.root, h.cwd⟩

/-- Whether one of the diagnostics is an error. -/
def hasErrors (records : List Record) : Bool :=
  records.any (·.severity == .error)

/-- Whether the place where a diagnostic starts can be written in a table. -/
def isWritable (r : Record) : Bool :=
  !isOversized (r.range.start.line + 1) && !isOversized (r.range.start.character + 1)

/-- The table of diagnostics, if there are any and it can be drawn. -/
def tableFor (draw : Report.Table → Option String) (file : Path) (records : List Record) :
    Except Crash (List Printed) :=
  if records.isEmpty then .ok []
  else if !records.all isWritable then .error .unwritable
  else
    let table := Report.table file.toString records
    match draw table with
    | none => .ok [.table table]
    | some reason => .error (.undrawn reason)

/-- What is printed for diagnostics. -/
def printedFor (draw : Report.Table → Option String) (o : LintOptions) (records : List Record) :
    Except Crash (List Printed) :=
  if o.asJson then .ok [.json (Report.json records)]
  else
    let kind : Console.Kind := if hasErrors records then .warn else .ok
    (tableFor draw o.file records).map fun table =>
      table ++ [.message kind o.marked s!"{o.file.name}: {Report.summary records}"]

/-- The end of a command that nobody provides for. -/
def crashed (crash : Crash) : Result :=
  { status := 1, crash := some crash }

/-- The end of a command that reports a failure. -/
def failing (o : LintOptions) (text : String) : Result :=
  { status := unavailable, printed := [.message .fail o.marked text] }

/-- The end of a command that diagnostics were found for. -/
def reporting (draw : Report.Table → Option String) (o : LintOptions) (records : List Record) :
    Result :=
  match printedFor draw o records with
  | .ok printed => { status := if hasErrors records then errorsFound else 0, printed }
  | .error crash => crashed crash

/-- Lints a file under given settings. -/
def lintWith (h : Host) (linter : Linter.Call → Except Mishap ToolOutput)
    (draw : Report.Table → Option String) (o : LintOptions) (root : Path) (settings : Settings) :
    Result :=
  match Uri.ofPathText o.file.toString with
  | .error e => crashed (.mishap (.badTarget e))
  | .ok uri =>
    let found := Linter.collect h linter settings (some root) uri o.file
    let ending : Result := match found.result with
      | .ok records => reporting draw o records
      | .error (.linter e) => failing o e.message
      | .error (.mishap m) => crashed (.mishap m)
    let calls := (Linter.callFor h settings (some root) o.file).toOption.toList
    { ending with calls, log := found.log }

/-- Lints a file. -/
def lint (h : Host) (linter : Linter.Call → Except Mishap ToolOutput)
    (draw : Report.Table → Option String) (o : LintOptions) : Result :=
  match rootFor h o with
  | .error crash => crashed crash
  | .ok root =>
    match Settings.load h (some root) (overrides o) with
    | .ok settings => lintWith h linter draw o root settings
    | .error (.settings e) => failing o e.message
    | .error e => crashed (.load e)

/-- Carries a command line out. The terminal may refuse to draw a table, and says why. -/
def run (h : Host) (linter : Linter.Call → Except Mishap ToolOutput) (args : List String)
    (draw : Report.Table → Option String := fun _ => none) : Result :=
  match read h args with
  | .error e => { status := 2, printed := [.usage (some e)] }
  | .ok .help => { status := 0, printed := [.usage none] }
  | .ok .nothing => { status := 2, printed := [.usage none] }
  | .ok (.serve endpoint threshold) => { status := 0, endpoint := some endpoint, threshold }
  | .ok (.lint o) => { lint h linter draw o with threshold := o.threshold }

/-! ### Texts -/

/-- How the program is used. -/
def usage : List String :=
  ["Usage: chalk-lsp COMMAND [OPTIONS]",
   "",
   "Language server publishing chalk lint diagnostics.",
   "",
   "Commands:",
   "  serve  Run the language server.",
   "    --tcp              Listen on TCP instead of stdio.",
   "    --host TEXT        Host to bind with --tcp.",
   "    --port INTEGER     Port to bind with --tcp.",
   "    --log-level TEXT   Logging level.",
   "  lint PATH  Lint PATH once and print the diagnostics an editor would receive.",
   "    -r, --root PATH         Workspace root holding pyproject.toml (default: cwd).",
   "    -e, --executable TEXT   Linter executable to run.",
   "    --min-severity TEXT     Hide less urgent diagnostics.",
   "    --json                  Print diagnostics as JSON.",
   "    --emoji / --no-emoji    Toggle emoji output.",
   "    --log-level TEXT        Logging level.",
   "",
   "Options:",
   "  --help  Show this message and exit."]

/-- How the program is used, after what is wrong if anything is. -/
def usageText (error : Option UsageError) : String :=
  let lines := match error with
    | none => usage
    | some e => usage ++ ["", s!"Error: {e.message}"]
  String.join (lines.map (· ++ "\n"))

/-- The words for what nobody provides for. -/
def Crash.message : Crash → String
  | .circularRoot path => s!"Symlink loop from {Text.quoted path.toString}"
  | .load e => e.message
  | .mishap m => m.message
  | .unwritable =>
    s!"Exceeds the limit ({Text.maxDigits} digits) for integer string conversion; " ++
      "use sys.set_int_max_str_digits() to increase the limit"
  | .undrawn reason => reason

/-- What something printed adds to standard output, tables apart. -/
def Printed.toStdout (inColour : Bool) : Printed → String
  | .json text => text ++ "\n"
  | .message kind marked text =>
    if kind.isError then "" else Console.render kind marked inColour text
  | _ => ""

/-- What something printed adds to standard error. -/
def Printed.toStderr (inColour : Bool) : Printed → String
  | .message kind marked text =>
    if kind.isError then Console.render kind marked inColour text else ""
  | _ => ""

end LintBridge.CommandLine
