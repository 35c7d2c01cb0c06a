import LintBridge.Shell.Arithmetic
import LintBridge.Shell.Pattern
import LintBridge.Shell.Reader
import LintBridge.Shell.Tool

/-!
# Running programs

A host runs shell scripts and a few programs that come with the system. **A run is a function of the
files, the current directory, the input and the command line**: it writes to two outputs, takes some
time, and ends with a status or by a signal.

* `LintBridge.Shell.Fields` – a word while it is expanded;
* `LintBridge.Shell.runFile` – the run of a file, or why the system refuses to run it;
* `LintBridge.Shell.runScript` – the run of a shell script.
-/

namespace LintBridge.Shell

open Host (Errno)

/-! ### Words -/

/-- The fields of a word while it is expanded: those that are complete, and the one that is open. -/
structure Fields where
  /-- The fields that are complete. -/
  complete : List Octets := []
  /-- The open field, if there is one. -/
  pending : Option Octets := none

namespace Fields

/-- Adds characters to the open field. -/
def extend (f : Fields) (t : Octets) : Fields :=
  { f with pending := some (f.pending.getD [] ++ t) }

/-- Closes the open field. -/
def close (f : Fields) : Fields :=
  { complete := f.complete ++ f.pending.toList }

/-- Adds a value that blanks divide into fields. -/
def divide (f : Fields) (t : Octets) : Fields :=
  t.foldl (fun f c => if isGap c || c == '\n' then f.close else f.extend [c]) f

/-- Adds a value, as a whole if it is quoted. -/
def put (f : Fields) (quoted : Bool) (t : Octets) : Fields :=
  if quoted then f.extend t else f.divide t

/-- Adds several values as fields of their own. -/
def several (f : Fields) : List Octets → Fields
  | [] => f
  | [t] => f.extend t
  | t :: rest => (f.extend t).close.several rest

end Fields

/-- A text without the line breaks at its end. -/
def dropNewlines (t : Octets) : Octets :=
  (t.reverse.dropWhile (· == '\n')).reverse

/-- The integer that the value of a name stands for. -/
def integerOf (p : Process) (name : Octets) : Int :=
  numberIn (p.value name)

/-- Whether a piece stands between quotation marks. -/
def Piece.isQuoted : Piece → Bool
  | .text _ quoted => quoted
  | .parameter _ quoted => quoted
  | .length _ quoted => quoted
  | .fallback _ _ _ _ quoted => quoted
  | .trimmed _ _ _ _ quoted => quoted
  | .sum _ quoted => quoted
  | .output _ quoted => quoted

/-! ### Signals -/

/-- The names of the signals. -/
def signals : List (String × Nat) :=
  [("EXIT", 0), ("HUP", 1), ("INT", 2), ("QUIT", 3), ("ILL", 4), ("TRAP", 5), ("ABRT", 6), ("BUS", 7),
   ("FPE", 8), ("KILL", 9), ("USR1", 10), ("SEGV", 11), ("USR2", 12), ("PIPE", 13), ("ALRM", 14),
   ("TERM", 15), ("CHLD", 17), ("CONT", 18), ("URG", 23), ("WINCH", 28)]

/-- The signals that end no process. -/
def harmless : List Nat := [0, 17, 18, 23, 28]

/-- The number of a signal by name or number. -/
def signalNumber? (t : Octets) : Option Nat :=
  let name := String.ofList t
  if !t.isEmpty && t.all Char.isDigit then some (Text.decimalValue t)
  else signals.lookup (if name.startsWith "SIG" then (name.drop 3).toString else name)

/-- The signal and the process that a request for a signal names. -/
def signalRequest : List Octets → Option (Nat × Octets)
  | [['-', 's'], name, target] => (signalNumber? name).map (·, target)
  | ['-' :: name, target] => (signalNumber? name).map (·, target)
  | [target] => some (15, target)
  | _ => none

/-- Sends a signal. -/
def sendSignal (p : Process) (line : Nat) (args : List Octets) : Process :=
  match args with
  | [['-', 'l'], n] =>
    match signals.find? fun s => some s.2 == signalNumber? n with
    | some s => (p.emit .standard (s.1.toList ++ ['\n'])).withStatus 0
    | none => p.complain line s!"kill: Illegal number: {Octets.toString n}" 2
  | args =>
    match signalRequest args with
    | some (n, target) =>
      if target != Process.number then p.complain line "kill: No such process\n" 1
      else if harmless.contains n || (p.ignored.contains n && n != 9) then p.withStatus 0
      else { p with ended := some (.signal n) }
    | none => p.complain line "kill: Illegal argument" 2

/-- Says what is done at a signal: nothing, or at the end a script. -/
def setTrap (p : Process) : List Octets → Process
  | script :: names =>
    let numbers := names.filterMap signalNumber?
    let p :=
      if numbers.contains 0 then { p with atExit := if script == ['-'] then [] else script } else p
    let others := p.ignored.filter fun n => !numbers.contains n
    { p with ignored := if script.isEmpty then others ++ numbers else others }.withStatus 0
  | [] => p.withStatus 0

/-! ### Commands of the shell itself -/

/-- Ends the shell with a status. -/
def exitWith (p : Process) (line : Nat) : List Octets → Process
  | [] => { p with ended := some (.status p.last) }
  | t :: _ =>
    if t.all Char.isDigit && !t.isEmpty then
      let status := Text.decimalValue t % 256
      { p with ended := some (.status status), last := status }
    else p.abort line s!"exit: Illegal number: {Octets.toString t}" 2

/-- Goes to another directory. -/
def changeDirectory (p : Process) (line : Nat) (args : List Octets) : Process :=
  let target := args.headD (p.value "HOME".toList)
  match p.host.find (Octets.toString target) with
  | .ok (place, .directory) => { p with host := { p.host with cwd := place } }.withStatus 0
  | _ => p.complain line s!"cd: can't cd to {Octets.toString target}" 2

/-- Drops the first arguments. -/
def shiftArgs (p : Process) (line : Nat) (args : List Octets) : Process :=
  let n := (args.head?.map Text.decimalValue).getD 1
  if p.args.length < n then p.abort line "shift: can't shift that many" 2
  else { p with args := p.args.drop n }.withStatus 0

/-- Sets a variable by a text with an equals sign in it, and tells the name. -/
def setByText (p : Process) (t : Octets) : Process × Octets :=
  let name := t.takeWhile (· != '=')
  match t.drop name.length with
  | _ :: value => (p.set name value, name)
  | [] => (p, name)

/-- Hands variables to the programs that are started. -/
def exportAll (p : Process) (args : List Octets) : Process :=
  (args.foldl
    (fun p t =>
      let (p, name) := setByText p t
      p.exportName name)
    p).withStatus 0

/-- The fields of a line, of which the last one takes all that is left. -/
def lineFields : Nat → Octets → List Octets
  | 0, _ => []
  | 1, t => [Text.stripList isGap t]
  | n + 1, t =>
    let t := t.dropWhile isGap
    let field := t.takeWhile fun c => !isGap c
    field :: lineFields n (t.drop field.length)

/-- Reads a line of input into variables. -/
def readVariables (p : Process) (args : List Octets) : Process :=
  let names := args.filter fun a => a.head? != some '-'
  let line := p.input.takeWhile (· != '\n')
  let rest := p.input.drop line.length
  let p := (names.zip (lineFields names.length line)).foldl (fun p (name, t) => p.set name t) p
  { p with input := rest.drop 1 }.withStatus (if rest.isEmpty then 1 else 0)

/-- What `set` says: how the shell behaves, or which arguments take the place of those there are. -/
def setArgs (p : Process) (args : List Octets) : Process :=
  match args with
  | ['-', '-'] :: rest => { p with args := rest }.withStatus 0
  | ('-' :: flags) :: _ => { p with strict := p.strict || flags.contains 'e' }.withStatus 0
  | ('+' :: flags) :: _ => { p with strict := p.strict && !flags.contains 'e' }.withStatus 0
  | [] => p.withStatus 0
  | args => { p with args }.withStatus 0

/-- Lets as many loops come to their end as are asked for and at work. -/
def jumpTo (p : Process) (make : Nat → Jump) (args : List Octets) : Process :=
  let levels := min p.loops ((args.head?.map Text.decimalValue).getD 1)
  { p with jump := if levels == 0 then none else some (make levels) }.withStatus 0

/-- The commands of the shell itself. -/
def builtins : List String :=
  ["exit", "kill", "trap", "shift", "cd", "export", "readonly", "local", "unset", "set", "read",
   "umask", "ulimit", "wait", "break", "continue", "return", "type", "exec", "eval", ".", "command"]

/-- Where a command is found: in the shell, or at a path. -/
def locate (p : Process) (name : Octets) : Option (Option String) :=
  let text := Octets.toString name
  if (p.functions.lookup name).isSome || (Tool.builtins ++ builtins).contains text then some none
  else (p.host.findProgram text).map some

/-- Prints where a command is found. -/
def printLocation (p : Process) (name : Octets) : Process :=
  match locate p name with
  | some none => (p.emit .standard (name ++ ['\n'])).withStatus 0
  | some (some path) => (p.emit .standard (Octets.ofString path ++ ['\n'])).withStatus 0
  | none => p.withStatus 127

/-- Says what a command is. -/
def printKind (p : Process) (name : Octets) : Process :=
  match locate p name with
  | some none => (p.emit .standard (name ++ " is a shell builtin\n".toList)).withStatus 0
  | some (some path) => (p.emit .standard (name ++ Octets.ofString s!" is {path}\n")).withStatus 0
  | none => (p.emit .standard (name ++ ": not found\n".toList)).withStatus 127

/-- Runs a command of the shell that needs no other run, if there is one of that name. -/
def runBuiltin? (p : Process) (line : Nat) (name : String) (args : List Octets) : Option Process :=
  match name with
  | "exit" => some (exitWith p line args)
  | "kill" => some (sendSignal p line args)
  | "trap" => some (setTrap p args)
  | "shift" => some (shiftArgs p line args)
  | "cd" => some (changeDirectory p line args)
  | "export" => some (exportAll p args)
  | "readonly" => some ((args.foldl (fun p t => (setByText p t).1) p).withStatus 0)
  | "local" => some ((args.foldl (fun p t => (setByText p t).1) p).withStatus 0)
  | "unset" => some ((args.foldl Process.unset p).withStatus 0)
  | "set" => some (setArgs p args)
  | "read" => some (readVariables p args)
  | "umask" => some (p.withStatus 0)
  | "ulimit" => some (p.withStatus 0)
  | "wait" => some ({ p with elapsed := max p.elapsed p.held }.withStatus 0)
  | "break" => some (jumpTo p .leave args)
  | "continue" => some (jumpTo p .again args)
  | "return" =>
    some { p with jump := some .back, last := (args.head?.map Text.decimalValue).getD p.last }
  | "type" => some (printKind p (args.headD []))
  | _ => none

/-- Whether a loop goes on after its body, and what is left of an interruption. -/
def afterBody (p : Process) : Process × Bool :=
  match p.jump with
  | none => (p, p.ended.isNone)
  | some (.leave n) => ({ p with jump := if n ≤ 1 then none else some (.leave (n - 1)) }, false)
  | some (.again n) =>
    if n ≤ 1 then ({ p with jump := none }, true)
    else ({ p with jump := some (.again (n - 1)) }, false)
  | some .back => (p, false)

/-- Takes over what a shell of its own has left behind. -/
def leaveSubshell (p inner : Process) : Process :=
  { p with
    out := inner.out, err := inner.err, host := p.filesOf inner, input := inner.input
    elapsed := inner.elapsed, held := inner.held
    last := (inner.ended.map Ending.toStatus).getD inner.last
    ended := match inner.ended with
      | some (.signal n) => some (.signal n)
      | _ => none }

/-- What the shell says of a program that a signal has ended. -/
def deathNotice : Ending → String
  | .signal 1 => "Hangup\n"
  | .signal 3 => "Quit\n"
  | .signal 4 => "Illegal instruction\n"
  | .signal 5 => "Trace/breakpoint trap\n"
  | .signal 6 => "Aborted\n"
  | .signal 7 => "Bus error\n"
  | .signal 8 => "Floating point exception\n"
  | .signal 9 => "Killed\n"
  | .signal 10 => "User defined signal 1\n"
  | .signal 11 => "Segmentation fault\n"
  | .signal 12 => "User defined signal 2\n"
  | .signal 14 => "Alarm clock\n"
  | .signal 15 => "Terminated\n"
  | _ => ""

/-- Ends a shell that does not go on after a failure. -/
def checked (p : Process) : Process :=
  if p.strict && !p.tested && p.last != 0 && !p.isInterrupted then
    { p with ended := some (.status p.last) }
  else p

/-! ### Programs -/

/-- The path and the argument of the interpreter that the first line of a script names. -/
def interpreter? (t : Octets) : Option (Octets × List Octets) :=
  match t with
  | '#' :: '!' :: rest =>
    let line := Text.stripList isGap (rest.takeWhile (· != '\n'))
    let path := line.takeWhile fun c => !isGap c
    let argument := Text.stripList isGap (line.drop path.length)
    some (path, if argument.isEmpty then [] else [argument])
  | _ => none

/-- The names under which the shell is known. -/
def shellNames : List String := ["sh", "dash", "bash"]

/-- The assignments at the front of a command, and the words after them. -/
def splitAssignments : List Word → List (Octets × Word) × List Word
  | [] => ([], [])
  | w :: rest =>
    match assignment? w with
    | some a =>
      let (more, words) := splitAssignments rest
      (a :: more, words)
    | none => ([], w :: rest)

/-- Whether a command only changes where the outputs of the shell lead. -/
def isBareExec : Command → Bool
  | .simple _ [[.text t false]] => t == "exec".toList
  | _ => false

mutual

/-- The run of a file at a path text under a name, or why the system refuses. -/
def runFile (depth : Nat) (s : Start) (called path : Octets) (args : List Octets) :
    Except Errno Finished :=
  match depth with
  | 0 => .ok .endless
  | depth + 1 =>
    match s.host.find (Octets.toString path) with
    | .error e => .error e
    | .ok (_, .program name) => .ok (runProgram depth s called name args)
    | .ok (_, .file octets true) =>
      match interpreter? (Octets.ofBytes octets) with
      | none => .error .badFormat
      | some (interpreter, argument) =>
        runFile depth s interpreter interpreter (argument ++ path :: args)
    | .ok _ => .error .denied

/-- The run of a program of the system under a name. -/
def runProgram (depth : Nat) (s : Start) (called : Octets) (name : String) (args : List Octets) :
    Finished :=
  match depth with
  | 0 => .endless
  | depth + 1 =>
    if shellNames.contains name then
      match args with
      | ['-', 'c'] :: script :: rest => runScript depth s (rest.headD called) rest.tail script
      | file :: rest =>
        match Process.contents s.host file with
        | .ok script => runScript depth s file rest script
        | .error e =>
          let complaint := ": 0: cannot open ".toList ++ file ++ s!": {Process.openError e}\n".toList
          { err := called ++ complaint, ending := .status 2 }
      | [] => runScript depth { s with input := [] } called [] s.input
    else if name == "env" then
      let settings := args.takeWhile (·.contains '=')
      let p := exportAll (Process.ofStart s "env".toList []) settings
      match args.drop settings.length with
      | [] =>
        { out := p.start.environment.flatMap fun (name, value) => name ++ '=' :: value ++ ['\n']
          unread := s.input }
      | command :: rest => runNamed depth p 0 "" command rest
    else (Tool.run? s.host s.input name args).getD { ending := .status 127 }

/-- The run of a program by name, as a command of a shell, which names its own part in a complaint.
-/
def runNamed (depth : Nat) (p : Process) (line : Nat) (caller : String) (name : Octets)
    (args : List Octets) : Finished :=
  match depth with
  | 0 => .endless
  | depth + 1 =>
    let text := Octets.toString name
    let refused := fun (what : String) (status : Nat) =>
      { err := p.program ++ Octets.ofString s!": {line}: {caller}{text}: {what}\n"
        unread := p.input, ending := .status status : Finished }
    match if text.contains '/' then some text else p.host.findProgram text with
    | none => refused "not found" 127
    | some path =>
      match runFile depth p.start name (Octets.ofString path) args with
      | .ok f => f
      | .error .badFormat =>
        match Process.contents p.host (Octets.ofString path) with
        | .ok script => runScript depth p.start (Octets.ofString path) args script
        | .error _ => refused "not found" 127
      | .error .denied => refused "Permission denied" 126
      | .error _ => refused "not found" 127

/-- The run of a shell script under a name. -/
def runScript (depth : Nat) (s : Start) (program : Octets) (args : List Octets) (script : Octets) :
    Finished :=
  match depth with
  | 0 => .endless
  | depth + 1 =>
    let p := runText depth (Process.ofStart s program args) script
    match p.atExit, p.ended with
    | [], _ => p.finished
    | _, some (.signal _) => p.finished
    | text, _ =>
      let status := p.finished.ending
      let q := runText depth { p with ended := none, jump := none, atExit := [] } text
      { q.finished with ending := q.ended.getD status }

/-- Runs the commands of a text, up to the first line that has a fault of form. -/
def runText (depth : Nat) (p : Process) (text : Octets) : Process :=
  match depth with
  | 0 => p.endless
  | depth + 1 =>
    let (script, fault) := readScript text
    let p := runList depth p script
    match fault with
    | some f => if p.isInterrupted then p else p.abort f.line f.what 2
    | none => p

/-- Runs commands one after the other, until they are interrupted. -/
def runList (depth : Nat) (p : Process) (commands : Script) : Process :=
  match depth with
  | 0 => p.endless
  | depth + 1 =>
    commands.foldl (fun p c => if p.isInterrupted then p else runCommand depth p c) p

/-- Runs commands that may fail, because what they come to is tested. -/
def runTested (depth : Nat) (p : Process) (commands : Script) : Process :=
  match depth with
  | 0 => p.endless
  | depth + 1 => { runList depth { p with tested := true } commands with tested := p.tested }

/-- The value that a part of a word adds to the fields. -/
def expandPiece (depth : Nat) (p : Process) (f : Fields) (piece : Piece) : Process × Fields :=
  match depth with
  | 0 => (p.endless, f)
  | depth + 1 =>
    match piece with
    | .text t quoted => (p, if quoted || !t.isEmpty then f.extend t else f)
    | .parameter ['@'] true => (p, f.several p.args)
    | .parameter name quoted => (p, f.put quoted (p.value name))
    | .length name quoted => (p, f.put quoted (toString (p.value name).length).toList)
    | .fallback name kind strict word quoted =>
      match kind, (p.value? name).filter fun t => !(strict && t.isEmpty) with
      | .instead, none => (p, if quoted then f.extend [] else f)
      | .instead, some _ => expandPieces depth p f word
      | _, some t => (p, f.put quoted t)
      | .given, none => expandPieces depth p f word
      | .kept, none =>
        let (p, t) := expandWhole depth p word
        (p.set name t, f.put quoted t)
      | .required, none =>
        let (p, t) := expandWhole depth p word
        let what := if t.isEmpty then "parameter not set" else Octets.toString t
        (p.abort 1 s!"{Octets.toString name}: {what}" 2, f)
    | .trimmed name side longest pattern quoted =>
      let (p, marked) := expandMarked depth p pattern
      (p, f.put quoted (Glob.trim side longest (Glob.ofText marked) (p.value name)))
    | .sum expression quoted =>
      let (p, t) := expandWhole depth p expression
      match evaluate (integerOf p) t with
      | .ok n => (p, f.put quoted (toString n).toList)
      | .error what => (p.abort 1 s!"arithmetic expression: {what}: \"{Octets.toString t}\"" 2, f)
    | .output script quoted =>
      let inner := runList depth { p with out := [], outSink := .out, last := 0 } script
      let p :=
        { leaveSubshell p inner with
          out := p.out, last := p.last, substituted := (leaveSubshell p inner).last }
      (p, f.put quoted (dropNewlines (Process.written inner.out)))

/-- The values that the parts of a word add to the fields. -/
def expandPieces (depth : Nat) (p : Process) (f : Fields) (w : Word) : Process × Fields :=
  match depth with
  | 0 => (p.endless, f)
  | depth + 1 => w.foldl (fun (p, f) piece => expandPiece depth p f piece) (p, f)

/-- The fields of words. -/
def expandWords (depth : Nat) (p : Process) (words : List Word) : Process × List Octets :=
  match depth with
  | 0 => (p.endless, [])
  | depth + 1 =>
    words.foldl
      (fun (p, fields) w =>
        let (p, f) := expandPieces depth p {} w
        (p, fields ++ f.close.complete))
      (p, [])

/-- A word as a single text. -/
def expandWhole (depth : Nat) (p : Process) (w : Word) : Process × Octets :=
  match depth with
  | 0 => (p.endless, [])
  | depth + 1 =>
    w.foldl
      (fun (p, t) piece =>
        let (p, marked) := expandMarked depth p [piece]
        (p, t ++ marked.map (·.1)))
      (p, [])

/-- A word as a single text, each character with a flag that is set if it is quoted. -/
def expandMarked (depth : Nat) (p : Process) (w : Word) : Process × List (Char × Bool) :=
  match depth with
  | 0 => (p.endless, [])
  | depth + 1 =>
    w.foldl
      (fun (p, t) piece =>
        match piece with
        | .text s quoted => (p, t ++ s.map (·, quoted))
        | .parameter name quoted => (p, t ++ (p.value name).map (·, quoted))
        | piece =>
          let (p, f) := expandPiece depth p {} piece
          (p, t ++ (joinWith ' ' f.close.complete).map (·, piece.isQuoted)))
      (p, [])

/-- Carries assignments out. -/
def assign (depth : Nat) (p : Process) (assignments : List (Octets × Word)) : Process :=
  match depth with
  | 0 => p.endless
  | depth + 1 =>
    assignments.foldl
      (fun p (name, value) =>
        let (p, t) := expandWhole depth p value
        p.set name t)
      p

/-- Carries redirections out, one after the other; tells what is wrong if one of them cannot be. -/
def redirect (depth : Nat) (p : Process) (rs : List Redirection) : Process × Option String :=
  match depth with
  | 0 => (p.endless, none)
  | depth + 1 =>
    rs.foldl
      (fun (p, problem) r =>
        if problem.isSome then (p, problem)
        else
          match r with
          | .same o other => (p.setSink o (p.sink other), none)
          | .document body =>
            let (p, t) := expandWhole depth p body
            ({ p with input := t }, none)
          | .source name =>
            let (p, t) := expandWhole depth p name
            match Process.contents p.host t with
            | .ok input => ({ p with input }, none)
            | .error e => (p, some s!"cannot open {Octets.toString t}: {Process.openError e}")
          | .target o appending name =>
            let (p, t) := expandWhole depth p name
            match p.openTarget o appending t with
            | .ok p => (p, none)
            | .error e => (p, some s!"cannot create {Octets.toString t}: {Process.createError e}"))
      (p, none)

/-- Runs the body of a loop; tells whether the loop goes on. -/
def runBody (depth : Nat) (p : Process) (body : Script) : Process × Bool :=
  match depth with
  | 0 => (p.endless, false)
  | depth + 1 =>
    let (q, goesOn) := afterBody (runList depth { p with loops := p.loops + 1 } body)
    ({ q with loops := p.loops }, goesOn)

/-- Runs a body again and again, as long as a condition has the wanted outcome. -/
def runLoop (depth : Nat) (p : Process) (wanted : Bool) (condition body : Script) : Process :=
  match depth with
  | 0 => p.endless
  | depth + 1 =>
    let status := p.last
    let p := runTested depth p condition
    if p.isInterrupted then (afterBody p).1
    else if (p.last == 0) != wanted then p.withStatus status
    else
      let (p, goesOn) := runBody depth p body
      if goesOn then runLoop depth p wanted condition body else p

/-- Runs a body for each of several values of a variable. -/
def runEach (depth : Nat) (p : Process) (name : Octets) (body : Script) (values : List Octets) :
    Process :=
  match depth, values with
  | 0, _ => p.endless
  | _, [] => p
  | depth + 1, t :: rest =>
    let (p, goesOn) := runBody depth (p.set name t) body
    if goesOn then runEach depth p name body rest else p

/-- Runs the first branch of which a pattern matches a text. -/
def runBranches (depth : Nat) (p : Process) (t : Octets) (branches : List Branch) : Process :=
  match depth, branches with
  | 0, _ => p.endless
  | _, [] => p.withStatus 0
  | depth + 1, .mk patterns body :: rest =>
    let (p, isMatch) := patterns.foldl
      (fun (p, found) pattern =>
        let (p, marked) := expandMarked depth p pattern
        (p, found || Glob.matchesText (Glob.ofText marked) t))
      (p, false)
    if isMatch then runList depth (p.withStatus 0) body else runBranches depth p t rest

/-- Runs a command. -/
def runCommand (depth : Nat) (p : Process) (command : Command) : Process :=
  match depth with
  | 0 => p.endless
  | depth + 1 =>
    match command with
    | .simple line words => checked (runSimple depth p line words)
    | .redirected line command rs =>
      match redirect depth p rs with
      | (q, some problem) => (q.restoreSinks p).complain line problem 2
      | (q, none) =>
        if isBareExec command then q.withStatus 0
        else
          let after := runCommand depth q command
          let hasInput := rs.any fun r =>
            match r with
            | .source _ => true
            | .document _ => true
            | _ => false
          { after.restoreSinks p with input := if hasInput then p.input else after.input }
    | .pipe first second =>
      let before := runCommand depth { p with out := [], outSink := .out } first
      let input := Process.written before.out
      let after :=
        runCommand depth { p with err := before.err, host := p.filesOf before, input } second
      checked
        { leaveSubshell p after with
          input := before.input, elapsed := max before.elapsed after.elapsed
          held := max before.held after.held }
    | .and first second =>
      let p := runTested depth p [first]
      if p.last == 0 && !p.isInterrupted then runCommand depth p second else p
    | .or first second =>
      let p := runTested depth p [first]
      if p.last == 0 || p.isInterrupted then p else runCommand depth p second
    | .not first =>
      let p := runTested depth p [first]
      if p.isInterrupted then p else p.withStatus (if p.last == 0 then 1 else 0)
    | .background command =>
      let inner := leaveSubshell p (runCommand depth { p with input := [] } command)
      { inner with
        input := p.input, elapsed := p.elapsed, held := max inner.elapsed inner.held, last := 0 }
    | .group body => runList depth p body
    | .subshell body => checked (leaveSubshell p (runList depth p body))
    | .choice condition body other =>
      let p := runTested depth p condition
      if p.isInterrupted then p
      else if p.last == 0 then runList depth p body
      else runList depth (p.withStatus 0) other
    | .loop wanted condition body => runLoop depth (p.withStatus 0) wanted condition body
    | .each name words body =>
      match words with
      | none => runEach depth (p.withStatus 0) name body p.args
      | some words =>
        let (p, values) := expandWords depth p words
        runEach depth (p.withStatus 0) name body values
    | .select word branches =>
      let (p, t) := expandWhole depth p word
      runBranches depth p t branches
    | .define name body =>
      { p with functions := (name, body) :: p.functions.filter (·.1 != name) }.withStatus 0

/-- Runs a simple command: a function, a command of the shell itself, or a program. -/
def runSimple (depth : Nat) (p : Process) (line : Nat) (words : List Word) : Process :=
  match depth with
  | 0 => p.endless
  | depth + 1 =>
    let (assignments, words) := splitAssignments words
    let (p, fields) := expandWords depth { p with substituted := 0 } words
    let assigned := assign depth p assignments
    if assigned.isInterrupted then assigned
    else
      match fields with
      | [] => assigned.withStatus assigned.substituted
      | name :: args =>
        let q := assignments.foldl (fun q a => q.exportName a.1) assigned
        let after := runWords depth q line name args
        if assignments.isEmpty then after
        else
          { after with
            bindings := p.bindings, exported := p.exported
            host := { after.host with searchPath := p.host.searchPath } }

/-- Runs a command by the fields of its words. -/
def runWords (depth : Nat) (p : Process) (line : Nat) (name : Octets) (args : List Octets) :
    Process :=
  match depth with
  | 0 => p.endless
  | depth + 1 =>
    let text := Octets.toString name
    match p.functions.lookup name with
    | some body =>
      let q := runCommand depth { p with args } body
      { q with args := p.args, jump := if q.jump == some .back then none else q.jump }
    | none =>
      match text, args with
      | "exec", [] => p.withStatus 0
      | "exec", command :: rest =>
        let f := runNamed depth p line "exec: " command rest
        { p.adopt f with ended := some f.ending, atExit := [] }
      | "eval", args => runText depth (p.withStatus 0) (joinWith ' ' args)
      | ".", file :: _ =>
        match Process.contents p.host file with
        | .ok script => runText depth (p.withStatus 0) script
        | .error e =>
          p.abort line s!".: cannot open {Octets.toString file}: {Process.openError e}" 2
      | "command", ['-', 'v'] :: rest => printLocation p (rest.headD [])
      | "command", command :: rest => runWords depth { p with functions := [] } line command rest
      | text, args =>
        match runBuiltin? p line text args with
        | some q => q
        | none =>
          let own :=
            if Tool.builtins.contains text then Tool.run? p.host p.input text args else none
          match own with
          | some f =>
            let complaints := (Text.splitOn '\n' f.err).filter (!·.isEmpty)
            let start := p.program ++ s!": {line}: ".toList
            p.adopt { f with err := complaints.flatMap fun t => start ++ t ++ ['\n'] }
          | none =>
            let f := runNamed depth p line "" name args
            (p.adopt f).emit .error (deathNotice f.ending).toList

end

end LintBridge.Shell
