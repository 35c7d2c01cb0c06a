import LintBridge.Shell.Process

/-!
# Programs of the system

The small programs that come with every system and that scripts are made of. Each is a function of
the files, the input and the arguments.

* `LintBridge.Shell.Tool.holds` – what `test` decides;
* `LintBridge.Shell.Tool.run?` – the run of a program by name.
-/

namespace LintBridge.Shell.Tool

/-! ### Paths -/

/-- The last segment of a path text. -/
def baseName (t : Octets) : Octets :=
  let trimmed := (t.reverse.dropWhile (· == '/')).reverse
  if trimmed.isEmpty && !t.isEmpty then ['/'] else (trimmed.reverse.takeWhile (· != '/')).reverse

/-- A text without the given end, unless nothing would be left of it. -/
def dropEnd (t ending : Octets) : Octets :=
  if t.length > ending.length && t.drop (t.length - ending.length) == ending then
    t.take (t.length - ending.length)
  else t

/-- A path text without its last segment. -/
def directoryName (t : Octets) : Octets :=
  let trimmed := (t.reverse.dropWhile (· == '/')).dropWhile (· != '/')
  let above := (trimmed.dropWhile (· == '/')).reverse
  if above.isEmpty then (if t.head? == some '/' then ['/'] else ['.']) else above

/-! ### Tests -/

/-- Whether something holds of what a path text leads to. -/
def holdsOf (h : Host) (t : Octets) (f : Host.Entry → Bool) : Bool :=
  match h.find (Octets.toString t) with
  | .ok (_, e) => f e
  | .error _ => false

/-- Whether a file has any octets. -/
def isNonempty : Host.Entry → Bool
  | .file octets _ => !octets.isEmpty
  | _ => true

/-- Whether a comparison of numbers holds, if there is such a comparison. -/
def compares? (mark : String) (a b : Int) : Option Bool :=
  match mark with
  | "-eq" => some (a == b)
  | "-ne" => some (a != b)
  | "-lt" => some (a < b)
  | "-le" => some (a ≤ b)
  | "-gt" => some (b < a)
  | "-ge" => some (b ≤ a)
  | _ => none

/-- Whether a test of one thing holds, if there is such a test. -/
def holdsUnary? (h : Host) (mark : String) (t : Octets) : Option Bool :=
  match mark with
  | "-n" => some !t.isEmpty
  | "-z" => some t.isEmpty
  | "-e" => some (holdsOf h t fun _ => true)
  | "-f" => some (holdsOf h t Host.Entry.isFile)
  | "-d" => some (holdsOf h t Host.Entry.isDirectory)
  | "-r" => some (holdsOf h t fun _ => true)
  | "-w" => some (holdsOf h t fun _ => true)
  | "-s" => some (holdsOf h t isNonempty)
  | "-x" => some (holdsOf h t fun e => e.isExecutable || e.isDirectory)
  | "-t" => some false
  | _ => none

/-- The integer that a text stands for, or what is wrong with it. -/
def integer (t : Octets) : Except String Int :=
  let body := Text.stripList isGap t
  let ds := if body.head? == some '-' || body.head? == some '+' then body.drop 1 else body
  if !ds.isEmpty && ds.all Char.isDigit then .ok (numberIn body)
  else .error s!"Illegal number: {Octets.toString t}"

/-- Whether a test of two things holds, or what is wrong with it. -/
def holdsBinary (a : Octets) (mark : String) (b : Octets) : Except String Bool :=
  match mark with
  | "=" => .ok (a == b)
  | "!=" => .ok (a != b)
  | mark =>
    if (compares? mark 0 0).isNone then .error s!"{mark}: unexpected operator"
    else do return (compares? mark (← integer a) (← integer b)).getD false

/-- Whether a test without connectives holds, or what is wrong with it. -/
def holdsPlain (h : Host) : List Octets → Except String Bool
  | [] => .ok false
  | [t] => .ok !t.isEmpty
  | ['!'] :: rest => (holdsPlain h rest).map (!·)
  | [mark, t] =>
    match holdsUnary? h (String.ofList mark) t with
    | some b => .ok b
    | none => .error s!"{Octets.toString mark}: unexpected operator"
  | [a, mark, b] => holdsBinary a (String.ofList mark) b
  | _ => .error "too many arguments"

/-- Whether a test holds, or what is wrong with it. -/
def holds (h : Host) (args : List Octets) : Except String Bool :=
  if args.length ≤ 3 then holdsPlain h args
  else
    (Text.splitOn "-o".toList args).anyM fun alternative =>
      (Text.splitOn "-a".toList alternative).allM (holdsPlain h)

/-- What `test` leaves behind under one of its names. -/
def tested (h : Host) (input : Octets) (name : String) (args : List Octets) : Finished :=
  match if name == "[" && args.getLast? != some [']'] then .error "missing ]"
      else holds h (if name == "[" then args.dropLast else args) with
  | .ok b => { unread := input, ending := .status (if b then 0 else 1) }
  | .error what => { err := s!"{name}: {what}\n".toList, unread := input, ending := .status 2 }

/-! ### Texts -/

/-- The complaint of a program about a file. -/
def complaintAbout (program : String) (name : Octets) (e : Host.Errno) : Octets :=
  s!"{program}: ".toList ++ name ++ s!": {e.words}\n".toList

/-- What a function makes of each of the files, or of the input if there are none. -/
def perFile (h : Host) (program : String) (input : Octets) (f : Octets → Octets) :
    List Octets → Finished
  | [] => { out := f input }
  | names =>
    names.foldl
      (fun x name =>
        match if name == ['-'] then .ok input else Process.contents h name with
        | .ok t => { x with out := x.out ++ f t }
        | .error e => { x with err := x.err ++ complaintAbout program name e, ending := .status 1 })
      { unread := input }

/-- The first lines of a text. -/
def firstLines : Nat → Octets → Octets
  | 0, _ => []
  | n + 1, t =>
    let line := t.takeWhile (· != '\n')
    if line.length < t.length then line ++ '\n' :: firstLines n (t.drop (line.length + 1)) else line

/-- The first lines or octets of files. -/
def head (h : Host) (input : Octets) : List Octets → Finished
  | ['-', 'c'] :: count :: names =>
    if names == ["/dev/zero".toList] then
      { out := List.replicate (numberIn count).toNat '\x00', unread := input }
    else perFile h "head" input (·.take (numberIn count).toNat) names
  | ['-', 'n'] :: count :: names => perFile h "head" input (firstLines (numberIn count).toNat) names
  | ('-' :: c :: count) :: names =>
    if c == 'c' then perFile h "head" input (·.take (numberIn count).toNat) names
    else
      let lines := (numberIn (if c == 'n' then count else c :: count)).toNat
      perFile h "head" input (firstLines lines) names
  | names => perFile h "head" input (firstLines 10) names

/-- The last lines of a text. -/
def lastLines (n : Nat) (t : Octets) : Octets :=
  let lines := t.count '\n' + (if t.getLast? == some '\n' || t.isEmpty then 0 else 1)
  t.drop (firstLines (lines - n) t).length

/-- The last lines or octets of files. -/
def tail (h : Host) (input : Octets) : List Octets → Finished
  | ['-', 'c'] :: count :: names =>
    perFile h "tail" input (fun t => t.drop (t.length - (numberIn count).toNat)) names
  | ['-', 'n'] :: count :: names => perFile h "tail" input (lastLines (numberIn count).toNat) names
  | names => perFile h "tail" input (lastLines 10) names

/-- The words of a text. -/
def wordCount (t : Octets) : Nat :=
  let marks := t.map fun c => c == ' ' || c == '\n' || c == '\t'
  ((true :: marks).zip marks).countP fun x => x.1 && !x.2

/-- How many lines, words or octets a text has. -/
def countIn (what : Octets) (t : Octets) : Nat :=
  match what with
  | ['-', 'l'] => t.count '\n'
  | ['-', 'w'] => wordCount t
  | _ => t.length

/-- How many lines, words or octets there are. -/
def count (h : Host) (input : Octets) : List Octets → Finished
  | [what] => { out := s!"{countIn what input}\n".toList }
  | [what, name] =>
    perFile h "wc" input (fun t => s!"{countIn what t} ".toList ++ name ++ ['\n']) [name]
  | _ => { ending := .status 1 }

/-- The numbers from a first to a last one, at a distance of each other. -/
def sequence (args : List Octets) : Octets :=
  let print := fun (first step last : Int) =>
    let n := if step == 0 then 0 else ((last - first) / step + 1).toNat
    (List.range n).flatMap fun (i : Nat) => (toString (first + step * i)).toList ++ ['\n']
  match args with
  | [last] => print 1 1 (numberIn last)
  | [first, last] => print (numberIn first) 1 (numberIn last)
  | [first, step, last] => print (numberIn first) (numberIn step) (numberIn last)
  | _ => []

/-- The characters of a set, with its ranges written out. -/
def members : Octets → Octets
  | a :: '-' :: b :: rest =>
    ((List.range (b.toNat + 1 - a.toNat)).map fun i => Char.ofNat (a.toNat + i)) ++ members rest
  | a :: rest => a :: members rest
  | [] => []

/-- A text with the characters of one set in the place of those of another, or without those of a
set. -/
def exchange (args : List Octets) (t : Octets) : Octets :=
  let set := fun (s : Octets) => members (escapes false s).1
  match args with
  | [['-', 'd'], unwanted] => t.filter fun c => !(set unwanted).contains c
  | [old, new] =>
    let new := set new
    let pairs := (set old).zip (new ++ List.replicate (set old).length (new.getLastD ' '))
    t.map fun c => (pairs.lookup c).getD c
  | _ => t

/-- The names in a directory that do not begin with a dot, in order. -/
def namesIn (h : Host) (place : List String) : List String :=
  let names := h.tree.entries.filterMap fun (p, _) =>
    if p.length == place.length + 1 && p.dropLast == place then p.getLast? else none
  (names.filter fun n => !n.startsWith ".").mergeSort (· ≤ ·)

/-- The names in a directory, or the name of a file. -/
def listing (h : Host) (args : List Octets) : Finished :=
  let name := (args.filter fun a => a.head? != some '-').headD ['.']
  match h.find (Octets.toString name) with
  | .ok (place, .directory) =>
    { out := Octets.ofString (String.join ((namesIn h place).map (· ++ "\n"))) }
  | .ok _ => { out := name ++ ['\n'] }
  | .error e =>
    { err := "ls: cannot access '".toList ++ name ++ s!"': {e.words}\n".toList
      ending := .status 2 }

/-- A time in seconds, with at most three decimals, in milliseconds. -/
def milliseconds (t : Octets) : Nat :=
  let whole := t.takeWhile Char.isDigit
  let decimals := ((t.drop (whole.length + 1)).takeWhile Char.isDigit).take 3
  1000 * Text.decimalValue whole +
    Text.decimalValue (decimals ++ List.replicate (3 - decimals.length) '0')

/-! ### Running -/

/-- What `printf` leaves behind. -/
def formatted (args : List Octets) : Finished :=
  let p := printf args
  { out := p.out, err := p.err, ending := .status p.status }

/-- The run of a program by name, if there is one that needs no shell. -/
def run? (h : Host) (input : Octets) (name : String) (args : List Octets) : Option Finished :=
  let printed := fun (t : Octets) => some { out := t, unread := input }
  let judged := fun (b : Bool) => some { unread := input, ending := .status (if b then 0 else 1) }
  match name with
  | "true" => judged true
  | ":" => judged true
  | "false" => judged false
  | "echo" => printed (echo args)
  | "printf" => some { formatted args with unread := input }
  | "pwd" => printed (Octets.ofString ("/" ++ "/".intercalate h.cwd) ++ ['\n'])
  | "basename" => printed (match args with
    | [path, ending] => dropEnd (baseName path) ending ++ ['\n']
    | args => baseName (args.headD []) ++ ['\n'])
  | "dirname" => printed (directoryName (args.headD []) ++ ['\n'])
  | "cat" => some (perFile h "cat" input id args)
  | "head" => some (head h input args)
  | "tail" => some (tail h input args)
  | "wc" => some (count h input args)
  | "tr" => some { out := exchange args input }
  | "seq" => printed (sequence args)
  | "ls" => some { listing h args with unread := input }
  | "sleep" => some { elapsed := args.foldl (fun n t => n + milliseconds t) 0, unread := input }
  | "test" => some (tested h input name args)
  | "[" => some (tested h input name args)
  | _ => none

/-- The programs that are found on the search path. -/
def names : List String :=
  ["true", "false", "echo", "printf", "pwd", "basename", "dirname", "cat", "head", "tail", "wc", "tr",
   "seq", "ls", "sleep", "test", "["]

/-- The programs that are part of the shell. -/
def builtins : List String := ["true", ":", "false", "echo", "printf", "pwd", "test", "["]

end LintBridge.Shell.Tool
