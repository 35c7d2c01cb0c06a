import LintBridge.Shell.Script

/-!
# Except Fault (shell × Octets) scripts

A shell reads a line, with all that belongs to the commands on it, and runs it before it reads on.
So a script comes as commands **up to the first line that has a fault of form**.

Every reader takes a bound on its depth, for which a multiple of the length of the script suffices,
and the number of line breaks in the script, from which it computes the line that it has come to.

* `LintBridge.Shell.Fault` – a fault of form;
* `LintBridge.Shell.readScript` – the commands of a script, and the fault that they end at if any.
-/

namespace LintBridge.Shell

/-- A fault of form. -/
structure Fault where
  /-- What is wrong. -/
  what : String
  /-- The line. -/
  line : Nat
  deriving DecidableEq, Repr

/-! ### Characters -/

/-- A character that ends a word. -/
def endsWord (c : Char) : Bool :=
  isGap c || [ '\n', ';', '&', '|', '<', '>', '(', ')'].contains c

/-- The first character of a name. -/
def startsName (c : Char) : Bool :=
  c.isAlpha || c == '_'

/-- A character of a name that is not its first. -/
def isNameChar (c : Char) : Bool :=
  c.isAlphanum || c == '_'

/-- The name of a parameter after a dollar sign, and what follows. -/
def parameterName : Octets → Option (Octets × Octets)
  | [] => none
  | c :: rest =>
    if startsName c then some (c :: rest.takeWhile isNameChar, rest.dropWhile isNameChar)
    else if c.isDigit || "@*#?$!-".toList.contains c then some ([c], rest)
    else none

/-- The line of a place, from the number of line breaks in the script and the rest at that place. -/
def lineAt (total : Nat) (rest : Octets) : Nat :=
  total - rest.count '\n' + 1

/-- Skips blanks, hidden line breaks and a comment. -/
def skipGaps : Octets → Octets
  | [] => []
  | '\\' :: '\n' :: rest => skipGaps rest
  | '#' :: rest => rest.dropWhile (· != '\n')
  | c :: rest => if isGap c then skipGaps rest else c :: rest

/-- Skips blanks, comments and line breaks. -/
def skipLines (fuel : Nat) (t : Octets) : Octets :=
  match fuel, skipGaps t with
  | fuel + 1, '\n' :: rest => skipLines fuel rest
  | _, t => t

/-! ### Faults -/

/-- The word at the front of a text, taken as it is. -/
def plainWord (t : Octets) : String :=
  String.ofList (t.takeWhile fun c => !endsWord c)

/-- The words that end a part of a compound command. -/
def closers : List String := ["then", "elif", "else", "fi", "do", "done", "esac", "\x7d"]

/-- The words that begin a compound command. -/
def openers : List String := ["if", "while", "until", "for", "case", "\x7b", "!"]

/-- How the next symbol is called in a fault. -/
def symbolAt (t : Octets) : String :=
  match t with
  | [] => "end of file"
  | '\n' :: _ => "newline"
  | ';' :: ';' :: _ => "\";;\""
  | '&' :: '&' :: _ => "\"&&\""
  | '|' :: '|' :: _ => "\"||\""
  | c :: _ =>
    if endsWord c then s!"\"{c}\""
    else if (closers ++ openers).contains (plainWord t) then s!"\"{plainWord t}\""
    else "word"

/-- The fault of a symbol that may not stand where it stands. -/
def unexpected {α : Type} (total : Nat) (t : Octets) (due : Option String := none) : Except Fault
    (α × Octets) :=
  let due := match due with
    | some d => s!" (expecting \"{d}\")"
    | none => ""
  .error ⟨s!"Syntax error: {symbolAt t} unexpected{due}", lineAt total t⟩

/-- The fault of quotation marks that are not closed. -/
def unterminated {α : Type} (total : Nat) (t : Octets) : Except Fault (α × Octets) :=
  .error ⟨"Syntax error: Unterminated quoted string", lineAt total t⟩

/-- Passes a given word, which has to stand here. -/
def expectWord (total : Nat) (w : String) (t : Octets) : Except Fault (Unit × Octets) :=
  let t := skipGaps t
  if plainWord t == w then .ok ((), t.drop w.length) else unexpected total t (some w)

/-- Passes a given character, which has to stand here. -/
def expectChar (total : Nat) (c : Char) (t : Octets) : Except Fault (Unit × Octets) :=
  match skipGaps t with
  | d :: rest => if c == d then .ok ((), rest) else unexpected total (d :: rest) (some c.toString)
  | [] => unexpected total [] (some c.toString)

/-! ### Parts of words -/

/-- Where the parts of a word stand. -/
inductive Context where
  /-- In a command. -/
  | word
  /-- Between double quotation marks. -/
  | double
  /-- In the braces of a parameter, possibly between quotation marks. -/
  | braces (quoted : Bool)
  /-- In a text that is given as input. -/
  | document
  deriving DecidableEq, Repr

/-- Whether characters are quoted in a context. -/
def Context.isQuoted : Context → Bool
  | .word => false
  | .double => true
  | .braces quoted => quoted
  | .document => true

/-- Whether a character ends a context. -/
def Context.endsAt : Context → Char → Bool
  | .word, c => endsWord c
  | .double, c => c == '"'
  | .braces _, c => c == '\x7d'
  | .document, _ => false

/-- Whether a backslash takes the meaning of a character away in a quoted context. -/
def Context.escapes (ctx : Context) (c : Char) : Bool :=
  c == '\\' || c == '$' || c == '\x60' || (ctx != .document && c == '"') || ctx.endsAt c

/-- The characters up to a single quotation mark. -/
def readQuoted (total : Nat) : Octets → Except Fault (Octets × Octets)
  | [] => unterminated total []
  | '\'' :: rest => .ok ([], rest)
  | c :: rest => (readQuoted total rest).map fun (t, rest) => (c :: t, rest)

/-- The characters of an arithmetic expression up to the two parentheses that close it. -/
def readExpression (total : Nat) (level : Nat) : Octets → Except Fault (Octets × Octets)
  | [] => .error ⟨"Syntax error: Missing '))'", lineAt total []⟩
  | ')' :: rest =>
    match level, rest with
    | 0, ')' :: rest => .ok ([], rest)
    | level, rest => (readExpression total (level - 1) rest).map fun (t, rest) => (')' :: t, rest)
  | '(' :: rest => (readExpression total (level + 1) rest).map fun (t, rest) => ('(' :: t, rest)
  | c :: rest => (readExpression total level rest).map fun (t, rest) => (c :: t, rest)

/-- Puts a character that stands for itself before the pieces of a word. -/
def consChar (c : Char) (quoted : Bool) : Word → Word
  | .text t q :: rest =>
    if q == quoted then .text (c :: t) q :: rest else .text [c] quoted :: .text t q :: rest
  | rest => .text [c] quoted :: rest

/-- The fallback that a character asks for. -/
def fallbackOf? (c : Char) : Option Fallback :=
  match c with
  | '-' => some .given
  | '=' => some .kept
  | '+' => some .instead
  | '?' => some .required
  | _ => none

/-- What is done to a parameter in braces: what makes a piece from the word that follows, and the
rest. -/
def operation? (name : Octets) (quoted : Bool) : Octets → Option ((Word → Piece) × Octets)
  | '%' :: '%' :: rest => some (fun w => .trimmed name .back true w quoted, rest)
  | '%' :: rest => some (fun w => .trimmed name .back false w quoted, rest)
  | '#' :: '#' :: rest => some (fun w => .trimmed name .front true w quoted, rest)
  | '#' :: rest => some (fun w => .trimmed name .front false w quoted, rest)
  | ':' :: c :: rest => (fallbackOf? c).map fun k => (fun w => .fallback name k true w quoted, rest)
  | c :: rest => (fallbackOf? c).map fun k => (fun w => .fallback name k false w quoted, rest)
  | [] => none

/-! ### Redirections -/

/-- The start of a redirection. -/
inductive Arrow where
  /-- Input from a file. -/
  | source
  /-- Input from the lines that follow, perhaps without the tabs before them. -/
  | document (trimmed : Bool)
  /-- Output to a file or to where another output leads. -/
  | target (output : Output) (appending : Bool)
  deriving DecidableEq, Repr

/-- The output of a file descriptor. -/
def outputOf (c : Char) : Option Output :=
  if c == '1' then some .standard else if c == '2' then some .error else none

/-- The start of a redirection of an output, and the rest. -/
def outward (output : Output) : Octets → Option (Arrow × Octets)
  | '>' :: '>' :: rest => some (.target output true, rest)
  | '>' :: '|' :: rest => some (.target output false, rest)
  | '>' :: rest => some (.target output false, rest)
  | _ => none

/-- The start of a redirection of input, and the rest. -/
def inward : Octets → Option (Arrow × Octets)
  | '<' :: '<' :: '-' :: rest => some (.document true, rest)
  | '<' :: '<' :: rest => some (.document false, rest)
  | '<' :: rest => some (.source, rest)
  | _ => none

/-- The start of a redirection, and the rest. -/
def arrow? : Octets → Option (Arrow × Octets)
  | '0' :: rest => inward rest
  | '1' :: rest => outward .standard rest
  | '2' :: rest => outward .error rest
  | t => (inward t).or (outward .standard t)

/-- The first line of a text, and the rest after the line break. -/
def firstLine (t : Octets) : Octets × Octets :=
  let line := t.takeWhile (· != '\n')
  (line, t.drop (line.length + 1))

/-- The lines up to one that is the given mark, and the rest after it. -/
def linesUpTo (fuel : Nat) (trimmed : Bool) (mark t : Octets) : Octets × Octets :=
  match fuel with
  | 0 => ([], t)
  | fuel + 1 =>
    if t.isEmpty then ([], [])
    else
      let (line, rest) := firstLine t
      let line := if trimmed then line.dropWhile (· == '\t') else line
      if line == mark then ([], rest)
      else if !t.contains '\n' then (line, [])
      else
        let (body, rest) := linesUpTo fuel trimmed mark rest
        (line ++ '\n' :: body, rest)

/-- The characters of a word, whether they are quoted or not, and whether some are. -/
def plainText (w : Word) : Octets × Bool :=
  w.foldl
    (fun (t, quoted) piece =>
      match piece with
      | .text s q => (t ++ s, quoted || q)
      | _ => (t, quoted))
    ([], false)

/-! ### Commands -/

/-- Whether a word is an assignment: its name, and its value. -/
def assignment? : Word → Option (Octets × Word)
  | .text t false :: rest =>
    let name := t.takeWhile isNameChar
    match name, t.dropWhile isNameChar with
    | c :: _, '=' :: value =>
      if c.isDigit then none
      else some (name, if value.isEmpty then rest else .text value false :: rest)
    | _, _ => none
  | _ => none

/-- Whether a part of a compound command ends here. -/
def isClosed (t : Octets) : Bool :=
  match t with
  | [] => true
  | ')' :: _ => true
  | ';' :: ';' :: _ => true
  | t => closers.contains (plainWord t)

/-- The name of a function whose definition starts here, and the rest after the parentheses. -/
def definition? (t : Octets) : Option (Octets × Octets) :=
  match parameterName t with
  | some (name, rest) =>
    match skipGaps rest with
    | '(' :: rest =>
      match skipGaps rest with
      | ')' :: rest => some (name, rest)
      | _ => none
    | _ => none
  | none => none

/-- A command with redirections, if there are any. -/
def withRedirections (line : Nat) (c : Command) (rs : List Redirection) : Command :=
  if rs.isEmpty then c else .redirected line c rs

mutual

/-- What a dollar sign stands for, and the rest. -/
def readDollar (depth total : Nat) (quoted : Bool) (t : Octets) : Except Fault (Word × Octets) :=
  match depth with
  | 0 => unexpected total t
  | depth + 1 =>
    match t with
    | '(' :: '(' :: rest => do
      let (text, rest) ← readExpression total 0 rest
      let (expression, _) ← readPieces depth total .document text
      return ([.sum expression quoted], rest)
    | '(' :: rest => do
      let (script, rest) ← readList depth total rest
      let (_, rest) ← expectChar total ')' rest
      return ([.output script quoted], rest)
    | '\x7b' :: rest => readBraces depth total quoted rest
    | t =>
      match parameterName t with
      | some (name, rest) => .ok ([.parameter name quoted], rest)
      | none => .ok ([.text ['$'] quoted], t)

/-- A parameter in braces, and the rest after them. -/
def readBraces (depth total : Nat) (quoted : Bool) (t : Octets) : Except Fault (Word × Octets) :=
  match depth with
  | 0 => unexpected total t
  | depth + 1 =>
    let bad : Except Fault (Word × Octets) := .error ⟨"Bad substitution", lineAt total t⟩
    match t with
    | '#' :: '\x7d' :: rest => .ok ([.parameter ['#'] quoted], rest)
    | '#' :: rest =>
      match parameterName rest with
      | some (name, '\x7d' :: rest) => .ok ([.length name quoted], rest)
      | _ => bad
    | t =>
      match parameterName t with
      | none => bad
      | some (name, '\x7d' :: rest) => .ok ([.parameter name quoted], rest)
      | some (_, []) => .error ⟨"Syntax error: Missing '\x7d'", lineAt total []⟩
      | some (name, rest) =>
        match operation? name quoted rest with
        | none => bad
        | some (make, rest) => do
          let (word, rest) ← readPieces depth total (.braces quoted) rest
          return ([make word], rest.drop 1)

/-- What a script between backquotes prints, and the rest after them. -/
def readBackquoted (depth total : Nat) (quoted : Bool) (t : Octets) : Except Fault
    (Word × Octets) :=
  match depth with
  | 0 => unexpected total t
  | depth + 1 =>
    match t.dropWhile (· != '\x60') with
    | [] => .error ⟨"Syntax error: EOF in backquote substitution", lineAt total []⟩
    | _ :: rest => do
      let (script, left) ← readList depth total (t.takeWhile (· != '\x60'))
      if left.isEmpty then return ([.output script quoted], rest) else unexpected total left

/-- The pieces of a word up to where its context ends, and the rest from there on. -/
def readPieces (depth total : Nat) (ctx : Context) (t : Octets) : Except Fault (Word × Octets) :=
  match depth with
  | 0 => unexpected total t
  | depth + 1 =>
    match t with
    | [] =>
      match ctx with
      | .double => unterminated total []
      | .braces _ => .error ⟨"Syntax error: Missing '\x7d'", lineAt total []⟩
      | _ => .ok ([], [])
    | '\\' :: '\n' :: rest => readPieces depth total ctx rest
    | '\\' :: c :: rest => do
      let (word, rest) ← readPieces depth total ctx rest
      if !ctx.isQuoted then return (.text [c] true :: word, rest)
      else if ctx.escapes c then return (consChar c true word, rest)
      else return (consChar '\\' true (consChar c true word), rest)
    | c :: rest =>
      if ctx.endsAt c then .ok ([], c :: rest)
      else if c == '"' && ctx == .braces true then readPieces depth total ctx rest
      else if c == '$' then do
        let (pieces, rest) ← readDollar depth total ctx.isQuoted rest
        let (word, rest) ← readPieces depth total ctx rest
        return (pieces ++ word, rest)
      else if c == '\x60' then do
        let (pieces, rest) ← readBackquoted depth total ctx.isQuoted rest
        let (word, rest) ← readPieces depth total ctx rest
        return (pieces ++ word, rest)
      else if c == '\'' && !ctx.isQuoted then do
        let (quoted, rest) ← readQuoted total rest
        let (word, rest) ← readPieces depth total ctx rest
        return (.text quoted true :: word, rest)
      else if c == '"' && !ctx.isQuoted then do
        let (quoted, rest) ← readPieces depth total .double rest
        let (word, rest) ← readPieces depth total ctx (rest.drop 1)
        return ((if quoted.isEmpty then [.text [] true] else quoted) ++ word, rest)
      else do
        let (word, rest) ← readPieces depth total ctx rest
        return (consChar c ctx.isQuoted word, rest)

/-- A redirection after its arrow, and the rest. -/
def readRedirection (depth total : Nat) (arrow : Arrow) (t : Octets) : Except Fault
    (Redirection × Octets) :=
  match depth with
  | 0 => unexpected total t
  | depth + 1 =>
    match arrow, skipGaps t with
    | .target output _, '&' :: c :: rest =>
      match outputOf c with
      | some other => .ok (.same output other, rest)
      | none => .error ⟨"Syntax error: Bad fd number", lineAt total t⟩
    | .document trimmed, t => do
      let (mark, rest) ← readPieces depth total .word t
      let (mark, quoted) := plainText mark
      let (line, rest) := firstLine rest
      let (body, rest) := linesUpTo rest.length trimmed mark rest
      if quoted then return (.document [.text body true], line ++ '\n' :: rest)
      else
        let (word, _) ← readPieces depth total .document body
        return (.document word, line ++ '\n' :: rest)
    | arrow, t => do
      let (name, rest) ← readPieces depth total .word t
      if name.isEmpty then unexpected total rest
      else
        match arrow with
        | .target output appending => return (.target output appending name, rest)
        | _ => return (.source name, rest)

/-- The redirections after a compound command, and the rest. -/
def readRedirections (depth total : Nat) (t : Octets) : Except Fault (List Redirection × Octets) :=
  match depth with
  | 0 => unexpected total t
  | depth + 1 =>
    match arrow? (skipGaps t) with
    | none => .ok ([], t)
    | some (arrow, rest) => do
      let (first, rest) ← readRedirection depth total arrow rest
      let (more, rest) ← readRedirections depth total rest
      return (first :: more, rest)

/-- The words and redirections of a simple command, and the rest. -/
def readSimple (depth total : Nat) (t : Octets) : Except Fault
    ((List Word × List Redirection) × Octets) :=
  match depth with
  | 0 => unexpected total t
  | depth + 1 =>
    let t := skipGaps t
    match arrow? t with
    | some (arrow, rest) => do
      let (first, rest) ← readRedirection depth total arrow rest
      let ((words, redirections), rest) ← readSimple depth total rest
      return ((words, first :: redirections), rest)
    | none =>
      match t with
      | [] => .ok (([], []), [])
      | c :: rest =>
        if c == '(' then unexpected total t
        else if endsWord c then .ok (([], []), c :: rest)
        else do
          let (word, rest) ← readPieces depth total .word t
          let ((words, redirections), rest) ← readSimple depth total rest
          return ((word :: words, redirections), rest)

/-- The words of a list up to the end of the line or a semicolon, and the rest. -/
def readWords (depth total : Nat) (t : Octets) : Except Fault (List Word × Octets) :=
  match depth with
  | 0 => unexpected total t
  | depth + 1 =>
    match skipGaps t with
    | [] => .ok ([], [])
    | c :: rest =>
      if c == ';' || c == '\n' then .ok ([], rest)
      else if endsWord c then unexpected total (c :: rest)
      else do
        let (word, rest) ← readPieces depth total .word (c :: rest)
        let (words, rest) ← readWords depth total rest
        return (word :: words, rest)

/-- The commands of a part that must not be empty, and the rest. -/
def readBlock (depth total : Nat) (t : Octets) : Except Fault (Script × Octets) :=
  match depth with
  | 0 => unexpected total t
  | depth + 1 => do
    let (script, rest) ← readList depth total t
    if script.isEmpty then unexpected total rest else return (script, rest)

/-- The condition and the bodies of a choice, and the rest after its end. -/
def readChoice (depth total : Nat) (t : Octets) : Except Fault (Command × Octets) :=
  match depth with
  | 0 => unexpected total t
  | depth + 1 => do
    let (condition, rest) ← readBlock depth total t
    let (_, rest) ← expectWord total "then" rest
    let (body, rest) ← readBlock depth total rest
    match plainWord rest with
    | "elif" =>
      let (other, rest) ← readChoice depth total (rest.drop 4)
      return (.choice condition body [other], rest)
    | "else" =>
      let (other, rest) ← readBlock depth total (rest.drop 4)
      let (_, rest) ← expectWord total "fi" rest
      return (.choice condition body other, rest)
    | _ =>
      let (_, rest) ← expectWord total "fi" rest
      return (.choice condition body [], rest)

/-- A body between its two words, and the rest. -/
def readBody (depth total : Nat) (t : Octets) : Except Fault (Script × Octets) :=
  match depth with
  | 0 => unexpected total t
  | depth + 1 => do
    let (_, rest) ← expectWord total "do" (skipLines t.length t)
    let (body, rest) ← readBlock depth total rest
    let (_, rest) ← expectWord total "done" rest
    return (body, rest)

/-- A body for each of several words, and the rest. -/
def readEach (depth total : Nat) (t : Octets) : Except Fault (Command × Octets) :=
  match depth with
  | 0 => unexpected total t
  | depth + 1 =>
    match parameterName (skipGaps t) with
    | none => .error ⟨"Syntax error: Bad for loop variable", lineAt total t⟩
    | some (name, rest) => do
      let rest := skipLines rest.length rest
      if plainWord rest == "in" then
        let (words, rest) ← readWords depth total (rest.drop 2)
        let (body, rest) ← readBody depth total rest
        return (.each name (some words) body, rest)
      else
        let rest := if rest.head? == some ';' then rest.drop 1 else rest
        let (body, rest) ← readBody depth total rest
        return (.each name none body, rest)

/-- The patterns of a branch up to the closing parenthesis, and the rest. -/
def readPatterns (depth total : Nat) (t : Octets) : Except Fault (List Word × Octets) :=
  match depth with
  | 0 => unexpected total t
  | depth + 1 => do
    let (pattern, rest) ← readPieces depth total .word (skipGaps t)
    match skipGaps rest with
    | '|' :: rest =>
      let (patterns, rest) ← readPatterns depth total rest
      return (pattern :: patterns, rest)
    | rest =>
      let (_, rest) ← expectChar total ')' rest
      return ([pattern], rest)

/-- The branches of a selection, and the rest after its end. -/
def readBranches (depth total : Nat) (t : Octets) : Except Fault (List Branch × Octets) :=
  match depth with
  | 0 => unexpected total t
  | depth + 1 =>
    let t := skipLines t.length t
    if plainWord t == "esac" then .ok ([], t.drop 4)
    else do
      let (patterns, rest) ← readPatterns depth total (if t.head? == some '(' then t.drop 1 else t)
      let (body, rest) ← readList depth total rest
      match rest with
      | ';' :: ';' :: rest =>
        let (branches, rest) ← readBranches depth total rest
        return (.mk patterns body :: branches, rest)
      | rest =>
        let (_, rest) ← expectWord total "esac" rest
        return ([.mk patterns body], rest)

/-- A compound command with the given first word, if there is one of that kind, and the rest. -/
def readCompound (depth total : Nat) (opener : String) (t : Octets) : Option
    (Except Fault (Command × Octets)) :=
  match depth with
  | 0 => none
  | depth + 1 =>
    match opener with
    | "\x7b" => some do
      let (body, rest) ← readBlock depth total t
      let (_, rest) ← expectWord total "\x7d" rest
      return (.group body, rest)
    | "if" => some (readChoice depth total t)
    | "while" => some do
      let (condition, rest) ← readBlock depth total t
      let (body, rest) ← readBody depth total rest
      return (.loop true condition body, rest)
    | "until" => some do
      let (condition, rest) ← readBlock depth total t
      let (body, rest) ← readBody depth total rest
      return (.loop false condition body, rest)
    | "for" => some (readEach depth total t)
    | "case" => some do
      let (word, rest) ← readPieces depth total .word (skipGaps t)
      let (_, rest) ← expectWord total "in" (skipLines rest.length rest)
      let (branches, rest) ← readBranches depth total rest
      return (.select word branches, rest)
    | _ => none

/-- A command that is no pipe, and the rest. -/
def readCommand (depth total : Nat) (t : Octets) : Except Fault (Command × Octets) :=
  match depth with
  | 0 => unexpected total t
  | depth + 1 =>
    let t := skipGaps t
    let line := lineAt total t
    match t with
    | '(' :: rest => do
      let (body, rest) ← readBlock depth total rest
      let (_, rest) ← expectChar total ')' rest
      let (redirections, rest) ← readRedirections depth total rest
      return (withRedirections line (.subshell body) redirections, rest)
    | t =>
      let opener := plainWord t
      match readCompound depth total opener (t.drop opener.length) with
      | some reading => do
        let (command, rest) ← reading
        let (redirections, rest) ← readRedirections depth total rest
        return (withRedirections line command redirections, rest)
      | none =>
        if closers.contains opener then unexpected total t
        else
          match definition? t with
          | some (name, rest) => do
            let (body, rest) ← readCommand depth total (skipLines rest.length rest)
            return (.define name body, rest)
          | none => do
            let ((words, redirections), rest) ← readSimple depth total t
            if words.isEmpty && redirections.isEmpty then unexpected total rest
            else return (withRedirections line (.simple line words) redirections, rest)

/-- A command with all that is piped into it, and the rest. -/
def readPipe (depth total : Nat) (t : Octets) : Except Fault (Command × Octets) :=
  match depth with
  | 0 => unexpected total t
  | depth + 1 =>
    match skipGaps t with
    | '!' :: ' ' :: rest => do
      let (command, rest) ← readPipe depth total rest
      return (.not command, rest)
    | t => do
      let (command, rest) ← readCommand depth total t
      match skipGaps rest with
      | '|' :: '|' :: _ => return (command, skipGaps rest)
      | '|' :: rest =>
        let (second, rest) ← readPipe depth total (skipLines rest.length rest)
        return (.pipe command second, rest)
      | rest => return (command, rest)

/-- Commands joined by the conditional connectives after a first one, and the rest. -/
def readChain (depth total : Nat) (first : Command) (t : Octets) : Except Fault
    (Command × Octets) :=
  match depth with
  | 0 => unexpected total t
  | depth + 1 =>
    match t with
    | '&' :: '&' :: rest => do
      let (second, rest) ← readPipe depth total (skipLines rest.length rest)
      readChain depth total (.and first second) rest
    | '|' :: '|' :: rest => do
      let (second, rest) ← readPipe depth total (skipLines rest.length rest)
      readChain depth total (.or first second) rest
    | t => .ok (first, t)

/-- The commands up to the end of the line, and the rest from there on. -/
def readLine (depth total : Nat) (t : Octets) : Except Fault (Script × Octets) :=
  match depth with
  | 0 => unexpected total t
  | depth + 1 => do
    let (first, rest) ← readPipe depth total t
    let (command, rest) ← readChain depth total first rest
    match rest with
    | ';' :: ';' :: _ => return ([command], rest)
    | ';' :: rest => readMore depth total command rest
    | '&' :: rest => readMore depth total (.background command) rest
    | rest => return ([command], rest)

/-- The commands after one that a separator has ended, and the rest. -/
def readMore (depth total : Nat) (command : Command) (t : Octets) : Except Fault
    (Script × Octets) :=
  match depth with
  | 0 => unexpected total t
  | depth + 1 =>
    let t := skipGaps t
    if isClosed t || t.head? == some '\n' then .ok ([command], t)
    else do
      let (script, rest) ← readLine depth total t
      return (command :: script, rest)

/-- The commands up to the end of a part of a compound command, and the rest from there on. -/
def readList (depth total : Nat) (t : Octets) : Except Fault (Script × Octets) :=
  match depth with
  | 0 => unexpected total t
  | depth + 1 =>
    let t := skipLines t.length t
    if isClosed t then .ok ([], t)
    else do
      let (line, rest) ← readLine depth total t
      match rest with
      | '\n' :: rest =>
        let (script, rest) ← readList depth total rest
        return (line ++ script, rest)
      | rest => return (line, rest)

end

/-! ### Scripts -/

/-- The commands of a script, and the fault that they end at if any, line by line. -/
def readFrom (fuel total : Nat) (t : Octets) : Script × Option Fault :=
  match fuel with
  | 0 => ([], none)
  | fuel + 1 =>
    let t := skipLines t.length t
    if t.isEmpty then ([], none)
    else
      match readLine (12 * t.length + 24) total t with
      | .error e => ([], some e)
      | .ok (line, rest) =>
        match rest with
        | [] => (line, none)
        | '\n' :: rest =>
          let (script, fault) := readFrom fuel total rest
          (line ++ script, fault)
        | rest => ([], some ⟨s!"Syntax error: {symbolAt rest} unexpected", lineAt total rest⟩)

/-- The commands of a script, and the fault that they end at if any. -/
def readScript (t : Octets) : Script × Option Fault :=
  readFrom (t.length + 1) (t.count '\n') t

end LintBridge.Shell
