import LintBridge.Toml.Lexeme

/-!
# Reading a settings file

A settings file is a sequence of lines, each empty, an assignment or a header that says which table
the assignments below it belong to. No value may be given twice, and which tables may still be added
to is recorded by marks on their paths: a table that was written out in full, and everything inside
it, is **frozen**; a table that has had a header of its own, or was opened by a dotted key, is
**declared** and has no second one.

* `LintBridge.Toml.Mark` – the marks;
* `LintBridge.Toml.readValue` – a value, nested no deeper than there are frames for;
* `LintBridge.Toml.read` – the table a file stands for.
-/

namespace LintBridge.Toml

/-- The two kinds of marks. -/
inductive MarkKind where
  /-- Written out in full. -/
  | frozen
  /-- Having had its header. -/
  | declared
  deriving DecidableEq, Repr

/-- A mark on a table. -/
structure Mark where
  /-- The path of the table. -/
  path : List String
  /-- The kind. -/
  kind : MarkKind
  /-- Whether the mark holds for everything inside the table, too. -/
  deep : Bool
  deriving DecidableEq, Repr

/-- Whether a path bears a mark of a kind, its own or one from above. -/
def isMarked (marks : List Mark) (kind : MarkKind) (path : List String) : Bool :=
  marks.any fun m => m.kind == kind && !path.isEmpty &&
    (m.path == path || (m.deep && m.path.isPrefixOf path))

/-- How many frames there are for arrays and tables that are nested. An array takes two of them, and
a table written on one line takes three. -/
def maxFrames : Nat := 960

/-- The text after the comment at its front, all of it where there is none. -/
def skipComment (s : List Char) : Except Error (List Char) :=
  match s with
  | '#' :: rest =>
    let comment := rest.takeWhile (· != '\n')
    if comment.any isIllegal then .error .malformed else .ok (rest.drop comment.length)
  | s => .ok s

/-- The text after the blanks, line ends and comments at its front. -/
def skipFiller : (fuel : Nat) → List Char → Except Error (List Char)
  | 0, s => .ok s
  | fuel + 1, s =>
    match s.dropWhile isBlankOrNewline with
    | '#' :: rest => do skipFiller fuel (← skipComment ('#' :: rest))
    | s => .ok s

/-- The text after everything that may stand between the items of an array. -/
def skipBetween (s : List Char) : Except Error (List Char) :=
  skipFiller (s.length + 1) s

/-- Reads a key and its value. -/
def readAssignment (value : Step Value) : Step (List String × Value) := fun s => do
  let (key, rest) ← readKey s
  match rest with
  | '=' :: rest => do
    let (v, rest) ← value (skipInline rest)
    .ok ((key, v), rest)
  | _ => .error .malformed

/-- Reads the items of an array and its end; a comma may stand after the last. -/
def readItems (value : Step Value) : (fuel : Nat) → Step (List Value)
  | 0, _ => .error .malformed
  | fuel + 1, s =>
    match s with
    | ']' :: rest => .ok ([], rest)
    | s => do
      let (v, rest) ← value s
      match ← skipBetween rest with
      | ']' :: rest => .ok ([v], rest)
      | ',' :: rest => do
        let (vs, rest) ← readItems value fuel (← skipBetween rest)
        .ok (v :: vs, rest)
      | _ => .error .malformed

/-- A value that holds others. -/
def Value.isNested : Value → Bool
  | .array _ => true
  | .table _ => true
  | _ => false

/-- Puts a value under a key that has none. -/
def Table.addNew (key : String) (v : Value) (t : Table) : Option Table :=
  if (t.lookup key).isSome then none else some (t ++ [(key, v)])

/-- Reads the entries of a table written on one line, and its end. -/
def readInline (value : Step Value) : (fuel : Nat) → Table → List Mark → Step Table
  | 0, _, _, _ => .error .malformed
  | fuel + 1, t, marks, s => do
    let ((key, v), rest) ← readAssignment value s
    if isMarked marks .frozen key then .error .malformed
    else
      match modifyAt false (Table.addNew (key.getLast?.getD "") v) key.dropLast t with
      | none => .error .malformed
      | some t =>
        match skipInline rest with
        | '}' :: rest => .ok (t, rest)
        | ',' :: rest =>
          let marks := if v.isNested then ⟨key, .frozen, true⟩ :: marks else marks
          readInline value fuel t marks (skipInline rest)
        | _ => .error .malformed

/-- Reads a value that holds no others. -/
def readScalar (s : List Char) : Except Error (Value × List Char) :=
  match s with
  | '"' :: _ => (readString s).map fun (text, rest) => (.string text, rest)
  | '\'' :: _ => (readString s).map fun (text, rest) => (.string text, rest)
  | 't' :: 'r' :: 'u' :: 'e' :: rest => .ok (.bool true, rest)
  | 'f' :: 'a' :: 'l' :: 's' :: 'e' :: rest => .ok (.bool false, rest)
  | s => do
    match ← readMoment s with
    | some found => .ok found
    | none => readNumber s

/-- Reads a value in which arrays and tables are nested no deeper than there are frames for. -/
def readValue : (frames : Nat) → Step Value
  | frames + 3 => fun s =>
    match s with
    | '[' :: rest => do
      let rest ← skipBetween rest
      let (items, rest) ← readItems (readValue (frames + 1)) (rest.length + 1) rest
      .ok (.array items, rest)
    | '{' :: rest =>
      match skipInline rest with
      | '}' :: rest => .ok (.table [], rest)
      | rest => do
        let (t, rest) ← readInline (readValue frames) (rest.length + 1) [] [] rest
        .ok (.table t, rest)
    | s => readScalar s
  | _ => fun s =>
    match s with
    | '[' :: _ => .error .tooDeep
    | '{' :: _ => .error .tooDeep
    | s => readScalar s

/-- What has been read of a file. -/
structure Progress where
  /-- The table so far. -/
  table : Table := []
  /-- The path of the last header. -/
  header : List String := []
  /-- The marks in force. -/
  marks : List Mark := []
  /-- The paths opened by dotted keys since the last header, which are declared at the next one. -/
  opened : List (List String) := []

/-- Refuses unless a condition holds. -/
def ensure (condition : Bool) : Except Error Unit :=
  if condition then .ok () else .error .malformed

/-- The result of a change that may be refused. -/
def orMalformed {α : Type} : Option α → Except Error α
  | some a => .ok a
  | none => .error .malformed

/-- Takes an assignment over. -/
def Progress.assign (p : Progress) (key : List String) (v : Value) : Except Error Progress := do
  let parents := (List.range (key.length - 1)).map fun n => p.header ++ key.take (n + 1)
  ensure (!parents.any (isMarked p.marks .declared))
  let place := p.header ++ key.dropLast
  ensure (!isMarked p.marks .frozen place)
  let table ← orMalformed (modifyAt true (Table.addNew (key.getLast?.getD "") v) place p.table)
  let marks := if v.isNested then ⟨p.header ++ key, .frozen, true⟩ :: p.marks else p.marks
  return { p with table, marks, opened := p.opened ++ parents }

/-- Declares the paths opened by dotted keys. -/
def Progress.declareOpened (p : Progress) : Progress :=
  { p with opened := [], marks := p.opened.map (fun path => ⟨path, .declared, false⟩) ++ p.marks }

/-- Takes the header of a table over. -/
def Progress.openTable (p : Progress) (key : List String) : Except Error Progress := do
  ensure (!isMarked p.marks .declared key && !isMarked p.marks .frozen key)
  let table ← orMalformed (modifyAt true some key p.table)
  return { p with table, header := key, marks := ⟨key, .declared, false⟩ :: p.marks }

/-- Adds an empty table to the array under a key. -/
def Table.append (key : String) (t : Table) : Option Table :=
  match t.lookup key with
  | none => some (t ++ [(key, .array [.table []])])
  | some (.array items) => some (Table.replace t key (.array (items ++ [.table []])))
  | some _ => none

/-- Takes the header of the next table of an array over. Marks inside the array are those of the
table before and are dropped. -/
def Progress.openItem (p : Progress) (key : List String) : Except Error Progress := do
  ensure (!isMarked p.marks .frozen key)
  let marks := p.marks.filter fun m => !key.isPrefixOf m.path
  let table ← orMalformed (modifyAt true (Table.append (key.getLast?.getD "")) key.dropLast p.table)
  return { p with table, header := key, marks := ⟨key, .declared, false⟩ :: marks }

/-- Takes the assignment or header at the front of a line over. -/
def Progress.statement (p : Progress) (s : List Char) : Except Error (Progress × List Char) :=
  match s with
  | '[' :: '[' :: rest => do
    let (key, rest) ← readKey (skipInline rest)
    let p ← p.declareOpened.openItem key
    match rest with
    | ']' :: ']' :: rest => .ok (p, rest)
    | _ => .error .malformed
  | '[' :: rest => do
    let (key, rest) ← readKey (skipInline rest)
    let p ← p.declareOpened.openTable key
    match rest with
    | ']' :: rest => .ok (p, rest)
    | _ => .error .malformed
  | '#' :: _ => .ok (p, s)
  | s => do
    let ((key, v), rest) ← readAssignment (readValue maxFrames) s
    let p ← p.assign key v
    .ok (p, rest)

/-- Reads the lines of a file. -/
def readLines : (fuel : Nat) → Progress → List Char → Except Error Table
  | 0, _, _ => .error .malformed
  | fuel + 1, p, s =>
    match skipInline s with
    | [] => .ok p.table
    | '\n' :: rest => readLines fuel p rest
    | s => do
      let (p, rest) ← p.statement s
      match ← skipComment (skipInline rest) with
      | [] => .ok p.table
      | '\n' :: rest => readLines fuel p rest
      | _ => .error .malformed

/-- A text in which a carriage return before a line feed is dropped. -/
def dropReturns : List Char → List Char
  | [] => []
  | '\r' :: '\n' :: rest => '\n' :: dropReturns rest
  | c :: rest => c :: dropReturns rest

/-- The table that a file stands for. -/
def read (text : List Char) : Except Error Table :=
  let text := dropReturns text
  readLines (text.length + 1) {} text

end LintBridge.Toml
