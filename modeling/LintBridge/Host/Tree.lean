import LintBridge.Path
import LintBridge.Text.Quoted

/-!
# The files of a host

What the linter and its configuration see of the machine they run on: directories, regular files
with their octets, symbolic links, and the programs that come with the system. The system may refuse
to look anything up in a directory, to open a file, or to look at something at all. A path is looked
up segment by segment from the current directory or the root, following links, and the look-up fails
the way the operating system makes it fail.

* `LintBridge.Host.Tree` – the files, each under the segments of its absolute path;
* `LintBridge.Host.Tree.walk` – a look-up, which ends because links are counted;
* `LintBridge.Host` – the files together with the current directory and the search path;
* `LintBridge.Host.isFile`, `LintBridge.Host.isDirectory` – the two questions asked about a path,
  which are answered with no only where **the refusal says that there is no such file**;
* `LintBridge.Host.realPath` – a path with its links followed as far as there are files.
-/

namespace LintBridge

namespace Host

/-- The reasons for which the operating system refuses. -/
inductive Errno where
  /-- There is no such file or directory. -/
  | noEntry
  /-- The file cannot be run. -/
  | badFormat
  /-- Not permitted. -/
  | denied
  /-- A file stands where a directory is due. -/
  | notDirectory
  /-- A directory stands where a file is due. -/
  | isDirectory
  /-- A segment or a path is too long. -/
  | nameTooLong
  /-- Too many links on the way. -/
  | tooManyLinks
  /-- Any other reason, by its number and its words. -/
  | other (number : Nat) (words : String)
  deriving DecidableEq, Repr

/-- The number of a reason. -/
def Errno.number : Errno → Nat
  | .noEntry => 2
  | .badFormat => 8
  | .denied => 13
  | .notDirectory => 20
  | .isDirectory => 21
  | .nameTooLong => 36
  | .tooManyLinks => 40
  | .other number _ => number

/-- The words for a reason. -/
def Errno.words : Errno → String
  | .noEntry => "No such file or directory"
  | .badFormat => "Exec format error"
  | .denied => "Permission denied"
  | .notDirectory => "Not a directory"
  | .isDirectory => "Is a directory"
  | .nameTooLong => "File name too long"
  | .tooManyLinks => "Too many levels of symbolic links"
  | .other _ words => words

/-- The numbers of the reasons that say no more than that a path leads nowhere: there is no such
file, a descriptor is bad, a file stands where a directory is due, or links lead in a circle. -/
def Errno.nowhereNumbers : List Nat := [2, 9, 20, 40]

/-- Whether a reason says no more than that a path leads nowhere. -/
def Errno.leadsNowhere (e : Errno) : Bool :=
  nowhereNumbers.contains e.number

/-- A refusal of the operating system. -/
structure Error where
  /-- The reason. -/
  errno : Errno
  /-- The path that was asked for. -/
  path : String
  deriving DecidableEq, Repr

/-- The words for a refusal. -/
def Error.message (e : Error) : String :=
  s!"[Errno {e.errno.number}] {e.errno.words}: {Text.quoted e.path}"

/-- What stands at a place of the file system. -/
inductive Entry where
  /-- A directory. -/
  | directory
  /-- A regular file. -/
  | file (octets : List UInt8) (executable : Bool)
  /-- A program of the system, known by its name. -/
  | program (name : String)
  /-- A symbolic link. -/
  | link (target : String)
  /-- A directory in which the system looks nothing up, and why. -/
  | closed (reason : Errno)
  /-- A regular file that the system does not open, and why. -/
  | sealed (reason : Errno) (executable : Bool)
  /-- Something that the system does not look at, and why. -/
  | hidden (reason : Errno)
  deriving DecidableEq

/-- The files of a host, each under the segments of its absolute path. -/
structure Tree where
  /-- The files; the root is not listed. -/
  entries : List (List String × Entry) := []

namespace Tree

/-- What stands under the given segments. -/
def entry? (t : Tree) (place : List String) : Option Entry :=
  if place.isEmpty then some .directory else t.entries.lookup place

/-- Adds the directories on the way to a place. -/
def addParents (t : Tree) (place : List String) : Tree :=
  (List.range place.length).foldl
    (fun t n =>
      let dir := place.take n
      if (t.entry? dir).isNone then ⟨t.entries ++ [(dir, .directory)]⟩ else t)
    t

/-- Puts an entry at a place, together with the directories on the way. -/
def add (t : Tree) (place : List String) (e : Entry) : Tree :=
  let t := t.addParents place
  ⟨t.entries.filter (·.1 != place) ++ [(place, e)]⟩

/-- The longest name of a file, in octets. -/
def maxName : Nat := 255

/-- The longest path, in octets. -/
def maxPath : Nat := 4095

/-- How many links a look-up follows. -/
def maxLinks : Nat := 40

/-- The segments of a path text, empty ones included. -/
def segmentsOf (s : String) : List String :=
  (Text.splitOn '/' s.toList).map String.ofList

/-- Why nothing can be looked up in a directory, if the system refuses to. -/
def refusalIn (t : Tree) (dir : List String) : Option Errno :=
  match t.entry? dir with
  | some (.closed reason) => some reason
  | _ => none

/-- Looks the pending segments up from a directory, up to the first link, where `follow` goes on from
a directory with what is then pending. A file may be followed by no further segment, not even an
empty one; an empty segment alone is looked up without a look into the directory. -/
def walkTo (t : Tree) (follow : List String → List String → Except Errno (List String))
    (dir : List String) : (pending : List String) → Except Errno (List String)
  | [] => .ok dir
  | seg :: rest =>
    if seg == "" then walkTo t follow dir rest
    else
      match t.refusalIn dir with
      | some reason => .error reason
      | none =>
        if seg == "." then walkTo t follow dir rest
        else if seg == ".." then walkTo t follow dir.dropLast rest
        else if seg.utf8ByteSize > maxName then .error .nameTooLong
        else
          match t.entry? (dir ++ [seg]) with
          | none => .error .noEntry
          | some .directory => walkTo t follow (dir ++ [seg]) rest
          | some (.closed _) => walkTo t follow (dir ++ [seg]) rest
          | some (.link target) =>
            follow (if target.startsWith "/" then [] else dir) (segmentsOf target ++ rest)
          | some (.hidden reason) => .error reason
          | some _ => if rest.isEmpty then .ok (dir ++ [seg]) else .error .notDirectory

/-- Looks the pending segments up from a directory, following at most `links` links. -/
def walk (t : Tree) : (links : Nat) → (dir pending : List String) → Except Errno (List String)
  | 0 => t.walkTo fun _ _ => .error .tooManyLinks
  | links + 1 => t.walkTo (t.walk links)

/-- Goes down one segment, or up for `..`, without looking at what is there. -/
def descend (dir : List String) (seg : String) : List String :=
  if seg == "" || seg == "." then dir
  else if seg == ".." then dir.dropLast
  else dir ++ [seg]

/-- Whether the system looks things up in a directory and in all those above it. -/
def isOpen (t : Tree) (dir : List String) : Bool :=
  (List.range (dir.length + 1)).all fun n =>
    match t.entry? (dir.take n) with
    | some (.closed _) => false
    | some (.hidden _) => false
    | _ => true

/-- The target of the link that the system sees under a segment of a directory, if it sees one. -/
def linkAt? (t : Tree) (dir : List String) (seg : String) : Option String :=
  match t.entry? (dir ++ [seg]) with
  | some (.link target) => if t.isOpen dir then some target else none
  | _ => none

/-- Follows the links on the way to the pending segments as far as there are files, and says whether
it has come to an end. A link that is on the `trail` of those being followed leads back to itself:
there the segments are kept as they are, and nothing else is followed. The links on the trail are
all different, so that `depth` is never short when it is the number of entries. -/
def follow (t : Tree) (depth : Nat) (trail : List (List String)) (dir pending : List String) :
    List String × Bool :=
  match pending with
  | [] => (dir, true)
  | seg :: rest =>
    if seg == "" || seg == "." then follow t depth trail dir rest
    else if seg == ".." then follow t depth trail dir.dropLast rest
    else
      let place := dir ++ [seg]
      match t.linkAt? dir seg with
      | some target =>
        if trail.contains place then (rest.foldl descend place, false)
        else
          match depth with
          | 0 => (rest.foldl descend place, false)
          | depth + 1 =>
            match follow t depth (place :: trail) (if target.startsWith "/" then [] else dir)
                (segmentsOf target) with
            | (place, true) => follow t (depth + 1) trail place rest
            | (place, false) => (rest.foldl descend place, false)
      | none => follow t depth trail place rest
  termination_by (depth, pending.length)

/-- The place that the pending segments lead to from a directory, with links followed. -/
def realPlace (t : Tree) (dir pending : List String) : List String :=
  (t.follow t.entries.length [] dir pending).1

end Tree

end Host

/-- A host: its files, the current directory and the search path for programs. -/
structure Host where
  /-- The files. -/
  tree : Host.Tree := {}
  /-- The segments of the current directory. -/
  cwd : List String := []
  /-- The search path for programs. -/
  searchPath : String := "/usr/local/sbin:/usr/local/bin:/usr/sbin:/usr/bin:/sbin:/bin"

namespace Host

/-- The place and the entry a path text leads to. -/
def find (h : Host) (path : String) : Except Errno (List String × Entry) :=
  if path.isEmpty then .error .noEntry
  else if path.utf8ByteSize > Tree.maxPath then .error .nameTooLong
  else do
    let start := if path.startsWith "/" then [] else h.cwd
    let place ← h.tree.walk Tree.maxLinks start (Tree.segmentsOf path)
    match h.tree.entry? place with
    | some e => .ok (place, e)
    | none => .error .noEntry

/-- Whether a test holds of what a path leads to. It does not of a path that leads nowhere or that
no file can have; **every other refusal is reported**. -/
def test (h : Host) (p : Path) (holds : Entry → Bool) : Except Error Bool :=
  let path := p.toString
  if path.toList.contains '\x00' then .ok false
  else
    match h.find path with
    | .ok (_, e) => .ok (holds e)
    | .error errno => if errno.leadsNowhere then .ok false else .error ⟨errno, path⟩

/-- A directory. -/
def Entry.isDirectory : Entry → Bool
  | .directory => true
  | .closed _ => true
  | _ => false

/-- A regular file. -/
def Entry.isFile : Entry → Bool
  | .file .. => true
  | .program _ => true
  | .sealed .. => true
  | _ => false

/-- A file that may be run. -/
def Entry.isExecutable : Entry → Bool
  | .file _ executable => executable
  | .program _ => true
  | .sealed _ executable => executable
  | _ => false

/-- A file that may be read, as far as its mode tells. -/
def Entry.isReadable : Entry → Bool
  | .sealed .denied _ => false
  | _ => true

/-- Whether a path leads to a directory. -/
def isDirectory (h : Host) (p : Path) : Except Error Bool :=
  h.test p Entry.isDirectory

/-- Whether a path leads to a regular file. -/
def isFile (h : Host) (p : Path) : Except Error Bool :=
  h.test p Entry.isFile

/-- The octets of the regular file a path leads to. -/
def read (h : Host) (p : Path) : Except Error (List UInt8) :=
  match h.find p.toString with
  | .ok (_, .file octets _) => .ok octets
  | .ok (_, .directory) => .error ⟨.isDirectory, p.toString⟩
  | .ok (_, .closed _) => .error ⟨.isDirectory, p.toString⟩
  | .ok (_, .sealed reason _) => .error ⟨reason, p.toString⟩
  | .ok _ => .ok []
  | .error errno => .error ⟨errno, p.toString⟩

/-- A path as an absolute one without links, as far as there are files. -/
def realPath (h : Host) (p : Path) : Path :=
  let start := if p.isAbsolute then [] else h.cwd
  ⟨.root, h.tree.realPlace start p.segments⟩

end Host

end LintBridge
