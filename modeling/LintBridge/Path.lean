import LintBridge.Text.Split

/-!
# Paths as texts

A path is read without looking at any file: repeated slashes and `.` segments are dropped, `..`
segments stay. Two slashes at the front are kept apart from one, three or more count as one.

* `LintBridge.Path` – an anchor and the segments below it;
* `LintBridge.Path.ofString`, `LintBridge.Path.toString` – from and to text; the empty path is `.`;
* `LintBridge.Path.name`, `LintBridge.Path.parent`, `LintBridge.Path.parents` – the last segment and
  the paths above;
* `LintBridge.Path.join` – a path taken relative to another.
-/

namespace LintBridge

/-- Where a path starts. -/
inductive Anchor where
  /-- At the current directory. -/
  | relative
  /-- At the root. -/
  | root
  /-- At the root, written with two slashes. -/
  | doubleRoot
  deriving DecidableEq, Repr

/-- The text of an anchor. -/
def Anchor.toString : Anchor → String
  | .relative => ""
  | .root => "/"
  | .doubleRoot => "//"

/-- A path: an anchor and the segments below it, none of which is empty or a single dot. -/
structure Path where
  /-- Where the path starts. -/
  anchor : Anchor
  /-- The segments, outermost first. -/
  segments : List String
  deriving DecidableEq, Repr

namespace Path

/-- The anchor of a text. -/
def anchorOf : List Char → Anchor
  | '/' :: '/' :: '/' :: _ => .root
  | '/' :: '/' :: _ => .doubleRoot
  | '/' :: _ => .root
  | _ => .relative

/-- The path a text names. -/
def ofString (s : String) : Path where
  anchor := anchorOf s.toList
  segments :=
    ((Text.splitOn '/' s.toList).map String.ofList).filter fun seg => seg != "" && seg != "."

/-- The text of a path. -/
def toString (p : Path) : String :=
  match p.anchor, p.segments with
  | .relative, [] => "."
  | anchor, segments => anchor.toString ++ "/".intercalate segments

instance : ToString Path := ⟨toString⟩

/-- A path that does not depend on the current directory. -/
def isAbsolute (p : Path) : Bool :=
  p.anchor != .relative

/-- The last segment, empty where there is none. -/
def name (p : Path) : String :=
  p.segments.getLast?.getD ""

/-- The path without its last segment; a path without segments is its own parent. -/
def parent (p : Path) : Path :=
  { p with segments := p.segments.dropLast }

/-- The paths above, nearest first. -/
def parents (p : Path) : List Path :=
  (List.range p.segments.length).reverse.map fun n => { p with segments := p.segments.take n }

/-- A text taken as a path relative to `p`; an absolute one stands for itself. -/
def join (p : Path) (s : String) : Path :=
  let q := ofString s
  if q.isAbsolute then q else { p with segments := p.segments ++ q.segments }

end Path

end LintBridge
