import LintBridge.Diagnostic
import LintBridge.Text.CaseMap
import LintBridge.Uri

/-!
# Which diagnostics belong to a document

The linter may spell the name of a file in another way than the editor: as a path or as a URI, in
other case, with backslashes, or below another mount point. A group belongs to a document when both
names have the same **comparable form**, or at least the same last segment of it.

The name that the linter has written may hold surrogates. Nothing on the way to a comparable form
changes a surrogate or looks for one, and that of a document holds none; so it does not matter which
character stands for them, unless one happens to be what the document has in their place. A name
with surrogates therefore names a document if it does **with either of two characters**, both of
them changed by nothing either.

* `LintBridge.Matching.comparable` – the comparable form of a name;
* `LintBridge.Matching.names` – whether a target names a document;
* `LintBridge.Matching.belongs` – whether a target that the linter has written does;
* `LintBridge.Matching.select` – the diagnostics of the groups that belong to a document.
-/

namespace LintBridge.Matching

/-- A text without the slashes at its end. -/
def dropTrailingSlashes (s : List Char) : List Char :=
  (s.reverse.dropWhile (· == '/')).reverse

/-- The comparable form of a name: its path with slashes only, none at the end, and case folded. -/
def comparable (target : String) : Except Uri.Error String := do
  let path := (← Uri.pathText target).toList.map fun c => if c == '\\' then '/' else c
  let path := if 1 < path.length then dropTrailingSlashes path else path
  return Text.foldCase (String.ofList path)

/-- The last segment of a comparable form. -/
def lastSegment (form : String) : String :=
  (Path.ofString form).name

/-- Whether two comparable forms name one document. -/
def sameDocument (wanted candidate : String) : Bool :=
  candidate == wanted || (lastSegment wanted != "" && lastSegment candidate == lastSegment wanted)

/-- Whether a target names a document. -/
def names (target document : String) : Except Uri.Error Bool := do
  let wanted ← comparable document
  let candidate ← comparable target
  return sameDocument wanted candidate

/-- Whether a target that may hold surrogates names a document, with another character in the place
of each of them. -/
def namesOtherwise (target : Json.CodePoints) (document : String) : Bool :=
  match names (target.fill '\uFFFE') document with
  | .ok found => found
  | .error _ => false

/-- Whether a target that may hold surrogates names a document. -/
def belongs (target : Json.CodePoints) (document : String) : Except Uri.Error Bool := do
  let found ← names target.toString document
  return found && namesOtherwise target document

/-- The diagnostics of the groups that belong to a document, in order. -/
def select (document : String) : List Group → Except Uri.Error (List Record)
  | [] => .ok []
  | group :: rest => do
    let found ← belongs group.target document
    let more ← select document rest
    return if found then group.diagnostics ++ more else more

end LintBridge.Matching
