import LintBridge.Host.Tree

/-!
# The directory to lint in

The linter is started in the root of the project that a file belongs to: the nearest directory above
the file that holds one of the marker files. The search does not climb above the workspace.

* `LintBridge.Linter.holdsMarker` – whether a directory holds one of the markers;
* `LintBridge.Linter.climb` – the search, from directory to directory;
* `LintBridge.Linter.workingDirectory` – what it comes to, **which is the directory it starts in
  where no marker is found**.
-/

namespace LintBridge.Linter

/-- Whether a directory holds one of the markers as a regular file. -/
def holdsMarker (h : Host) (dir : Path) : List String → Except Host.Error Bool
  | [] => .ok false
  | marker :: rest => do
    if ← h.isFile (dir.join marker) then return true
    holdsMarker h dir rest

/-- The first of some directories that holds one of the markers, up to and including the workspace.
-/
def climb (h : Host) (markers : List String) (workspace : Option Path) :
    List Path → Except Host.Error (Option Path)
  | [] => .ok none
  | dir :: above => do
    if ← holdsMarker h dir markers then return some dir
    if workspace == some dir then return none
    climb h markers workspace above

/-- The directory a search starts in: the path itself if it leads to a directory, and the one above
it otherwise. -/
def startOf (h : Host) (path : Path) : Except Host.Error Path := do
  return if ← h.isDirectory path then path else path.parent

/-- The directory the linter is started in. -/
def workingDirectory (h : Host) (markers : List String) (workspace : Option Path) (path : Path) :
    Except Host.Error Path := do
  let start ← startOf h path
  if markers.isEmpty then return start
  return (← climb h markers workspace (start :: start.parents)).getD start

end LintBridge.Linter
