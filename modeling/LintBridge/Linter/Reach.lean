import LintBridge.Host.Search
import LintBridge.Linter.Pass
import LintBridge.Settings.Project

/-!
# What a pass of the linter depends on

Before a pass it is known which places of the file system it may look at: **the file, the markers in
the directories above it, the places of the program, and the settings of the project**. Whoever
looks at just these places knows enough to foresee the pass.

* `LintBridge.Linter.programPlaces` – where the program may be;
* `LintBridge.Linter.reach` – all the places that a pass depends on.
-/

namespace LintBridge.Linter

/-- The directories in which the linter may be started on a file. -/
def directoriesAbove (file : Path) : List Path :=
  file :: file.parents

/-- The places where the program may be. -/
def programPlaces (h : Host) (s : Settings) (file : Path) : List Path :=
  match s.executable.encode? with
  | .error _ => []
  | .ok executable =>
    if executable.contains '/' then
      Path.ofString executable :: (directoriesAbove file).map (·.join executable)
    else h.searchDirectories.map fun dir => Path.ofString (Host.below dir executable)

/-- The places where the markers of a project may be. -/
def markerPlaces (s : Settings) (file : Path) : List Path :=
  (directoriesAbove file).flatMap fun dir => (fileNames s.projectMarkers).map dir.join

/-- The places that a pass over a file depends on. -/
def reach (h : Host) (s : Settings) (workspace : Option Path) (file : Path) : List Path :=
  [file] ++ markerPlaces s file ++ programPlaces h s file ++
    workspace.toList.map (·.join Settings.projectFile)

end LintBridge.Linter
