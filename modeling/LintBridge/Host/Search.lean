import LintBridge.Host.Tree

/-!
# Finding a program

A program is named by a path or by a bare name. A path with a slash is taken as it is; a bare name
is looked for in the directories of the search path, in order.

* `LintBridge.Host.isRunnable` – whether a path text leads to a file that may be run;
* `LintBridge.Host.findProgram` – **the first place where a program of the given name is**.
-/

namespace LintBridge.Host

/-- Whether a path text leads to a file that may be run. -/
def isRunnable (h : Host) (path : String) : Bool :=
  match h.find path with
  | .ok (_, e) => e.isExecutable
  | .error _ => false

/-- The directories of the search path. An empty search path has none; an empty directory is the
current one. -/
def searchDirectories (h : Host) : List String :=
  if h.searchPath.isEmpty then [] else (Text.splitOn ':' h.searchPath.toList).map String.ofList

/-- A name below a directory, with one slash between them. -/
def below (directory name : String) : String :=
  if directory.isEmpty then name
  else if directory.endsWith "/" then directory ++ name
  else directory ++ "/" ++ name

/-- The text of the place where a program is found. -/
def findProgram (h : Host) (name : String) : Option String :=
  if name.contains '/' then
    if h.isRunnable name then some name else none
  else (h.searchDirectories.map fun dir => below dir name).find? h.isRunnable

end LintBridge.Host
