import LintBridge.Host.Run
import LintBridge.Shell.Run

/-!
# A system without anything installed

* `LintBridge.Shell.systemTree` – the directories and the programs that come with the system;
* `LintBridge.Shell.system` – **how it runs files**: scripts of the shell and its own programs.
-/

namespace LintBridge.Shell

/-- The programs that come with the system. -/
def programNames : List String :=
  shellNames ++ ["env"] ++ Tool.names

/-- The directories and the programs that come with the system. -/
def systemTree : Host.Tree :=
  let directories :=
    [["tmp"], ["usr", "bin"], ["usr", "sbin"], ["usr", "local", "bin"], ["usr", "local", "sbin"]]
  let entries : List (List String × Host.Entry) :=
    directories.map (·, .directory) ++
    programNames.map (fun name => (["usr", "bin", name], .program name)) ++
    [(["bin"], .link "usr/bin"), (["sbin"], .link "usr/sbin"), (["dev", "null"], .file [] false)]
  entries.foldl (fun t (place, e) => t.add place e) {}

/-- How deep programs may start programs. -/
def maxDepth : Nat := 10000

/-- What the shell knows of a run, for those outside. -/
def Finished.toRun (f : Finished) : Host.Run where
  out := f.out.toBytes
  err := f.err.toBytes
  elapsed := f.elapsed
  exit := match f.ending with
    | .status n => .status n
    | .signal n => .signal n

/-- How the system runs files. -/
def system : Host.Runner := fun h _ path command =>
  let words := command.map Octets.ofString
  (runFile maxDepth { host := h } (words.headD []) (.ofString path) words.tail).map Finished.toRun

end LintBridge.Shell
