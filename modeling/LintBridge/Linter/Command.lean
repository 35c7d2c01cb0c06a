import LintBridge.Host.Search
import LintBridge.Settings

/-!
# The command line of the linter

* `LintBridge.Linter.commandFor` – the command line that lints a file or, if the settings say so,
  the whole project;
* `LintBridge.Linter.resolve` – a command line whose program is found on the host. An absolute path
  is taken for what it is, without a look at the files.
-/

namespace LintBridge.Linter

/-- The command line that lints a file; without a file, or for a whole project, it names none. -/
def commandFor (s : Settings) (file : Option Path) : List Json.CodePoints :=
  let base := s.executable :: s.lintArgs
  match file with
  | some p => if s.lintWholeProject then base else base ++ [.ofString p.toString]
  | none => base

/-- Why the program of a command line is not found. -/
inductive CommandError where
  /-- There is no program in it. -/
  | empty
  /-- No such program is on the search path. -/
  | notFound (program : String)
  deriving DecidableEq, Repr

/-- The words for a command line whose program is not found. -/
def CommandError.message : CommandError → String
  | .empty => "subprocess command requires at least one argument"
  | .notFound program => s!"Executable '{program}' was not found on PATH"

/-- The command line with the place of its program. -/
def resolve (h : Host) : List String → Except CommandError (List String)
  | [] => .error .empty
  | head :: rest =>
    let path := Path.ofString head
    if path.isAbsolute then .ok (path.toString :: rest)
    else
      match h.findProgram head with
      | some place => .ok (place :: rest)
      | none => .error (.notFound head)

end LintBridge.Linter
