import LintBridge.Path
import LintBridge.Text.Percent
import LintBridge.Uri.Split

/-!
# File URIs and paths

The editor names documents by URI, the linter by path or by URI. The two are converted here: a file
URI stands for the path that its percent-decoded path part spells, and a path is written as a file
URI with everything but letters, digits, marks and slashes encoded. A path that begins with a drive
letter is kept readable, with the letter in lower case.

* `LintBridge.Uri.isFile` – whether a target is a file URI;
* `LintBridge.Uri.fileText?`, `LintBridge.Uri.toPath?` – the path behind a file URI;
* `LintBridge.Uri.ofPathText`, `LintBridge.Uri.ofPathCodePoints` – the file URI of a path, which has
  none if there are surrogates in it;
* `LintBridge.Uri.ofTarget` – a target that is a path becomes a URI, and **a URI stays as it is**;
* `LintBridge.Uri.pathText` – a target that is a file URI becomes a path, and all others stay.
-/

namespace LintBridge.Uri

open Json (CodePoints)

/-- The scheme of files. -/
def fileScheme : String := "file"

/-- Whether a target is a file URI. -/
def isFile (target : String) : Except Error Bool := do
  return (← split target).scheme == fileScheme

/-- The path text behind a file URI; absent for other targets. -/
def fileText? (target : String) : Except Error (Option String) := do
  let parts ← split target
  if parts.scheme != fileScheme then return none
  let authority := (Text.Percent.decodeAfter [] parts.authority)
  let path := (Text.Percent.decodeAfter [] parts.path)
  if !authority.isEmpty && !path.isEmpty then
    return some (String.ofList ('/' :: '/' :: authority ++ path))
  else
    match path with
    | '/' :: c :: ':' :: rest =>
      if c.isAlpha then return some (String.ofList (c.toLower :: ':' :: rest))
      else return some (String.ofList path)
    | _ => return some (String.ofList path)

/-- The path behind a file URI; absent for other targets and where the URI spells no path. -/
def toPath? (target : String) : Except Error (Option Path) := do
  match ← fileText? target with
  | some "" => return none
  | some text => return some (Path.ofString text)
  | none => return none

/-- A path text split into the host that two slashes introduce and the path below it. -/
def splitHost : List Char → Except Error (List Char × List Char)
  | '/' :: '/' :: rest =>
    let host := rest.takeWhile (· != '/')
    match rest.drop host.length with
    | [] => .error .noHostEnd
    | below => .ok (host, below)
  | path => .ok ([], path)

/-- A path text with a slash in front. -/
def withSlash : List Char → List Char
  | '/' :: rest => '/' :: rest
  | path => '/' :: path

/-- A path written out, its drive letter in lower case and its colon kept. -/
def encodePath : List Char → List Char
  | '/' :: c :: ':' :: rest =>
    if c.isAlpha then '/' :: c.toLower :: ':' :: (Text.Percent.encode (String.ofList rest)).toList
    else (Text.Percent.encode (String.ofList ('/' :: c :: ':' :: rest))).toList
  | path => (Text.Percent.encode (String.ofList path)).toList

/-- The file URI of a path text. -/
def ofPathText (text : String) : Except Error String := do
  let (host, path) ← splitHost text.toList
  let host := (Text.Percent.encode (String.ofList host)).toList
  let path := encodePath (withSlash path)
  let body :=
    match host, path with
    | [], '/' :: '/' :: _ => path
    | host, path => '/' :: '/' :: host ++ path
  return fileScheme ++ ":" ++ String.ofList body

/-- Whether a target begins with a letter and a colon, as a path with a drive does. -/
def looksLikeDrive (target : String) : Bool :=
  match target.toList with
  | c :: ':' :: _ => c.isAlpha
  | _ => false

/-- A path that may hold surrogates, with a slash in front. -/
def rooted (path : CodePoints) : CodePoints :=
  if path.head? == some (.scalar '/') then path else .scalar '/' :: path

/-- What follows the drive letter and its colon, or all of a path without them. -/
def belowDrive (path : CodePoints) : CodePoints :=
  match path with
  | .scalar '/' :: .scalar c :: .scalar ':' :: rest => if c.isAlpha then rest else path
  | _ => path

/-- The part of a path that is percent-encoded: all of it with a slash in front, except for a drive.
-/
def encodedPart (path : CodePoints) : CodePoints :=
  belowDrive (rooted path)

/-- The file URI of a path text that may hold surrogates. Its path is encoded before its host. -/
def ofPathCodePoints (text : CodePoints) : Except Error String := do
  let (_, path) ← splitHost text.toString.toList
  let start := text.length - path.length
  let _ ← (CodePoints.encode? (encodedPart (text.drop start))).mapError .unencodable
  let _ ← (CodePoints.encode? ((text.take start).drop 2)).mapError .unencodable
  ofPathText text.toString

/-- A target as a URI. -/
def ofTarget (target : CodePoints) : Except Error CodePoints := do
  if (← split target.toString).scheme != "" && !looksLikeDrive target.toString then
    return target
  else
    return .ofString (← ofPathCodePoints target)

/-- A target as a path text. -/
def pathText (target : String) : Except Error String := do
  match ← fileText? target with
  | some "" => return target
  | some text => return text
  | none => return target

end LintBridge.Uri
