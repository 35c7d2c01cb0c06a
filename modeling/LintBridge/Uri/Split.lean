import LintBridge.Json.CodePoints
import LintBridge.Text.Quoted
import LintBridge.Text.Split
import LintBridge.Uri.Address

/-!
# The parts of a URI

A target that the linter or the editor names is a URI if it begins with a scheme. Splitting it is
lenient: control characters and spaces at the front, and tabs and line ends anywhere, are dropped,
and what has no scheme is all path. Only the authority, the part between `//` and the next `/`, `?`
or `#`, can be refused.

* `LintBridge.Uri.Parts` – scheme, authority and path, still percent-encoded;
* `LintBridge.Uri.split` – the parts of a target;
* `LintBridge.Uri.Error` – why an authority is refused, with `LintBridge.Uri.Error.message`.
-/

namespace LintBridge.Uri

/-- Why a target has no parts, or a path no URI. -/
inductive Error where
  /-- Square brackets out of place. -/
  | badBrackets
  /-- The address of a future version is not well formed. -/
  | badFutureAddress
  /-- An IPv4 address between square brackets. -/
  | bracketedIpv4
  /-- Something else between square brackets. -/
  | notAnAddress (host : String)
  /-- An authority that would hold a delimiter once its compatibility characters are replaced. -/
  | hiddenDelimiter (authority : String)
  /-- A path that begins with two slashes and has no third. -/
  | noHostEnd
  /-- A path, or the host in front of it, that cannot be encoded. -/
  | unencodable (fault : Json.Unencodable)
  deriving DecidableEq, Repr

/-- The words for an error. -/
def Error.message : Error → String
  | .badBrackets => "Invalid IPv6 URL"
  | .badFutureAddress => "IPvFuture address is invalid"
  | .bracketedIpv4 => "An IPv4 address cannot be in brackets"
  | .notAnAddress host => s!"{Text.quoted host} does not appear to be an IPv4 or IPv6 address"
  | .hiddenDelimiter authority =>
    s!"netloc '{authority}' contains invalid characters under NFKC normalization"
  | .noHostEnd => "substring not found"
  | .unencodable fault => fault.message

/-- The parts of a target. -/
structure Parts where
  /-- The scheme in lower case, empty where there is none. -/
  scheme : String
  /-- The authority, empty where there is none. -/
  authority : List Char
  /-- The path. -/
  path : List Char

/-- The characters of a scheme. -/
def isSchemeChar (c : Char) : Bool :=
  c.isAlphanum || c == '+' || c == '-' || c == '.'

/-- Splits the scheme off, which begins with a letter and ends before the first colon. -/
def splitScheme (s : List Char) : String × List Char :=
  let front := s.takeWhile (· != ':')
  match s.drop front.length with
  | ':' :: rest =>
    match front with
    | c :: _ =>
      if c.isAlpha && front.all isSchemeChar then
        (String.ofList (front.map Char.toLower), rest)
      else ("", s)
    | [] => ("", s)
  | _ => ("", s)

/-- Splits the authority off. -/
def splitAuthority : List Char → List Char × List Char
  | '/' :: '/' :: rest =>
    let isEnd := fun c => c == '/' || c == '?' || c == '#'
    (rest.takeWhile (!isEnd ·), rest.dropWhile (!isEnd ·))
  | s => ([], s)

/-- Checks a host that was written between square brackets. -/
def checkBracketedHost (host : List Char) : Except Error Unit :=
  if host.head? == some 'v' then
    if isFutureAddress host then .ok () else .error .badFutureAddress
  else if isIpv4 host then .error .bracketedIpv4
  else if isIpv6 host then .ok ()
  else .error (.notAnAddress (String.ofList host))

/-- Checks the square brackets of an authority: they come in pairs, nothing but a port follows them,
and nothing but user information stands before them. -/
def checkBrackets (authority : List Char) : Except Error Unit :=
  match authority.contains '[', authority.contains ']' with
  | false, false => .ok ()
  | true, true =>
    let hostAndPort := Text.afterLast '@' authority
    let before := hostAndPort.takeWhile (· != '[')
    match hostAndPort.drop before.length with
    | '[' :: inside =>
      let host := inside.takeWhile (· != ']')
      let port := (inside.drop host.length).drop 1
      if !before.isEmpty then .error .badBrackets
      else if !port.isEmpty && port.head? != some ':' then .error .badBrackets
      else checkBracketedHost host
    | _ => checkBracketedHost (hostAndPort.takeWhile (· != ':'))
  | _, _ => .error .badBrackets

/-- The characters whose compatibility form holds one of the delimiters `/`, `?`, `#`, `@` and `:`.
-/
def hidesDelimiter (c : Char) : Bool :=
  [0x2047, 0x2048, 0x2049, 0x2100, 0x2101, 0x2105, 0x2106, 0x2A74, 0xFE13, 0xFE16, 0xFE55, 0xFE56,
   0xFE5F, 0xFE6B, 0xFF03, 0xFF0F, 0xFF1A, 0xFF1F, 0xFF20].contains c.val.toNat

/-- Checks that no character of an authority hides a delimiter. -/
def checkDelimiters (authority : List Char) : Except Error Unit :=
  if authority.any hidesDelimiter then .error (.hiddenDelimiter (String.ofList authority))
  else .ok ()

/-- The parts of a target. -/
def split (target : String) : Except Error Parts := do
  let visible := (target.toList.dropWhile (·.val ≤ 32)).filter fun c =>
    c != '\t' && c != '\r' && c != '\n'
  let (scheme, rest) := splitScheme visible
  let (authority, rest) := splitAuthority rest
  checkBrackets authority
  checkDelimiters authority
  let path := (rest.takeWhile (· != '#')).takeWhile (· != '?')
  return { scheme, authority, path }

end LintBridge.Uri
