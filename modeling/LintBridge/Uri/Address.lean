import LintBridge.Text.Digit
import LintBridge.Text.Split

/-!
# Internet addresses

A host between square brackets in a URI must be an IPv6 address or one of a future version. This
module decides which texts are addresses; their values are not needed.

* `LintBridge.Uri.isIpv4` – four decimal octets without leading zeros;
* `LintBridge.Uri.isIpv6` – eight groups of hexadecimal digits, a run of zero groups abbreviated,
  the last two possibly written as an IPv4 address, and an optional zone;
* `LintBridge.Uri.isFutureAddress` – a version number and a non-empty address after a point.
-/

namespace LintBridge.Uri

open LintBridge.Text (splitOn)

/-- A decimal octet of an IPv4 address. -/
def isOctet (part : List Char) : Bool :=
  !part.isEmpty && part.length ≤ 3 && part.all Char.isDigit &&
    (part.length == 1 || part.head? != some '0') && Text.decimalValue part ≤ 255

/-- An IPv4 address. -/
def isIpv4 (host : List Char) : Bool :=
  let parts := splitOn '.' host
  parts.length == 4 && parts.all isOctet

/-- A group of an IPv6 address. -/
def isGroup (part : List Char) : Bool :=
  !part.isEmpty && part.length ≤ 4 && part.all fun c => (Text.hexValue? c).isSome

/-- The groups of an IPv6 address with an IPv4 address at its end written as two groups. -/
def expandIpv4 (parts : List (List Char)) : Option (List (List Char)) :=
  match parts.getLast? with
  | some last =>
    if last.contains '.' then
      if isIpv4 last then some (parts.dropLast ++ [['0'], ['0']]) else none
    else some parts
  | none => some parts

/-- Whether the parts between the colons are the groups of an address. At most one part between the
first and the last may be empty, which stands for the groups left out; then the first or the last
may be empty as well, if it is the neighbour of that part. -/
def areGroups (parts : List (List Char)) : Bool :=
  let inner := (parts.drop 1).dropLast
  match (List.range inner.length).filter fun i => inner[i]? == some [] with
  | [] => parts.length == 8 && parts.all isGroup
  | [i] =>
    let front := parts.take (i + 1)
    let back := parts.drop (i + 2)
    let front := if front == [[]] then [] else front
    let back := if back == [[]] then [] else back
    front.length + back.length < 8 && front.all isGroup && back.all isGroup
  | _ => false

/-- An IPv6 address. -/
def isIpv6 (host : List Char) : Bool :=
  match splitOn '%' host with
  | [address] => check address
  | [address, zone] => !zone.isEmpty && check address
  | _ => false
where
  /-- The address without its zone. -/
  check (address : List Char) : Bool :=
    let parts := splitOn ':' address
    3 ≤ parts.length &&
      match expandIpv4 parts with
      | some parts => parts.length ≤ 9 && areGroups parts
      | none => false

/-- An address of a future version, which begins with `v`. -/
def isFutureAddress (host : List Char) : Bool :=
  match host with
  | 'v' :: rest =>
    let version := rest.takeWhile fun c => (Text.hexValue? c).isSome
    match rest.drop version.length with
    | '.' :: address => !version.isEmpty && !address.isEmpty && address.all (· != '\n')
    | _ => false
  | _ => false

end LintBridge.Uri
