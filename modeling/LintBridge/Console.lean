import LintBridge.Report
import LintBridge.Text.Split

/-!
# Lines on the console

What the program tells whoever runs it, one message after another. A message has a mark and a colour
by its kind; failures go to standard error.

* `LintBridge.Console.Kind` – the kinds of messages;
* `LintBridge.Console.render` – a message as it is printed, **each line of it in colour by itself**.
-/

namespace LintBridge.Console

/-- A kind of message. -/
inductive Kind where
  /-- Something to know. -/
  | info
  /-- Something went well. -/
  | ok
  /-- Something is not well. -/
  | warn
  /-- Something failed. -/
  | fail
  deriving DecidableEq, Repr

/-- The mark before a message. -/
def Kind.mark : Kind → String
  | .info => "\u2139\uFE0F "
  | .ok => "\u2705 "
  | .warn => "\u26A0\uFE0F "
  | .fail => "\u274C "

/-- The number of the colour of a message. -/
def Kind.colour : Kind → Nat
  | .info => 36
  | .ok => 32
  | .warn => 33
  | .fail => 31

/-- Whether a message goes to standard error. -/
def Kind.isError : Kind → Bool
  | .fail => true
  | _ => false

/-- A text in a colour; an empty one needs none. -/
def coloured (colour : Nat) (s : String) : String :=
  if s.isEmpty then s else s!"\x1b[{colour}m{s}\x1b[0m"

/-- Whether messages are in colour: on a terminal, unless they are not to be. -/
def isColoured (terminal : Bool) (wanted : Option Bool) : Bool :=
  terminal && wanted.getD true

/-- A message as it is printed. -/
def render (kind : Kind) (marked inColour : Bool) (message : String) : String :=
  let text := Report.printable ((if marked then kind.mark else "") ++ message)
  let lines := (Text.splitOn '\n' text.toList).map String.ofList
  String.join (lines.map fun l => (if inColour then coloured kind.colour l else l) ++ "\n")

end LintBridge.Console
