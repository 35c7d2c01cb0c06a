import LintBridge.Text.Utf8

/-!
# Shell scripts

Linters are often wrapped in small shell scripts. A script is a list of commands: simple ones, which
are words, and compound ones, which hold scripts of their own.

The shell works on octets, whatever text they stand for. An octet is **the character of its
number**, so that scripts can be read as lists of characters.

* `LintBridge.Shell.Octets` – texts of octets, with `ofString` and `toString`;
* `LintBridge.Shell.Piece` – the parts of a word;
* `LintBridge.Shell.Redirection` – what leads input and output elsewhere;
* `LintBridge.Shell.Command` – commands.
-/

namespace LintBridge.Shell

/-- A text of octets, each the character of its number. -/
abbrev Octets := List Char

/-- Octets as a text of octets. -/
def Octets.ofBytes (bs : List UInt8) : Octets :=
  bs.map fun b => Char.ofNat b.toNat

/-- A text of octets as octets. -/
def Octets.toBytes (t : Octets) : List UInt8 :=
  t.map fun c => UInt8.ofNat c.toNat

/-- A string in UTF-8. -/
def Octets.ofString (s : String) : Octets :=
  ofBytes (Text.Utf8.encode s)

/-- The string that a text stands for in UTF-8. -/
def Octets.toString (t : Octets) : String :=
  String.ofList (Text.Utf8.decodeReplacing t.toBytes)

/-- A blank between words. -/
def isGap (c : Char) : Bool :=
  c == ' ' || c == '\t'

/-! ### Commands -/

/-- One of the two outputs of a command. -/
inductive Output where
  /-- Standard output. -/
  | standard
  /-- Standard error. -/
  | error
  deriving DecidableEq, Repr

/-- What happens to a parameter that has no value, or that has one. -/
inductive Fallback where
  /-- A word stands for the missing value. -/
  | given
  /-- A word becomes the missing value. -/
  | kept
  /-- A word stands for a value that is there. -/
  | instead
  /-- The missing value is a fault. -/
  | required
  deriving DecidableEq, Repr

/-- An end of a text. -/
inductive Side where
  /-- Where it begins. -/
  | front
  /-- Where it ends. -/
  | back
  deriving DecidableEq, Repr

mutual

/-- A part of a word. The flag tells whether it stands between quotation marks. -/
inductive Piece where
  /-- Characters that stand for themselves. -/
  | text (t : Octets) (quoted : Bool)
  /-- The value of a parameter. -/
  | parameter (name : Octets) (quoted : Bool)
  /-- How long the value of a parameter is. -/
  | length (name : Octets) (quoted : Bool)
  /-- The value of a parameter with a fallback; if it is strict, an empty value counts as none. -/
  | fallback (name : Octets) (kind : Fallback) (strict : Bool) (word : List Piece) (quoted : Bool)
  /-- The value of a parameter without the shortest or longest match of a pattern at one end. -/
  | trimmed (name : Octets) (side : Side) (longest : Bool) (pattern : List Piece) (quoted : Bool)
  /-- The value of an arithmetic expression. -/
  | sum (expression : List Piece) (quoted : Bool)
  /-- What a script prints. -/
  | output (script : List Command) (quoted : Bool)

/-- A redirection. -/
inductive Redirection where
  /-- Input comes from the file that a word names. -/
  | source (name : List Piece)
  /-- Input is a text. -/
  | document (body : List Piece)
  /-- An output leads to the file that a word names, perhaps after what is there. -/
  | target (output : Output) (appending : Bool) (name : List Piece)
  /-- An output leads to where another one leads. -/
  | same (output other : Output)

/-- A branch of a command that selects by patterns. -/
inductive Branch where
  /-- The patterns, and what is run if one of them matches. -/
  | mk (patterns : List (List Piece)) (body : List Command)

/-- A command. -/
inductive Command where
  /-- A command with its line in the script and its words. -/
  | simple (line : Nat) (words : List (List Piece))
  /-- A command with redirections. -/
  | redirected (line : Nat) (command : Command) (redirections : List Redirection)
  /-- The second command reads what the first one prints. -/
  | pipe (first second : Command)
  /-- The second command runs if the first one succeeds. -/
  | and (first second : Command)
  /-- The second command runs if the first one fails. -/
  | or (first second : Command)
  /-- A command that succeeds if another one fails. -/
  | not (command : Command)
  /-- A command that nobody waits for. -/
  | background (command : Command)
  /-- Commands in this shell. -/
  | group (body : List Command)
  /-- Commands in a shell of their own. -/
  | subshell (body : List Command)
  /-- One of two bodies, by a condition. -/
  | choice (condition body other : List Command)
  /-- A body that is run again while a condition succeeds, or while it fails. -/
  | loop (wanted : Bool) (condition body : List Command)
  /-- A body that is run for each of several words, or for each argument. -/
  | each (name : Octets) (words : Option (List (List Piece))) (body : List Command)
  /-- The first branch that matches a word. -/
  | select (word : List Piece) (branches : List Branch)
  /-- The definition of a function. -/
  | define (name : Octets) (body : Command)

end

instance : Inhabited Command := ⟨.simple 0 []⟩

/-- A word. -/
abbrev Word := List Piece

/-- A script. -/
abbrev Script := List Command

end LintBridge.Shell
