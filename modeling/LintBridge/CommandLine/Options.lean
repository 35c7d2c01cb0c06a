import LintBridge.Text.Split

/-!
# Options on a command line

Options have long names, with two hyphens, and short names of one letter. A value follows in the
next argument, after an equals sign, or directly after a short name; short flags may be written
together. After two hyphens alone nothing is an option. **The last of several values of an option
counts.**

* `LintBridge.CommandLine.OptionSpec` – an option that a command has;
* `LintBridge.CommandLine.Arguments` – what a command line says, with `flag?` and `value?`;
* `LintBridge.CommandLine.readArguments` – a command line read.
-/

namespace LintBridge.CommandLine

/-- What an option says. -/
inductive Setting where
  /-- Yes or no. -/
  | flag (on : Bool)
  /-- A value. -/
  | value (text : String)
  deriving DecidableEq, Repr

/-- An option that a command has. -/
structure OptionSpec where
  /-- What it is about. -/
  key : String
  /-- Its names, with their hyphens. -/
  names : List String
  /-- What it says if it is a flag; otherwise it takes a value. -/
  flag : Option Bool := none
  deriving DecidableEq, Repr

/-- What a command line says. -/
structure Arguments where
  /-- The options, in order. -/
  options : List (String × Setting) := []
  /-- The other arguments, in order. -/
  positional : List String := []
  deriving DecidableEq, Repr

/-- What is wrong with a command line. -/
inductive UsageError where
  /-- There is no such option. -/
  | unknownOption (name : String)
  /-- The value of an option is missing. -/
  | missingValue (name : String)
  /-- A flag has a value. -/
  | unexpectedValue (name : String)
  /-- No command is named. -/
  | missingCommand
  /-- There is no such command. -/
  | unknownCommand (name : String)
  /-- An argument is missing. -/
  | missingArgument (name : String)
  /-- There is an argument too many. -/
  | extraArgument (text : String)
  /-- A value is not among those possible. -/
  | badValue (name : String)
  deriving DecidableEq, Repr

/-- The words for what is wrong. -/
def UsageError.message : UsageError → String
  | .unknownOption name => s!"No such option: {name}"
  | .missingValue name => s!"Option '{name}' requires an argument."
  | .unexpectedValue name => s!"Option '{name}' does not take a value."
  | .missingCommand => "Missing command."
  | .unknownCommand name => s!"No such command '{name}'."
  | .missingArgument name => s!"Missing argument '{name}'."
  | .extraArgument text => s!"Got unexpected extra argument ({text})"
  | .badValue name => s!"Invalid value for '{name}'."

namespace Arguments

/-- Puts an argument before the others. -/
def withPositional (a : Arguments) (text : String) : Arguments :=
  { a with positional := text :: a.positional }

/-- What an option says, if it is there; the last one counts. -/
def find? (a : Arguments) (key : String) : Option Setting :=
  a.options.reverse.lookup key

/-- What a flag says, if it is there. -/
def flag? (a : Arguments) (key : String) : Option Bool :=
  match a.find? key with
  | some (.flag b) => some b
  | _ => none

/-- The value of an option, if it is there. -/
def value? (a : Arguments) (key : String) : Option String :=
  match a.find? key with
  | some (.value v) => some v
  | _ => none

end Arguments

/-- The option of a name. -/
def specOf? (specs : List OptionSpec) (name : String) : Option OptionSpec :=
  specs.find? fun s => s.names.contains name

/-- An argument divided at its first equals sign. -/
def divide (arg : String) : String × Option String :=
  let name := arg.toList.takeWhile (· != '=')
  match arg.toList.drop name.length with
  | _ :: value => (String.ofList name, some (String.ofList value))
  | [] => (arg, none)

/-- The short options that are written together: the flags, and possibly an option at the end that
takes a value, with the value if it is attached. -/
def readShort (specs : List OptionSpec) :
    List Char → Except UsageError (List (String × Setting) × Option (OptionSpec × Option String))
  | [] => .ok ([], none)
  | c :: rest =>
    let name := String.ofList ['-', c]
    match specOf? specs name with
    | none => .error (.unknownOption name)
    | some spec =>
      match spec.flag with
      | some on => do
        let (flags, last) ← readShort specs rest
        return ((spec.key, .flag on) :: flags, last)
      | none => .ok ([], some (spec, if rest.isEmpty then none else some (String.ofList rest)))

/-- Whether an argument is written like an option. -/
def looksLikeOption (arg : String) : Bool :=
  arg.startsWith "-" && arg != "-"

/-- The long or short options in one argument; at the end possibly one whose value is to follow. -/
def readOption (specs : List OptionSpec) (arg : String) :
    Except UsageError (List (String × Setting) × Option OptionSpec) :=
  if arg.startsWith "--" then
    let (name, value) := divide arg
    match specOf? specs name with
    | none => .error (.unknownOption name)
    | some spec =>
      match spec.flag, value with
      | some on, none => .ok ([(spec.key, .flag on)], none)
      | some _, some _ => .error (.unexpectedValue name)
      | none, some v => .ok ([(spec.key, .value v)], none)
      | none, none => .ok ([], some spec)
  else
    match readShort specs (arg.toList.drop 1) with
    | .error e => .error e
    | .ok (flags, none) => .ok (flags, none)
    | .ok (flags, some (spec, some v)) => .ok (flags ++ [(spec.key, .value v)], none)
    | .ok (flags, some (spec, none)) => .ok (flags, some spec)

/-- A command line read. Where options may not come after other arguments, the first of those ends
them. -/
def readArguments (specs : List OptionSpec) (mixed : Bool) :
    List String → Except UsageError Arguments
  | [] => .ok {}
  | arg :: rest =>
    if arg == "--" then .ok { positional := rest }
    else if looksLikeOption arg then do
      let (options, awaiting) ← readOption specs arg
      match awaiting, rest with
      | none, rest =>
        let a ← readArguments specs mixed rest
        return { a with options := options ++ a.options }
      | some _, [] => .error (.missingValue arg)
      | some spec, value :: rest =>
        let a ← readArguments specs mixed rest
        return { a with options := options ++ (spec.key, .value value) :: a.options }
    else if mixed then do
      return (← readArguments specs mixed rest).withPositional arg
    else .ok { positional := arg :: rest }

end LintBridge.CommandLine
