import LintBridge.Json.CodePoints

/-!
# Values checked field by field

A structured value that comes from outside is checked as a whole: every field is looked at and every
issue is reported, with the way to the place it concerns. An issue that cannot be put into words,
because they would repeat a text that cannot be encoded, **ends the check at once**: then there are
no issues to report.

* `LintBridge.Issue` – one issue: where it is and its cause, with its code and its words;
* `LintBridge.Checked` – a value, or the issues that prevent it, or what has ended the check. Checks
  of several fields are combined with `<*>`, which **collects the issues of both sides**;
* `LintBridge.CheckError` – the two ways in which there is no value.
-/

namespace LintBridge

/-- One choice on the way to a place inside a value. -/
inductive Selector where
  /-- Into a field. -/
  | field (name : String)
  /-- Into an item of a list. -/
  | index (n : Nat)
  deriving DecidableEq, Repr

/-- The text of a choice. -/
def Selector.text : Selector → String
  | .field name => name
  | .index n => toString n

/-- Why a value is refused. -/
inductive Cause where
  /-- A field that has no default is absent. -/
  | missing
  /-- Not a string. -/
  | notString
  /-- A text that cannot be encoded, where its value depends on its characters. -/
  | notUnicode
  /-- Not a list. -/
  | notList
  /-- Not a list, where its length is fixed once it is read. -/
  | notTuple
  /-- Of a kind that has no truth value. -/
  | notBool
  /-- Of a kind that may have a truth value, but without one. -/
  | unclearBool
  /-- Of a kind that has no integer. -/
  | notInt
  /-- A text that is no integer. -/
  | unclearInt
  /-- A number too large to be taken for an integer. -/
  | oversizedInt
  /-- A number with a fraction where an integer is due. -/
  | fractionalInt
  /-- An infinity, or no number, where an integer is due. -/
  | notFinite
  /-- Of a kind that has no number. -/
  | notNumber
  /-- A text that is no number. -/
  | unclearNumber
  /-- A number that is not greater than zero. -/
  | notPositive
  /-- A number less than a bound. -/
  | below (bound : Nat)
  /-- No severity. -/
  | notSeverity
  /-- Not an object, where the named structure is due. -/
  | notObject (structure_ : String)
  /-- Refused by a rule of the structure itself. -/
  | rejected (reason : String)
  /-- A field that the structure does not have. -/
  | noSuchField (name : String)
  deriving DecidableEq, Repr

/-- The code of a cause. -/
def Cause.code : Cause → String
  | .missing => "missing"
  | .notString => "string_type"
  | .notUnicode => "string_unicode"
  | .notList => "list_type"
  | .notTuple => "tuple_type"
  | .notBool => "bool_type"
  | .unclearBool => "bool_parsing"
  | .notInt => "int_type"
  | .unclearInt => "int_parsing"
  | .oversizedInt => "int_parsing_size"
  | .fractionalInt => "int_from_float"
  | .notFinite => "finite_number"
  | .notNumber => "float_type"
  | .unclearNumber => "float_parsing"
  | .notPositive => "greater_than"
  | .below _ => "greater_than_equal"
  | .notSeverity => "enum"
  | .notObject _ => "model_type"
  | .rejected _ => "value_error"
  | .noSuchField _ => "no_such_attribute"

/-- The words for a cause. -/
def Cause.message : Cause → String
  | .missing => "Field required"
  | .notString => "Input should be a valid string"
  | .notUnicode =>
    "Input should be a valid string, unable to parse raw data as a unicode string"
  | .notList => "Input should be a valid list"
  | .notTuple => "Input should be a valid tuple"
  | .notBool => "Input should be a valid boolean"
  | .unclearBool => "Input should be a valid boolean, unable to interpret input"
  | .notInt => "Input should be a valid integer"
  | .unclearInt => "Input should be a valid integer, unable to parse string as an integer"
  | .oversizedInt => "Unable to parse input string as an integer, exceeded maximum size"
  | .fractionalInt => "Input should be a valid integer, got a number with a fractional part"
  | .notFinite => "Input should be a finite number"
  | .notNumber => "Input should be a valid number"
  | .unclearNumber => "Input should be a valid number, unable to parse string as a number"
  | .notPositive => "Input should be greater than 0"
  | .below bound => s!"Input should be greater than or equal to {bound}"
  | .notSeverity => "Input should be 1, 2, 3 or 4"
  | .notObject name => s!"Input should be a valid dictionary or instance of {name}"
  | .rejected reason => s!"Value error, {reason}"
  | .noSuchField name => s!"Object has no attribute '{name}'"

/-- One issue of a value. -/
structure Issue where
  /-- The way to the place the issue concerns, empty for the value as a whole. -/
  path : List Selector
  /-- Why the place is refused. -/
  cause : Cause
  deriving DecidableEq, Repr

/-- The text of the way to an issue. -/
def Issue.location (issue : Issue) : String :=
  ".".intercalate (issue.path.map Selector.text)

/-- A value, or the issues that prevent it, or what has ended the check. -/
inductive Checked (α : Type) where
  /-- A value without issues. -/
  | valid (value : α)
  /-- The issues, in the order of the places they concern. -/
  | invalid (issues : List Issue)
  /-- An issue that cannot be put into words. -/
  | broken (fault : Json.Unencodable)

/-- Why there is no value after a check. -/
inductive CheckError where
  /-- The value has issues. -/
  | issues (issues : List Issue)
  /-- An issue cannot be put into words. -/
  | broken (fault : Json.Unencodable)
  deriving DecidableEq, Repr

namespace Checked

variable {α β : Type}

/-- The issues of a check, none for a valid value or where the check has ended. -/
def issues : Checked α → List Issue
  | .valid _ => []
  | .invalid issues => issues
  | .broken _ => []

/-- Applies a function to a valid value. -/
def map (f : α → β) : Checked α → Checked β
  | .valid a => .valid (f a)
  | .invalid issues => .invalid issues
  | .broken fault => .broken fault

/-- Applies a checked function to a checked value, collecting the issues of both. The check has
ended where either has, first that of the function. -/
def ap (f : Checked (α → β)) (a : Checked α) : Checked β :=
  match f, a with
  | .broken fault, _ => .broken fault
  | _, .broken fault => .broken fault
  | .valid f, .valid a => .valid (f a)
  | f, a => .invalid (f.issues ++ a.issues)

instance : Functor Checked := ⟨fun f a => map f a, fun b a => map (fun _ => b) a⟩

instance : Applicative Checked where
  pure := .valid
  seq f a := ap f (a ())

/-- Goes on with a valid value; a check that depends on the value does not run without it. -/
def andThen (a : Checked α) (f : α → Checked β) : Checked β :=
  match a with
  | .valid a => f a
  | .invalid issues => .invalid issues
  | .broken fault => .broken fault

/-- One issue with the value as a whole. -/
def refuse (cause : Cause) : Checked α :=
  .invalid [⟨[], cause⟩]

/-- Places the issues of a check one choice further inside. -/
def under (selector : Selector) : Checked α → Checked α
  | .valid a => .valid a
  | .invalid issues =>
    .invalid (issues.map fun issue => { issue with path := selector :: issue.path })
  | .broken fault => .broken fault

/-- The valid value, or why there is none as an error. -/
def toExcept : Checked α → Except CheckError α
  | .valid a => .ok a
  | .invalid issues => .error (.issues issues)
  | .broken fault => .error (.broken fault)

/-- Checks the items of a list, each under its index from `start` on. -/
def items (check : β → Checked α) (start : Nat) : List β → Checked (List α)
  | [] => .valid []
  | b :: rest => ap (map List.cons ((check b).under (.index start))) (items check (start + 1) rest)

end Checked

end LintBridge
