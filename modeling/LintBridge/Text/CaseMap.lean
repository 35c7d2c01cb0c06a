import LintBridge.Text.CaseTable

/-!
# Lower case, upper case and case folding

The full case mappings of Unicode: a character may become several (`İ` lowers to `i` and a combining
dot, `ß` folds to `ss`), and a capital sigma at the end of a word lowers to the final form `ς`.

* `LintBridge.Text.lower` – lower case, with the final-sigma rule;
* `LintBridge.Text.upper` – upper case;
* `LintBridge.Text.foldCase` – the form in which texts are compared when case is not to matter.
-/

namespace LintBridge.Text

/-- The characters a case table sends a character to, the character itself where it is not listed.
-/
def mapCase (runs : List CaseRun) (specials : List (Nat × List Nat)) (c : Char) : List Char :=
  let n := c.val.toNat
  match specials.find? (·.1 == n) with
  | some (_, ns) => ns.map Char.ofNat
  | none =>
    match runs.findSome? (·.shift? n) with
    | some m => [Char.ofNat m]
    | none => [c]

/-- The lower-case form of a character on its own. -/
def lowerChar (c : Char) : List Char :=
  if c.val < 128 then [c.toLower] else mapCase lowerRuns lowerSpecials c

/-- The upper-case form of a character. -/
def upperChar (c : Char) : List Char :=
  if c.val < 128 then [c.toUpper] else mapCase upperRuns upperSpecials c

/-- The form of a character in which case does not matter. -/
def foldChar (c : Char) : List Char :=
  if c.val < 128 then [c.toLower] else mapCase foldRuns foldSpecials c

/-- Membership in a list of ranges of code points. -/
def inRanges (ranges : List (Nat × Nat)) (c : Char) : Bool :=
  ranges.any fun (first, last) => first ≤ c.val.toNat && c.val.toNat ≤ last

/-- Characters the final-sigma rule looks through. -/
def isCaseIgnorable (c : Char) : Bool :=
  inRanges caseIgnorableRanges c

/-- Characters that have case, apart from those the final-sigma rule looks through. -/
def isCased (c : Char) : Bool :=
  inRanges casedRanges c

/-- The first character that the final-sigma rule does not look through has case. -/
def nextIsCased (cs : List Char) : Bool :=
  match cs.dropWhile isCaseIgnorable with
  | [] => false
  | c :: _ => isCased c

/-- Lower case of the characters `cs` that follow `before`, which is held nearest first. A capital
sigma takes its final form when a letter with case stands before it and none follows. -/
def lowerAfter (before : List Char) : List Char → List Char
  | [] => []
  | c :: rest =>
    let image :=
      if c == 'Σ' then
        if nextIsCased before && !nextIsCased rest then ['ς'] else ['σ']
      else lowerChar c
    image ++ lowerAfter (c :: before) rest

/-- The lower-case form of a list of characters. -/
def lowerList (cs : List Char) : List Char :=
  lowerAfter [] cs

/-- The lower-case form of a text. -/
def lower (s : String) : String :=
  String.ofList (lowerList s.toList)

/-- The upper-case form of a text. -/
def upper (s : String) : String :=
  String.ofList (s.toList.flatMap upperChar)

/-- The form of a text in which case does not matter. -/
def foldCase (s : String) : String :=
  String.ofList (s.toList.flatMap foldChar)

end LintBridge.Text
