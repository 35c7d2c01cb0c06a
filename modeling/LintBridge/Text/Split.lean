/-!
# Cutting a text at a character

* `LintBridge.Text.splitOn` – the parts between the occurrences of a separator, one more than there
  are occurrences;
* `LintBridge.Text.afterLast` – what follows the last occurrence.
-/

namespace LintBridge.Text

variable {α : Type} [BEq α]

/-- The parts of a list between the occurrences of a separator. -/
def splitOn (sep : α) : List α → List (List α)
  | [] => [[]]
  | x :: rest =>
    if x == sep then [] :: splitOn sep rest
    else
      match splitOn sep rest with
      | [] => [[x]]
      | part :: parts => (x :: part) :: parts

/-- What follows the last occurrence of a separator, everything where there is none. -/
def afterLast (sep : α) (xs : List α) : List α :=
  (xs.reverse.takeWhile (· != sep)).reverse

end LintBridge.Text
