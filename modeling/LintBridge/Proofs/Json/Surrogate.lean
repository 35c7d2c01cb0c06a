import LintBridge.Json.Reader
import LintBridge.Proofs.Json.CodePoints
import LintBridge.Proofs.Result

/-!
# Documents with surrogates in them

The text of an inner document may hold surrogates, and its strings keep them. The reader takes the
same way through it as through the document with characters in their place, since how a string is
read says what it stands for, and not where it ends (`LintBridge.Json.Step.Follows`). **So it fails
where that document fails, and for the same reason** (`LintBridge.Json.readText_eq_error`), and
without surrogates the two are read alike (`LintBridge.Json.readText_ofString`).
-/

namespace LintBridge.Json

/-- Two steps **take the same way**: they leave the same rest, or fail for the same reason. -/
def Step.Follows {α : Type} (step step' : Step α) : Prop :=
  ∀ s, (step s).map Prod.snd = (step' s).map Prod.snd

section Follows

variable {string string' : Step CodePoints} {item item' : Step Value}

theorem readItems_follows (hitem : item.Follows item') (fuel : Nat) :
    Step.Follows (readItems item fuel) (readItems item' fuel) := by
  induction fuel with
  | zero => exact fun s => rfl
  | succ fuel ih =>
    intro s
    refine map_bind_congr (hitem s) ?_
    rintro ⟨v, rest⟩ ⟨v', -⟩ ⟨⟩
    dsimp only
    split
    · rfl
    · refine map_bind_congr (ih _) ?_
      rintro ⟨vs, rest⟩ ⟨vs', -⟩ ⟨⟩
      rfl
    · rfl

theorem readEntry_follows (hstring : string.Follows string') (hitem : item.Follows item') :
    Step.Follows (readEntry string item) (readEntry string' item') := by
  intro s
  unfold readEntry
  split
  · refine map_bind_congr (hstring _) ?_
    rintro ⟨key, rest⟩ ⟨key', -⟩ ⟨⟩
    dsimp only
    split
    · refine map_bind_congr (hitem _) ?_
      rintro ⟨v, rest⟩ ⟨v', -⟩ ⟨⟩
      rfl
    · rfl
  · rfl

theorem readEntries_follows (hstring : string.Follows string') (hitem : item.Follows item')
    (fuel : Nat) :
    Step.Follows (readEntries string item fuel) (readEntries string' item' fuel) := by
  induction fuel with
  | zero => exact fun s => rfl
  | succ fuel ih =>
    intro s
    refine map_bind_congr (readEntry_follows hstring hitem s) ?_
    rintro ⟨entry, rest⟩ ⟨entry', -⟩ ⟨⟩
    dsimp only
    split
    · rfl
    · refine map_bind_congr (ih _) ?_
      rintro ⟨entries, rest⟩ ⟨entries', -⟩ ⟨⟩
      rfl
    · rfl

theorem readArray_follows (hitem : item.Follows item') :
    Step.Follows (readArray item) (readArray item') := by
  intro s
  unfold readArray
  split
  · rfl
  · refine map_bind_congr (readItems_follows hitem _ _) ?_
    rintro ⟨items, rest⟩ ⟨items', -⟩ ⟨⟩
    rfl

theorem readObject_follows (hstring : string.Follows string') (hitem : item.Follows item') :
    Step.Follows (readObject string item) (readObject string' item') := by
  intro s
  unfold readObject
  split
  · rfl
  · refine map_bind_congr (readEntries_follows hstring hitem _ _) ?_
    rintro ⟨entries, rest⟩ ⟨entries', -⟩ ⟨⟩
    rfl

theorem readScalar_follows (hstring : string.Follows string') :
    Step.Follows (readScalar string) (readScalar string') := by
  intro s
  unfold readScalar
  split
  · refine map_bind_congr (hstring _) ?_
    rintro ⟨t, rest⟩ ⟨t', -⟩ ⟨⟩
    rfl
  all_goals rfl

theorem readValue_follows (hstring : string.Follows string') (depth : Nat) :
    Step.Follows (readValue string depth) (readValue string' depth) := by
  induction depth with
  | zero =>
    intro s
    unfold readValue
    split
    · rfl
    · rfl
    · exact readScalar_follows hstring s
  | succ depth ih =>
    intro s
    unfold readValue
    split
    · exact readArray_follows ih _
    · exact readObject_follows hstring ih _
    · exact readScalar_follows hstring s

/-- Where two documents' strings end alike, both are documents or neither is. -/
theorem readDocument_follows (hstring : string.Follows string') (s : List Char) :
    (readDocument string s).map (fun _ => ()) = (readDocument string' s).map fun _ => () := by
  unfold readDocument
  split
  · rfl
  · refine map_bind_congr (readValue_follows hstring _ _) ?_
    rintro ⟨v, rest⟩ ⟨v', -⟩ ⟨⟩
    dsimp only
    split <;> rfl

end Follows

section Text

variable {document : CodePoints} {e : Error}

theorem readStringOf_follows (document : CodePoints) :
    Step.Follows (readStringOf document) readString := by
  intro s
  unfold readStringOf
  rcases readString s with e | ⟨t, rest⟩
  · rfl
  · rfl

/-- **A document with surrogates in it fails where it does with characters in their place.** -/
theorem readText_eq_error : readText document = .error e ↔ read document.toString = .error e := by
  have hfollows := readDocument_follows (readStringOf_follows document) document.toString.toList
  unfold readText read
  dsimp only
  revert hfollows
  generalize readDocument (readStringOf document) document.toString.toList = ended
  generalize readDocument readString document.toString.toList = ended'
  intro hfollows
  rcases ended with fault | v
  · rcases ended' with fault' | v'
    · cases hfollows
      exact Iff.rfl
    · cases hfollows
  · rcases ended' with fault' | v'
    · cases hfollows
    · exact iff_of_false nofun nofun

/-- **Without surrogates it is the document that it is.** -/
@[simp] theorem readText_ofString (document : String) :
    readText (CodePoints.ofString document) = read document := by
  have hstring : readStringOf (CodePoints.ofString document) = readString := by
    funext s
    unfold readStringOf
    rcases readString s with e | ⟨t, rest⟩
    · rfl
    · have hinside : (((CodePoints.ofString document).drop
          ((CodePoints.ofString document).length - s.length)).take
            (s.length - rest.length - 1)).any (·.isSurrogate) = false := by
        rw [List.any_eq_false]
        intro p hp
        obtain ⟨c, -, rfl⟩ := List.mem_map.mp (List.mem_of_mem_drop (List.mem_of_mem_take hp))
        exact Bool.false_ne_true
      simp only [bind, Except.bind, hinside]
      rfl
  unfold readText read
  rw [hstring, CodePoints.toString_ofString]

end Text

end LintBridge.Json
