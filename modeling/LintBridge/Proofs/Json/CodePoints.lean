import LintBridge.Json.CodePoints
import LintBridge.Proofs.Text.Trimmed

/-!
# Texts with and without surrogates

A text that can be encoded is a string, and every string is one
(`LintBridge.Json.CodePoints.encode?_eq_ok`): **a string survives as a text**
(`LintBridge.Json.CodePoints.toString_ofString`). Trimming does the same to both
(`LintBridge.Json.CodePoints.toString_strip`, `LintBridge.Json.CodePoints.strip_ofString`).
-/

namespace LintBridge.Json.CodePoints

@[simp] theorem fill_ofString (filler : Char) (s : String) : (ofString s).fill filler = s := by
  have hchar : CodePoint.fill filler ∘ CodePoint.scalar = id := rfl
  unfold fill ofString
  rw [List.map_map, hchar, List.map_id, String.ofList_toList]

@[simp] theorem toString_ofString (s : String) : (ofString s).toString = s :=
  fill_ofString _ s

theorem ofString_injective : Function.Injective ofString :=
  Function.LeftInverse.injective toString_ofString

@[simp] theorem ofString_inj {s s' : String} : ofString s = ofString s' ↔ s = s' :=
  ofString_injective.eq_iff

theorem ofString_eq_nil_iff {s : String} : ofString s = [] ↔ s = "" := by
  rw [← String.toList_eq_nil_iff]
  exact List.map_eq_nil_iff

theorem toList_toString (t : CodePoints) : t.toString.toList = t.map CodePoint.toChar :=
  String.toList_ofList

@[simp] theorem toString_eq_empty_iff {t : CodePoints} : t.toString = "" ↔ t = [] := by
  rw [← String.toList_eq_nil_iff, toList_toString, List.map_eq_nil_iff]

/-! ### Texts that can be encoded -/

section Encode

variable {t : CodePoints} {s : String}

/-- Nothing is wrong with a text without surrogates. -/
theorem fault?_eq_none_iff : t.fault? = none ↔ ∀ p ∈ t, p.isSurrogate = false := by
  have hnil := @List.dropWhile_eq_nil_iff _ (fun p : CodePoint => !p.isSurrogate) t
  simp only [Bool.not_eq_true'] at hnil
  rw [← hnil]
  unfold fault?
  split
  · rename_i first rest hfirst
    simp [hfirst]
  · rename_i hnone
    simp only [true_iff]
    -- What is left begins with something that is not a character.
    rcases hrest : t.dropWhile (!·.isSurrogate) with _ | ⟨p, rest⟩
    · exact hrest
    · cases p with
      | scalar c =>
        have hhead := List.head?_dropWhile_not (fun p : CodePoint => !p.isSurrogate) t
        rw [hrest] at hhead
        cases hhead
      | surrogate n => exact absurd hrest (hnone n rest)

theorem fault?_append_eq_none_iff {front : CodePoints} :
    (front ++ t).fault? = none ↔ front.fault? = none ∧ t.fault? = none := by
  simp only [fault?_eq_none_iff, List.forall_mem_append]

theorem ofString_toString (h : ∀ p ∈ t, p.isSurrogate = false) : ofString t.toString = t := by
  unfold ofString
  rw [toList_toString, List.map_map]
  refine (List.map_congr_left fun p hp => ?_).trans (List.map_id t)
  cases p with
  | scalar c => rfl
  | surrogate n => cases h _ hp

/-- A text is a string exactly if nothing is wrong with it. -/
theorem fault?_eq_none_iff_eq_ofString : t.fault? = none ↔ t = ofString t.toString := by
  rw [fault?_eq_none_iff]
  refine ⟨fun h => (ofString_toString h).symm, fun h p hp => ?_⟩
  rw [h] at hp
  obtain ⟨c, -, rfl⟩ := List.mem_map.mp hp
  rfl

@[simp] theorem fault?_ofString (s : String) : (ofString s).fault? = none := by
  rw [fault?_eq_none_iff_eq_ofString, toString_ofString]

/-- The code points of a string in front of a text are counted. -/
theorem fault?_ofString_append (s : String) (t : CodePoints) : (ofString s ++ t).fault? =
    t.fault?.map fun u => { u with before := s.length + u.before } := by
  have hscalar : ∀ p ∈ ofString s, (!p.isSurrogate) = true := by
    intro p hp
    obtain ⟨c, -, rfl⟩ := List.mem_map.mp hp
    rfl
  have hlength : (ofString s).length = s.length := List.length_map _
  unfold fault?
  rw [List.dropWhile_append_of_pos hscalar, List.takeWhile_append_of_pos hscalar,
    List.length_append, hlength]
  split <;> rfl

/-- What is wrong with a text stands behind a string. -/
theorem exists_of_fault? {u : Unencodable} (h : t.fault? = some u) :
    ∃ front rest, t = ofString front ++ .surrogate u.first :: rest := by
  unfold fault? at h
  split at h
  · rename_i first rest hrest
    cases h
    have hscalar : ∀ p ∈ t.takeWhile (!·.isSurrogate), p.isSurrogate = false := fun p hp => by
      have hnot := List.mem_takeWhile_imp hp
      exact (Bool.not_eq_true' _).mp hnot
    exact ⟨_, rest, by rw [ofString_toString hscalar, ← hrest, List.takeWhile_append_dropWhile]⟩
  · cases h

theorem takeWhile_append_ofString (t : CodePoints) (s : String) :
    (t ++ ofString s).takeWhile (·.isSurrogate) = t.takeWhile (·.isSurrogate) := by
  induction t with
  | nil =>
    unfold ofString
    cases s.toList <;> rfl
  | cons p rest ih => rw [List.cons_append, List.takeWhile_cons, List.takeWhile_cons, ih]

/-- What comes after a text says nothing of its first surrogates. -/
theorem fault?_append_ofString (t : CodePoints) (s : String) :
    (t ++ ofString s).fault? = t.fault? := by
  have hsurrogate : ∀ (n : Fin 2048) (rest : CodePoints), CodePoints.fault? (.surrogate n :: rest) =
      some ⟨0, n, (rest.takeWhile (·.isSurrogate)).length⟩ := fun _ _ => rfl
  cases hfault : t.fault? with
  | none => exact fault?_append_eq_none_iff.mpr ⟨hfault, fault?_ofString s⟩
  | some u =>
    obtain ⟨front, rest, rfl⟩ := exists_of_fault? hfault
    rw [← hfault, List.append_assoc, List.cons_append, fault?_ofString_append,
      fault?_ofString_append, hsurrogate, hsurrogate, takeWhile_append_ofString]

/-- **A text can be encoded exactly if it is a string.** -/
theorem encode?_eq_ok : t.encode? = .ok s ↔ t = ofString s := by
  constructor
  · intro h
    unfold encode? at h
    split at h
    · cases h
    · rename_i hfault
      cases h
      exact fault?_eq_none_iff_eq_ofString.mp hfault
  · rintro rfl
    unfold encode?
    rw [fault?_ofString, toString_ofString]

theorem encode?_eq_error {fault : Unencodable} :
    t.encode? = .error fault ↔ t.fault? = some fault := by
  unfold encode?
  split
  · rename_i found hfound
    simp [hfound]
  · rename_i hnone
    simp [hnone]

end Encode

/-! ### Trimming -/

/-- A text is trimmed, and there is something in it. -/
structure IsWord (t : CodePoints) : Prop where
  /-- It is not empty. -/
  ne_nil : t ≠ []
  /-- It has no blanks around it. -/
  trimmed : t.strip = t

/-- A mapped list is trimmed as the list is. -/
theorem map_stripList {α β : Type} (f : α → β) (p : β → Bool) (xs : List α) :
    (Text.stripList (p <| f ·) xs).map f = Text.stripList p (xs.map f) := by
  have hfront : ∀ xs : List α,
      (xs.dropWhile (p <| f ·)).map f = (xs.map f).dropWhile p := fun xs => List.dropWhile_map.symm
  unfold Text.stripList
  rw [List.map_reverse, hfront, List.map_reverse, hfront]

theorem toString_strip (t : CodePoints) : t.strip.toString = Text.strip t.toString := by
  unfold strip Text.strip
  rw [toList_toString, ← map_stripList]
  rfl

theorem strip_ofString (s : String) : (ofString s).strip = ofString (Text.strip s) := by
  unfold strip ofString Text.strip
  rw [String.toList_ofList]
  exact (map_stripList CodePoint.scalar (Text.isBlank ·.toChar) s.toList).symm

@[simp] theorem isAllBlank_toString (t : CodePoints) :
    Text.isAllBlank t.toString = t.isAllBlank := by
  unfold Text.isAllBlank isAllBlank
  rw [toList_toString, List.all_map]
  rfl

theorem strip_strip (t : CodePoints) : t.strip.strip = t.strip :=
  Text.stripList_stripList t

/-- Trimming leaves nothing of a blank text, and of no other. -/
theorem strip_eq_nil_iff {t : CodePoints} : t.strip = [] ↔ t.isAllBlank = true := by
  rw [← toString_eq_empty_iff, toString_strip, Text.strip_eq_empty_iff, isAllBlank_toString]

theorem isWord_strip {t : CodePoints} (h : ¬ t.isAllBlank = true) : IsWord t.strip :=
  ⟨mt strip_eq_nil_iff.mp h, strip_strip t⟩

theorem IsWord.not_isAllBlank {t : CodePoints} (h : IsWord t) : ¬ t.isAllBlank = true := by
  rw [← strip_eq_nil_iff, h.trimmed]
  exact h.ne_nil

theorem isWord_ofString {s : String} (h : Text.IsWord s) : IsWord (ofString s) := by
  refine ⟨mt ofString_eq_nil_iff.mp h.ne_empty, ?_⟩
  rw [strip_ofString, h.trimmed]

end LintBridge.Json.CodePoints
