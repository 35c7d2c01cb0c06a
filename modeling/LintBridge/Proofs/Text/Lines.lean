import LintBridge.Text.Blank
import LintBridge.Text.Lines
import Mathlib.Data.List.TakeWhile

/-!
# Trimming and splitting into lines

Trimming takes off what is blank at the two ends of a text and nothing else. Texts that are joined
with line feeds are the lines of the whole, **as long as none of them holds a character that ends a
line**: there is one line more than there are such characters, whichever they are.

* `LintBridge.Text.stripList_append_left`, `LintBridge.Text.stripList_append_right`,
  `LintBridge.Text.stripList_of_ends` – what trimming does at each end;
* `LintBridge.Text.lines_intercalate` – joining and splitting;
* `LintBridge.Text.length_lines` – the number of lines.
-/

namespace LintBridge.Text

/-! ### Trimming -/

section Strip

variable {α : Type} {p : α → Bool} {s ends : List α}

theorem stripList_append_left (h : ∀ c ∈ ends, p c = true) :
    stripList p (ends ++ s) = stripList p s := by
  unfold stripList
  rw [List.dropWhile_append_of_pos h]

theorem stripList_append_right (h : ∀ c ∈ ends, p c = true) :
    stripList p (s ++ ends) = stripList p s := by
  unfold stripList
  rw [List.dropWhile_append]
  split
  · rename_i hempty
    have hends : ends.dropWhile p = [] := List.dropWhile_eq_nil_iff.mpr h
    rw [hends, List.isEmpty_iff.mp hempty]
  · have hreverse : ∀ c ∈ ends.reverse, p c = true := fun c hc => h c (List.mem_reverse.mp hc)
    rw [List.reverse_append, List.dropWhile_append_of_pos hreverse]

theorem dropWhile_of_head (h : ∀ c ∈ s.head?, p c = false) : s.dropWhile p = s := by
  cases s with
  | nil => rfl
  | cons c s => exact List.dropWhile_cons_of_neg (by simp [h c rfl])

/-- Where neither end is blank, there is nothing to trim. -/
theorem stripList_of_ends (hhead : ∀ c ∈ s.head?, p c = false)
    (hlast : ∀ c ∈ s.getLast?, p c = false) : stripList p s = s := by
  have hreverse : ∀ c ∈ s.reverse.head?, p c = false := by
    rwa [List.head?_reverse]
  unfold stripList
  rw [dropWhile_of_head hhead, dropWhile_of_head hreverse, List.reverse_reverse]

end Strip

/-! ### Joining -/

section Join

variable {α : Type} (sep a b : List α) (ts : List (List α))

/-- What the first of several texts begins with is what the whole begins with. -/
theorem intercalate_append_cons :
    sep.intercalate ((a ++ b) :: ts) = a ++ sep.intercalate (b :: ts) := by
  cases ts with
  | nil => rw [List.intercalate_singleton, List.intercalate_singleton]
  | cons t ts => simp only [List.intercalate_cons_cons, List.append_assoc]

/-- What the last of several texts ends with is what the whole ends with. -/
theorem intercalate_concat_append :
    sep.intercalate (ts ++ [a ++ b]) = sep.intercalate (ts ++ [a]) ++ b := by
  induction ts with
  | nil => simp only [List.nil_append, List.intercalate_singleton]
  | cons t ts ih =>
    have hne : ∀ u : List α, ts ++ [u] ≠ [] := fun u => by simp
    rw [List.cons_append, List.cons_append, List.intercalate_cons_of_ne_nil (hne _),
      List.intercalate_cons_of_ne_nil (hne _), ih]
    simp only [List.append_assoc]

theorem mem_intercalate_cons {c : α} {t : List α} (h : c ∈ sep.intercalate (t :: ts)) :
    c ∈ sep ∨ ∃ u ∈ t :: ts, c ∈ u := by
  induction ts generalizing t with
  | nil => exact .inr ⟨t, List.mem_cons_self, by simpa using h⟩
  | cons u ts ih =>
    rw [List.intercalate_cons_cons, List.mem_append, List.mem_append] at h
    rcases h with (h | h) | h
    · exact .inr ⟨t, List.mem_cons_self, h⟩
    · exact .inl h
    · exact (ih h).imp_right fun ⟨w, hw, hc⟩ => ⟨w, List.mem_cons_of_mem _ hw, hc⟩

end Join

/-! ### Lines -/

section Lines

variable {s : List Char} {c : Char}

theorem lines_cons (hc : c ≠ '\r') (s : List Char) :
    lines (c :: s) = if isLineBreak c then [] :: lines s else extendFirst c (lines s) :=
  lines.eq_3 c s fun _ h _ => hc h

theorem ne_return_of_unbroken (h : isLineBreak c = false) : c ≠ '\r' := by
  rintro rfl
  cases h

/-- What ends a line is blank. -/
theorem not_break_of_not_blank (h : isBlank c = false) : isLineBreak c = false := by
  rw [← Bool.not_eq_true] at h ⊢
  refine mt (fun hbreak => ?_) h
  simp only [isLineBreak, isBlank, Bool.or_eq_true, Bool.and_eq_true, decide_eq_true_eq,
    beq_iff_eq] at hbreak ⊢
  omega

/-- A text up to the first line feed is its first line. -/
theorem lines_append_newline (h : ∀ c ∈ s, isLineBreak c = false) (rest : List Char) :
    lines (s ++ '\n' :: rest) = s :: lines rest := by
  induction s with
  | nil => exact lines_cons (by decide) rest
  | cons c s ih =>
    obtain ⟨hc, hs⟩ := List.forall_mem_cons.mp h
    rw [List.cons_append, lines_cons (ne_return_of_unbroken hc), hc, ih hs]
    rfl

/-- A text in which no line ends is one line. -/
theorem lines_of_unbroken (hne : s ≠ []) (h : ∀ c ∈ s, isLineBreak c = false) : lines s = [s] := by
  induction s with
  | nil => exact absurd rfl hne
  | cons c s ih =>
    obtain ⟨hc, hs⟩ := List.forall_mem_cons.mp h
    rw [lines_cons (ne_return_of_unbroken hc), hc]
    cases s with
    | nil => rfl
    | cons d s =>
      rw [ih (by simp) hs]
      rfl

/-- **Texts in which no line ends are the lines of what they are joined to**, unless the last one is
empty. -/
theorem lines_intercalate {ts : List (List Char)} (hne : ts ≠ [])
    (h : ∀ t ∈ ts, ∀ c ∈ t, isLineBreak c = false) (hlast : ∀ t ∈ ts.getLast?, t ≠ []) :
    lines (['\n'].intercalate ts) = ts := by
  induction ts with
  | nil => exact absurd rfl hne
  | cons t ts ih =>
    obtain ⟨ht, hts⟩ := List.forall_mem_cons.mp h
    cases ts with
    | nil =>
      rw [List.intercalate_singleton, lines_of_unbroken (hlast t rfl) ht]
    | cons u ts =>
      rw [List.intercalate_cons_cons, List.append_assoc, List.singleton_append,
        lines_append_newline ht, ih (by simp) hts]
      rwa [List.getLast?_cons_cons] at hlast

theorem length_extendFirst (c : Char) {ls : List (List Char)} (h : ls ≠ []) :
    (extendFirst c ls).length = ls.length := by
  cases ls with
  | nil => exact absurd rfl h
  | cons l ls => rfl

/-- **There is one line more than there are characters that end one**, where the last character is
none of them and no carriage return goes together with a line feed. -/
theorem length_lines (hreturn : '\r' ∉ s) (hlast : ∃ c ∈ s.getLast?, isLineBreak c = false) :
    (lines s).length = s.countP isLineBreak + 1 := by
  induction s with
  | nil =>
    obtain ⟨c, hc, -⟩ := hlast
    cases hc
  | cons c s ih =>
    obtain ⟨hc, hs⟩ := List.ne_and_not_mem_of_not_mem_cons hreturn
    rw [lines_cons (Ne.symm hc), List.countP_cons]
    cases s with
    | nil =>
      have hbreak : isLineBreak c = false := by simpa using hlast
      rw [hbreak]
      rfl
    | cons d s =>
      rw [List.getLast?_cons_cons] at hlast
      have hlength := ih hs hlast
      have hne : lines (d :: s) ≠ [] := by
        rw [← List.length_pos_iff]
        omega
      by_cases hbreak : isLineBreak c = true
      · rw [if_pos hbreak, if_pos hbreak, List.length_cons, hlength]
      · rw [if_neg hbreak, if_neg hbreak, length_extendFirst c hne, hlength]

/-- The characters that end a line in a text that was joined: those of the parts, and those that
join them. -/
theorem countP_intercalate {ts : List (List Char)} (hne : ts ≠ []) :
    (['\n'].intercalate ts).countP isLineBreak + 1 =
      ts.flatten.countP isLineBreak + ts.length := by
  induction ts with
  | nil => exact absurd rfl hne
  | cons t ts ih =>
    cases ts with
    | nil => simp
    | cons u ts =>
      have htail := ih (by simp)
      have hnewline : ['\n'].countP isLineBreak = 1 := rfl
      rw [List.intercalate_cons_cons, List.countP_append, List.countP_append, hnewline,
        List.flatten_cons, List.countP_append, List.length_cons]
      omega

end Lines

end LintBridge.Text
