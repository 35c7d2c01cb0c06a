import LintBridge.Proofs.Text.Trimmed

/-!
# What is on the lines of a text

Whoever reads a text line by line and takes no notice of blanks sees its rows: the lines that are
not blank, each without the blanks around it. Two steps that could come in either order agree on
them. **Whether a text is trimmed before it is split or not, the rows are the same**
(`LintBridge.Text.rows_stripList`): whatever ends a line is blank, so that trimming takes off whole
lines without anything on them, and blanks at the ends of those that are left.

A text is taken apart along its lines by `LintBridge.Text.lines_induction`, in which a carriage
return with a line feed after it counts as two ends of lines. That makes one blank line more, and no
row.
-/

namespace LintBridge.Text

/-- No line ends in a text. -/
def Unbroken (s : List Char) : Prop :=
  ∀ c ∈ s, isLineBreak c = false

/-- The lines that are not blank, without the blanks around them. -/
def rowsOf (ls : List (List Char)) : List (List Char) :=
  (ls.map (stripList isBlank)).filter (!·.isEmpty)

/-- **The rows of a text**: what is on its lines. -/
def rows (s : List Char) : List (List Char) :=
  rowsOf (lines s)

section Rows

variable {s t : List Char} {b : Char}

theorem rowsOf_cons (l : List Char) (ls : List (List Char)) :
    rowsOf (l :: ls) = rowsOf [l] ++ rowsOf ls := by
  unfold rowsOf
  rw [← List.filter_append, ← List.map_append, List.singleton_append]

theorem rowsOf_nil_cons (ls : List (List Char)) : rowsOf ([] :: ls) = rowsOf ls := rfl

theorem rowsOf_singleton_congr (h : stripList isBlank s = stripList isBlank t) :
    rowsOf [s] = rowsOf [t] := by
  simp only [rowsOf, List.map_cons, List.map_nil, h]

/-- A text in which no line ends is on one row. -/
theorem rows_of_unbroken (h : Unbroken s) : rows s = rowsOf [s] := by
  cases s with
  | nil => rfl
  | cons c s => rw [rows, lines_of_unbroken (by simp) h]

/-- A text up to a character that ends a line is its first line, and nothing on the lines after that
is lost. -/
theorem lines_append_break (h : Unbroken s) (hb : isLineBreak b = true) (rest : List Char) :
    ∃ ls, lines (s ++ b :: rest) = s :: ls ∧ rowsOf ls = rows rest := by
  induction s with
  | nil =>
    rw [List.nil_append]
    by_cases hpair : b = '\r' ∧ ∃ rest', rest = '\n' :: rest'
    · obtain ⟨rfl, rest', rfl⟩ := hpair
      refine ⟨lines rest', lines.eq_2 rest', ?_⟩
      rw [rows, lines_cons (by decide), if_pos (by decide), rowsOf_nil_cons]
    · have hsingle : ∀ rest', b = '\r' → rest = '\n' :: rest' → False :=
        fun rest' hb hrest => hpair ⟨hb, rest', hrest⟩
      exact ⟨lines rest, by rw [lines.eq_3 b rest hsingle, if_pos hb], rfl⟩
  | cons c s ih =>
    obtain ⟨hc, hs⟩ := List.forall_mem_cons.mp h
    obtain ⟨ls, hls, hrows⟩ := ih hs
    refine ⟨ls, ?_, hrows⟩
    rw [List.cons_append, lines_cons (ne_return_of_unbroken hc), hc, hls]
    rfl

/-- A text up to a character that ends a line is on a row of its own. -/
theorem rows_append_break (h : Unbroken s) (hb : isLineBreak b = true) (rest : List Char) :
    rows (s ++ b :: rest) = rowsOf [s] ++ rows rest := by
  obtain ⟨ls, hls, hrows⟩ := lines_append_break h hb rest
  rw [rows, hls, rowsOf_cons, hrows]

/-- **A text is one line, or a line, a character that ends it, and a text.** -/
theorem lines_induction {motive : List Char → Prop} (line : ∀ s, Unbroken s → motive s)
    (append : ∀ s b rest, Unbroken s → isLineBreak b = true → motive rest →
      motive (s ++ b :: rest)) (s : List Char) : motive s := by
  -- The induction is on the length, since a whole line is taken off at a time.
  induction hn : s.length using Nat.strong_induction_on generalizing s with
  | _ n ih =>
    have hunbroken : Unbroken (s.takeWhile fun c => !isLineBreak c) := fun c hc => by
      simpa using List.mem_takeWhile_imp hc
    have hwhole := List.takeWhile_append_dropWhile (p := fun c => !isLineBreak c) (l := s)
    cases hrest : s.dropWhile (fun c => !isLineBreak c) with
    | nil =>
      rw [hrest, List.append_nil] at hwhole
      exact hwhole ▸ line _ hunbroken
    | cons b rest =>
      have hb : isLineBreak b = true := by
        have hhead := List.head?_dropWhile_not (fun c => !isLineBreak c) s
        rw [hrest] at hhead
        simpa using hhead
      rw [hrest] at hwhole
      have hlength : rest.length < n := by
        rw [← hn, ← hwhole, List.length_append, List.length_cons]
        omega
      exact hwhole ▸ append _ b rest hunbroken hb (ih _ hlength rest rfl)

/-- There is nothing on the lines of a blank text. -/
theorem rowsOf_blank (h : ∀ c ∈ s, isBlank c = true) : rowsOf [s] = [] := by
  have hstrip : stripList isBlank s = [] := by
    simpa [stripList] using stripList_append_right (s := []) h
  rw [rowsOf_singleton_congr (t := []) (by rw [hstrip]; rfl)]
  rfl

/-- Blanks in front of a text are on none of its rows. -/
theorem rows_append_left (ht : ∀ c ∈ t, isBlank c = true) : rows (t ++ s) = rows s := by
  induction t using lines_induction with
  | line t hunbroken =>
    induction s using lines_induction with
    | line s hs =>
      have hwhole : Unbroken (t ++ s) := fun c hc =>
        (List.mem_append.mp hc).elim (hunbroken c) (hs c)
      rw [rows_of_unbroken hwhole, rows_of_unbroken hs,
        rowsOf_singleton_congr (stripList_append_left ht)]
    | append s b rest hs hb _ =>
      have hwhole : Unbroken (t ++ s) := fun c hc =>
        (List.mem_append.mp hc).elim (hunbroken c) (hs c)
      rw [← List.append_assoc, rows_append_break hwhole hb, rows_append_break hs hb,
        rowsOf_singleton_congr (stripList_append_left ht)]
  | append l b rest hl hb ih =>
    obtain ⟨hblank, hrest⟩ := List.forall_mem_append.mp ht
    rw [List.append_assoc, List.cons_append, rows_append_break hl hb, rowsOf_blank hblank,
      List.nil_append]
    exact ih fun c hc => hrest c (List.mem_cons_of_mem _ hc)

/-- There are no rows on a blank text. -/
theorem rows_blank (ht : ∀ c ∈ t, isBlank c = true) : rows t = [] := by
  have happend := rows_append_left (s := []) ht
  rwa [List.append_nil] at happend

/-- Blanks after a text are on none of its rows. -/
theorem rows_append_right (ht : ∀ c ∈ t, isBlank c = true) : rows (s ++ t) = rows s := by
  induction s using lines_induction with
  | line s hs =>
    induction t using lines_induction with
    | line t hunbroken =>
      have hwhole : Unbroken (s ++ t) := fun c hc =>
        (List.mem_append.mp hc).elim (hs c) (hunbroken c)
      rw [rows_of_unbroken hwhole, rows_of_unbroken hs,
        rowsOf_singleton_congr (stripList_append_right ht)]
    | append l b rest hl hb _ =>
      obtain ⟨hblank, hrest⟩ := List.forall_mem_append.mp ht
      have hwhole : Unbroken (s ++ l) := fun c hc =>
        (List.mem_append.mp hc).elim (hs c) (hl c)
      rw [← List.append_assoc, rows_append_break hwhole hb, rows_of_unbroken hs,
        rowsOf_singleton_congr (stripList_append_right hblank),
        rows_blank fun c hc => hrest c (List.mem_cons_of_mem _ hc), List.append_nil]
  | append l b rest hl hb ih =>
    rw [List.append_assoc, List.cons_append, rows_append_break hl hb, ih, rows_append_break hl hb]

/-- What trimming takes off a text is blank. -/
theorem exists_stripList {α : Type} (p : α → Bool) (s : List α) :
    ∃ before after, s = before ++ stripList p s ++ after ∧ (∀ c ∈ before, p c = true) ∧
      ∀ c ∈ after, p c = true := by
  refine ⟨s.takeWhile p, (s.dropWhile p).rtakeWhile p, ?_, fun c hc => List.mem_takeWhile_imp hc,
    fun c hc => List.mem_rtakeWhile_imp hc⟩
  have hstrip : stripList p s = (s.dropWhile p).rdropWhile p := rfl
  rw [hstrip, List.append_assoc, List.rdropWhile_append_rtakeWhile,
    List.takeWhile_append_dropWhile]

/-- What trimming does not take off stays. -/
theorem mem_stripList_iff {α : Type} {p : α → Bool} {s : List α} {c : α} (h : p c = false) :
    c ∈ stripList p s ↔ c ∈ s := by
  obtain ⟨before, after, hs, hbefore, hafter⟩ := exists_stripList p s
  have hnotbefore : c ∉ before := fun hc => by simp [hbefore c hc] at h
  have hnotafter : c ∉ after := fun hc => by simp [hafter c hc] at h
  conv_rhs => rw [hs]
  simp [hnotbefore, hnotafter]

/-- **Trimming a text changes nothing on its lines.** -/
theorem rows_stripList (s : List Char) : rows (stripList isBlank s) = rows s := by
  obtain ⟨before, after, hs, hbefore, hafter⟩ := exists_stripList isBlank s
  calc rows (stripList isBlank s)
      = rows (before ++ stripList isBlank s) := (rows_append_left hbefore).symm
    _ = rows (before ++ stripList isBlank s ++ after) := (rows_append_right hafter).symm
    _ = rows s := by rw [← hs]

/-- No line ends within a line. -/
theorem unbroken_of_mem_lines : ∀ {s : List Char}, ∀ l ∈ lines s, Unbroken l := by
  intro s
  induction s using lines.induct with
  | case1 => nofun
  | case2 rest ih => exact List.forall_mem_cons.mpr ⟨nofun, ih⟩
  | case3 c rest hpair hbreak ih =>
    rw [lines.eq_3 c rest hpair, if_pos hbreak]
    exact List.forall_mem_cons.mpr ⟨nofun, ih⟩
  | case4 c rest hpair hbreak ih =>
    rw [lines.eq_3 c rest hpair, if_neg hbreak]
    have hc : isLineBreak c = false := by simpa using hbreak
    cases hlines : lines rest with
    | nil => exact List.forall_mem_singleton.mpr (List.forall_mem_singleton.mpr hc)
    | cons l ls =>
      rw [hlines] at ih
      obtain ⟨hl, hls⟩ := List.forall_mem_cons.mp ih
      exact List.forall_mem_cons.mpr ⟨List.forall_mem_cons.mpr ⟨hc, hl⟩, hls⟩

end Rows

end LintBridge.Text
