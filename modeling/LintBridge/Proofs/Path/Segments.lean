import LintBridge.Path
import LintBridge.Proofs.Text.Lines
import Mathlib.Data.List.Basic

/-!
# The segments of a text

A path keeps of its text what stands between the slashes, without the empty parts and the single
dots. The texts of one path differ a lot, and **their segments are what they have in common**. A
mapping of texts that goes character by character and keeps slashes and dots works on each segment
for itself, so that it makes texts of one path into texts of one path.

* `LintBridge.Path.segmentsOf` – the segments of a text;
* `LintBridge.Path.segmentsOf_flatMap` – a mapping works on each of them;
* `LintBridge.Path.IsPlain` – a path as it is read from a text;
  `LintBridge.Path.IsPlain.ofString_toString` – its text names it.
-/

namespace LintBridge

theorem Text.splitOn_eq {α : Type} [BEq α] (sep : α) (xs : List α) :
    Text.splitOn sep xs = xs.splitOn sep := by
  induction xs with
  | nil => rfl
  | cons x rest ih =>
    rw [Text.splitOn, List.splitOn_cons_eq_if_modifyHead, ih]
    split
    · rfl
    · rcases hparts : rest.splitOn sep with _ | ⟨part, parts⟩
      · exact absurd hparts (List.splitOn_ne_nil sep rest)
      · rfl

namespace Path

/-- What stands between two slashes and counts: not empty, and no single dot. -/
def isSegment (part : List Char) : Bool :=
  part != [] && part != ['.']

/-- The segments of a text. -/
def segmentsOf (s : List Char) : List (List Char) :=
  (s.splitOn '/').filter isSegment

theorem isSegment_iff {part : List Char} : isSegment part = true ↔ part ≠ [] ∧ part ≠ ['.'] := by
  simp [isSegment]

/-- The segments of the path that a text names. -/
theorem segments_ofString (s : String) :
    (ofString s).segments = (segmentsOf s.toList).map String.ofList := by
  have hsegment : (fun seg => seg != "" && seg != ".") ∘ String.ofList = isSegment := by
    funext part
    have hdot : String.ofList part = "." ↔ part = ['.'] :=
      @String.ofList_inj part ['.']
    rw [Bool.eq_iff_iff, isSegment_iff]
    simp [hdot]
  rw [segmentsOf, ← hsegment, ← List.filter_map, ← Text.splitOn_eq]
  rfl

theorem segmentsOf_append_slash (xs ys : List Char) :
    segmentsOf (xs ++ '/' :: ys) = segmentsOf xs ++ segmentsOf ys := by
  simp only [segmentsOf, List.splitOn_append_cons_self, List.filter_append]

@[simp] theorem segmentsOf_nil : segmentsOf [] = [] := rfl

@[simp] theorem segmentsOf_cons_slash (s : List Char) : segmentsOf ('/' :: s) = segmentsOf s :=
  segmentsOf_append_slash [] s

theorem segmentsOf_of_not_mem {s : List Char} (h : '/' ∉ s) :
    segmentsOf s = if isSegment s then [s] else [] := by
  rw [segmentsOf, List.splitOn_eq_singleton h, List.filter_singleton, cond_eq_ite]

/-- **An induction over the parts of a text**: the last of them, and a part in front of others. -/
theorem parts_induction {motive : List Char → Prop} (last : ∀ s, '/' ∉ s → motive s)
    (part : ∀ xs ys, '/' ∉ xs → motive ys → motive (xs ++ '/' :: ys)) (s : List Char) :
    motive s := by
  by_cases h : '/' ∈ s
  · obtain ⟨xs, ys, rfl, hxs⟩ := List.eq_append_cons_of_mem h
    exact part xs ys hxs (parts_induction last part ys)
  · exact last s h
  termination_by s.length

theorem segment_of_mem {s part : List Char} (h : part ∈ segmentsOf s) :
    '/' ∉ part ∧ isSegment part = true := by
  induction s using parts_induction with
  | last s hs =>
    rw [segmentsOf_of_not_mem hs] at h
    split at h
    · rw [List.mem_singleton.mp h]
      exact ⟨hs, by assumption⟩
    · cases h
  | part xs ys hxs ih =>
    rw [segmentsOf_append_slash] at h
    rcases List.mem_append.mp h with h | h
    · rw [segmentsOf_of_not_mem hxs] at h
      split at h
      · rw [List.mem_singleton.mp h]
        exact ⟨hxs, by assumption⟩
      · cases h
    · exact ih h

/-! ### Mappings -/

section Mapping

variable {f : Char → List Char}

/-- **A mapping that keeps slashes and dots works on each segment for itself.** -/
theorem segmentsOf_flatMap (hslash : f '/' = ['/']) (hdot : f '.' = ['.']) (s : List Char) :
    segmentsOf (s.flatMap f) = (segmentsOf s).flatMap fun part => segmentsOf (part.flatMap f) := by
  have hpart : ∀ part, '/' ∉ part → segmentsOf (part.flatMap f) =
      (segmentsOf part).flatMap fun part => segmentsOf (part.flatMap f) := by
    intro part hmem
    rw [segmentsOf_of_not_mem hmem]
    split
    · simp
    · -- What does not count is empty or a dot, and stays so.
      rename_i hnot
      rw [isSegment_iff, not_and_or, not_not, not_not] at hnot
      rcases hnot with rfl | rfl
      · rfl
      · rw [List.flatMap_singleton, hdot]
        rfl
  induction s using parts_induction with
  | last s hs => exact hpart s hs
  | part xs ys hxs ih =>
    rw [List.flatMap_append, List.flatMap_cons, hslash, List.singleton_append,
      segmentsOf_append_slash, segmentsOf_append_slash, List.flatMap_append, ih, hpart xs hxs]

/-- A mapping that keeps slashes and dots makes texts with the same segments into such texts. -/
theorem segmentsOf_flatMap_congr (hslash : f '/' = ['/']) (hdot : f '.' = ['.']) {s t : List Char}
    (h : segmentsOf s = segmentsOf t) : segmentsOf (s.flatMap f) = segmentsOf (t.flatMap f) := by
  rw [segmentsOf_flatMap hslash hdot, segmentsOf_flatMap hslash hdot, h]

end Mapping

/-- A text with anything else than slashes and dots has a segment. -/
theorem segmentsOf_ne_nil {s : List Char} (h : ∃ c ∈ s, c ≠ '/' ∧ c ≠ '.') : segmentsOf s ≠ [] := by
  obtain ⟨c, hc, hslash, hdot⟩ := h
  have hpart : ∀ part, '/' ∉ part → c ∈ part → segmentsOf part ≠ [] := by
    intro part hmem hc
    have hsegment : isSegment part = true := by
      rw [isSegment_iff]
      constructor
      · rintro rfl
        cases hc
      · rintro rfl
        exact hdot (List.mem_singleton.mp hc)
    rw [segmentsOf_of_not_mem hmem, if_pos hsegment]
    nofun
  induction s using parts_induction with
  | last s hs => exact hpart s hs hc
  | part xs ys hxs ih =>
    rw [segmentsOf_append_slash]
    intro hnil
    obtain ⟨hfront, hback⟩ := List.append_eq_nil_iff.mp hnil
    rcases List.mem_append.mp hc with hc | hc
    · exact hpart xs hxs hc hfront
    · rcases List.mem_cons.mp hc with rfl | hc
      · exact hslash rfl
      · exact ih hc hback

/-! ### Single segments -/

theorem anchorOf_of_unslashed {s : List Char} (h : '/' ∉ s) : anchorOf s = .relative := by
  unfold anchorOf
  split <;> simp_all

/-- A single segment is a path that depends on the current directory. -/
theorem ofString_of_segment {name : String} (h : '/' ∉ name.toList)
    (hsegment : isSegment name.toList = true) : ofString name = ⟨.relative, [name]⟩ := by
  have hsegments : (ofString name).segments = [name] := by
    rw [segments_ofString, segmentsOf_of_not_mem h, if_pos hsegment, List.map_singleton,
      String.ofList_toList]
  exact congr (congrArg Path.mk (anchorOf_of_unslashed h)) hsegments

/-- It is put below the path that it is taken relative to. -/
theorem join_of_segment {name : String} (h : '/' ∉ name.toList)
    (hsegment : isSegment name.toList = true) (p : Path) :
    p.join name = ⟨p.anchor, p.segments ++ [name]⟩ := by
  unfold join
  rw [ofString_of_segment h hsegment]
  rfl

/-! ### The text of a path -/

/-- A list of segments, written with slashes between them. -/
theorem segmentsOf_intercalate {parts : List (List Char)}
    (h : ∀ part ∈ parts, '/' ∉ part ∧ isSegment part = true) :
    segmentsOf (['/'].intercalate parts) = parts := by
  rcases parts with _ | ⟨part, rest⟩
  · rfl
  · rw [segmentsOf, List.splitOn_intercalate '/' (fun l hl => (h l hl).1) (by simp)]
    exact List.filter_eq_self.mpr fun l hl => (h l hl).2

/-- Segments that are written with slashes between them begin with no slash. -/
theorem exists_cons_intercalate {parts : List (List Char)} (hne : parts ≠ [])
    (h : ∀ part ∈ parts, '/' ∉ part ∧ isSegment part = true) :
    ∃ c rest, ['/'].intercalate parts = c :: rest ∧ c ≠ '/' := by
  obtain ⟨part, more, rfl⟩ := List.exists_cons_of_ne_nil hne
  obtain ⟨hslash, hsegment⟩ := h part List.mem_cons_self
  obtain ⟨c, chars, rfl⟩ := List.exists_cons_of_ne_nil (isSegment_iff.mp hsegment).1
  refine ⟨c, _, List.intercalate_cons_cons_left, ?_⟩
  rintro rfl
  exact hslash List.mem_cons_self

/-- They end with none. -/
theorem exists_concat_intercalate {parts : List (List Char)} (hne : parts ≠ [])
    (h : ∀ part ∈ parts, '/' ∉ part ∧ isSegment part = true) :
    ∃ rest c, ['/'].intercalate parts = rest ++ [c] ∧ c ≠ '/' := by
  obtain ⟨more, part, rfl⟩ := (List.eq_nil_or_concat' parts).resolve_left hne
  obtain ⟨hslash, hsegment⟩ := h part (by simp)
  obtain ⟨chars, c, rfl⟩ :=
    (List.eq_nil_or_concat' part).resolve_left (isSegment_iff.mp hsegment).1
  refine ⟨_, c, Text.intercalate_concat_append ['/'] chars [c] more, ?_⟩
  rintro rfl
  exact hslash (by simp)

/-- One more of them is written with one more slash. -/
theorem intercalate_concat {parts : List (List Char)} (hne : parts ≠ []) (part : List Char) :
    ['/'].intercalate (parts ++ [part]) = ['/'].intercalate parts ++ '/' :: part := by
  induction parts with
  | nil => exact absurd rfl hne
  | cons first rest ih =>
    by_cases hrest : rest = []
    · subst hrest
      simp [List.intercalate]
    · rw [List.cons_append, List.intercalate_cons_of_ne_nil (by simp), ih hrest,
        List.intercalate_cons_of_ne_nil hrest]
      simp only [List.append_assoc]

/-- **A path as it is read from a text**: each of its segments is one. -/
def IsPlain (p : Path) : Prop :=
  ∀ part ∈ p.segments.map String.toList, '/' ∉ part ∧ isSegment part = true

theorem map_segments_ofString (s : String) :
    (ofString s).segments.map String.toList = segmentsOf s.toList := by
  have hid : String.toList ∘ String.ofList = id := funext fun _ => String.toList_ofList
  rw [segments_ofString, List.map_map, hid, List.map_id]

theorem isPlain_ofString (s : String) : (ofString s).IsPlain := by
  intro part hpart
  rw [map_segments_ofString] at hpart
  exact segment_of_mem hpart

/-- The text of a path that is not written as a single dot. -/
theorem toList_toString {p : Path} (h : p ≠ ⟨.relative, []⟩) :
    p.toString.toList =
      p.anchor.toString.toList ++ ['/'].intercalate (p.segments.map String.toList) := by
  unfold toString
  split
  · rename_i hanchor hnil
    exact absurd (congr (congrArg Path.mk hanchor) hnil) h
  · rw [String.toList_append, String.toList_intercalate]
    rfl

/-- The text below the anchor does not add to it. -/
theorem anchorOf_append (anchor : Anchor) {below : List Char} (h : below.head? ≠ some '/') :
    anchorOf (anchor.toString.toList ++ below) = anchor := by
  cases anchor <;> cases below <;> simp_all [Anchor.toString, anchorOf]

namespace IsPlain

variable {p : Path}

/-- **The text of a path has the segments of the path.** -/
theorem segmentsOf_toString (hp : p.IsPlain) :
    segmentsOf p.toString.toList = p.segments.map String.toList := by
  by_cases h : p = ⟨.relative, []⟩
  · subst h
    rfl
  · have hparts := segmentsOf_intercalate hp
    rw [toList_toString h]
    cases p.anchor <;> simpa [Anchor.toString] using hparts

theorem anchorOf_toString (hp : p.IsPlain) : anchorOf p.toString.toList = p.anchor := by
  by_cases h : p = ⟨.relative, []⟩
  · subst h
    rfl
  · rw [toList_toString h]
    refine anchorOf_append _ ?_
    by_cases hnil : p.segments.map String.toList = []
    · rw [hnil]
      nofun
    · obtain ⟨c, rest, hparts, hc⟩ := exists_cons_intercalate hnil hp
      rw [hparts]
      simpa using hc

/-- **The text of a path names that path.** -/
theorem ofString_toString (hp : p.IsPlain) : ofString p.toString = p := by
  have hid : String.ofList ∘ String.toList = id := funext fun _ => String.ofList_toList
  have hsegments : (ofString p.toString).segments = p.segments := by
    rw [segments_ofString, hp.segmentsOf_toString, List.map_map, hid, List.map_id]
  have hboth := congr (congrArg Path.mk hp.anchorOf_toString) hsegments
  exact hboth

end IsPlain

/-- The path that a text names is written with the segments of the text. -/
theorem segmentsOf_toString (s : String) :
    segmentsOf (ofString s).toString.toList = segmentsOf s.toList := by
  rw [(isPlain_ofString s).segmentsOf_toString, map_segments_ofString]

/-- A segment below a path is one of a path. -/
theorem IsPlain.join {p : Path} (hp : p.IsPlain) {name : String} (h : '/' ∉ name.toList)
    (hsegment : isSegment name.toList = true) : (p.join name).IsPlain := by
  intro part hpart
  rw [join_of_segment h hsegment, List.map_append, List.mem_append] at hpart
  rcases hpart with hpart | hpart
  · exact hp part hpart
  · rw [List.mem_singleton.mp hpart]
    exact ⟨h, hsegment⟩

end Path

end LintBridge
