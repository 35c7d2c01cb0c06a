import LintBridge.Matching
import LintBridge.Proofs.Json.CodePoints
import LintBridge.Proofs.Path.Segments
import LintBridge.Proofs.Uri.RoundTrip
import Mathlib.Data.List.DropRight

/-!
# Comparable forms

Two names are compared in a form that has slashes only, none at the end, and no case. Of all that is
done to a name nothing depends on how its segments are put together, so **names with the same
segments have comparable forms with the same segments**, and then they name the same document.

* `LintBridge.Matching.folded` – a text with slashes only and without case;
* `LintBridge.Matching.segmentsOf_formOf` – a comparable form has the segments of that;
* `LintBridge.Matching.names_eq` – a target with the segments of a document names it, unless the
  name of the document cannot be read;
* `LintBridge.Matching.belongs_ofString`, `LintBridge.Matching.belongs_eq_error` – a target that the
  linter has written is compared as it is, and the comparison fails as if there were no surrogates
  in it.
-/

namespace LintBridge

/-! ### Folding -/

namespace Text

theorem foldChar_slash : foldChar '/' = ['/'] := rfl

theorem foldChar_dot : foldChar '.' = ['.'] := rfl

/-- A code point of a digit or above is neither a slash nor a dot. -/
theorem ofNat_ne {n : Nat} (h : 48 ≤ n) : Char.ofNat n ≠ '/' ∧ Char.ofNat n ≠ '.' := by
  have hvalue : (Char.ofNat n).toNat = n ∨ Char.ofNat n = '\x00' := by
    by_cases hvalid : n.isValidChar
    · exact .inl (congrArg Char.toNat (dif_pos hvalid))
    · exact .inr (dif_neg hvalid)
  have hne : ∀ d : Char, d.toNat < 48 → d ≠ '\x00' → Char.ofNat n ≠ d := by
    rintro d hd hzero rfl
    rcases hvalue with hvalue | hvalue
    · omega
    · exact hzero hvalue
  exact ⟨hne '/' (by decide) (by decide), hne '.' (by decide) (by decide)⟩

/-- **No other character is folded into slashes and dots.** -/
theorem exists_mem_foldChar {c : Char} (hslash : c ≠ '/') (hdot : c ≠ '.') :
    ∃ d ∈ foldChar c, d ≠ '/' ∧ d ≠ '.' := by
  have hascii : ∀ n < 128, Char.ofNat n ≠ '/' → Char.ofNat n ≠ '.' →
      (Char.ofNat n).toLower ≠ '/' ∧ (Char.ofNat n).toLower ≠ '.' := by decide +kernel
  have hspecials : ∀ entry ∈ foldSpecials, ∃ m ∈ entry.2,
      Char.ofNat m ≠ '/' ∧ Char.ofNat m ≠ '.' := by decide +kernel
  have hruns : ∀ run ∈ foldRuns, 48 ≤ (run.first : Int) + run.shift := by decide +kernel
  unfold foldChar mapCase
  split
  · rename_i hlt
    have hc := hascii c.toNat (UInt32.lt_iff_toNat_lt.mp hlt)
    rw [Char.ofNat_toNat] at hc
    exact ⟨_, List.mem_singleton_self _, hc hslash hdot⟩
  · dsimp only
    split
    · rename_i entry ns hfind
      obtain ⟨m, hm, hne⟩ := hspecials _ (List.mem_of_find?_eq_some hfind)
      exact ⟨_, List.mem_map_of_mem hm, hne⟩
    · split
      · rename_i m hshift
        obtain ⟨run, hrun, hm⟩ := List.exists_of_findSome?_eq_some hshift
        have hleast := hruns run hrun
        refine ⟨_, List.mem_singleton_self _, ofNat_ne ?_⟩
        rw [CaseRun.shift?] at hm
        split at hm
        · rename_i hmember
          simp only [Bool.and_eq_true, decide_eq_true_eq] at hmember
          have hfirst := hmember.1.1
          cases hm
          omega
        · cases hm
      · exact ⟨c, List.mem_singleton_self _, hslash, hdot⟩

end Text

namespace Matching

open LintBridge.Path (segmentsOf)

/-! ### The form of a text -/

/-- A backslash counts as a slash. -/
def toSlash (c : Char) : Char :=
  if c == '\\' then '/' else c

/-- A text with slashes only and without case. -/
def folded (s : List Char) : List Char :=
  s.flatMap fun c => Text.foldChar (toSlash c)

/-- The comparable form of a path text. -/
def formOf (text : String) : String :=
  let path := text.toList.map toSlash
  Text.foldCase (String.ofList (if 1 < path.length then dropTrailingSlashes path else path))

theorem comparable_eq (target : String) :
    comparable target = (Uri.pathText target).map formOf := by
  unfold comparable
  cases Uri.pathText target <;> rfl

theorem segmentsOf_append_slashes {s slashes : List Char} (h : ∀ c ∈ slashes, c = '/') :
    segmentsOf (s ++ slashes) = segmentsOf s := by
  induction slashes generalizing s with
  | nil => rw [List.append_nil]
  | cons c rest ih =>
    obtain ⟨rfl, hrest⟩ := List.forall_mem_cons.mp h
    have hnone : segmentsOf rest = [] := @ih [] hrest
    rw [Path.segmentsOf_append_slash, hnone, List.append_nil]

/-- Slashes at the end make no segment. -/
theorem segmentsOf_dropTrailingSlashes (s : List Char) :
    segmentsOf (dropTrailingSlashes s) = segmentsOf s := by
  have hslashes : ∀ c ∈ s.rtakeWhile (· == '/'), c = '/' := by
    intro c hc
    have hslash := @List.mem_rtakeWhile_imp _ (· == '/') _ _ hc
    exact beq_iff_eq.mp hslash
  have hsplit : dropTrailingSlashes s ++ s.rtakeWhile (· == '/') = s :=
    List.rdropWhile_append_rtakeWhile
  rw [← segmentsOf_append_slashes hslashes, hsplit]

/-- **A comparable form has the segments of the folded text.** -/
theorem segmentsOf_formOf (text : String) :
    segmentsOf (formOf text).toList = segmentsOf (folded text.toList) := by
  have hpath : ∀ path : List Char,
      segmentsOf (if 1 < path.length then dropTrailingSlashes path else path) =
        segmentsOf path := by
    intro path
    split
    · exact segmentsOf_dropTrailingSlashes path
    · rfl
  rw [formOf, Text.foldCase, String.toList_ofList, String.toList_ofList,
    Path.segmentsOf_flatMap_congr Text.foldChar_slash Text.foldChar_dot (hpath _), folded,
    List.flatMap_map]

/-- Texts of one path have the same segments when they are folded. -/
theorem segmentsOf_folded {s t : List Char} (h : segmentsOf s = segmentsOf t) :
    segmentsOf (folded s) = segmentsOf (folded t) :=
  Path.segmentsOf_flatMap_congr rfl rfl h

/-- A text with anything else than slashes, backslashes and dots has segments when it is folded. -/
theorem segmentsOf_folded_ne_nil {s : List Char} (h : ∃ c ∈ s, c ≠ '/' ∧ c ≠ '.' ∧ c ≠ '\\') :
    segmentsOf (folded s) ≠ [] := by
  obtain ⟨c, hc, hslash, hdot, hback⟩ := h
  have hkept : toSlash c = c := if_neg (by simpa using hback)
  obtain ⟨d, hd, hne⟩ := Text.exists_mem_foldChar hslash hdot
  exact Path.segmentsOf_ne_nil ⟨d, List.mem_flatMap.mpr ⟨c, hc, by rwa [hkept]⟩, hne⟩

/-! ### Names of one document -/

/-- Forms with the same segments name one document. -/
theorem sameDocument_of_segments {wanted candidate : String}
    (h : segmentsOf candidate.toList = segmentsOf wanted.toList)
    (hne : segmentsOf wanted.toList ≠ []) : sameDocument wanted candidate = true := by
  have hlast : lastSegment candidate = lastSegment wanted := by
    rw [lastSegment, Path.name, Path.segments_ofString, h, ← Path.segments_ofString]
    rfl
  have hnonempty : lastSegment wanted ≠ "" := by
    obtain ⟨part, hpart⟩ := Option.ne_none_iff_exists'.mp (mt List.getLast?_eq_none_iff.mp hne)
    have hsegment := (Path.segment_of_mem (List.mem_of_getLast? hpart)).2
    rw [lastSegment, Path.name, Path.segments_ofString, List.getLast?_map, hpart]
    exact mt String.ofList_eq_empty_iff.mp (Path.isSegment_iff.mp hsegment).1
  simp [sameDocument, hlast, hnonempty]

/-- A text that begins with a slash is no URI, and stands for itself if it can be read. -/
theorem pathText_of_slash {text : String} {rest : List Char} (h : text.toList = '/' :: rest) :
    Uri.pathText text = (Uri.split text).map fun _ => text := by
  have hscheme : Uri.schemeOf text = "" := Uri.schemeOf_of_slash h
  unfold Uri.pathText Uri.fileText?
  cases hsplit : Uri.split text with
  | error e => rfl
  | ok parts =>
    obtain ⟨-, rfl⟩ := Uri.split_eq_ok.mp hsplit
    simp only [bind, Except.bind, hscheme]
    rfl

/-- **A target with the segments of a document names it**, unless the name of the document cannot be
read. -/
theorem names_eq {target document text : String} {rest : List Char}
    (htarget : Uri.pathText target = .ok text) (hdocument : document.toList = '/' :: rest)
    (hsegments : segmentsOf (folded text.toList) = segmentsOf (folded document.toList))
    (hne : segmentsOf (folded document.toList) ≠ []) :
    names target document = (Uri.split document).map fun _ => true := by
  unfold names
  rw [comparable_eq, comparable_eq, htarget, pathText_of_slash hdocument]
  cases Uri.split document with
  | error e => rfl
  | ok parts =>
    refine congrArg Except.ok (sameDocument_of_segments ?_ ?_)
    · rw [segmentsOf_formOf, segmentsOf_formOf, hsegments]
    · rwa [segmentsOf_formOf]

/-! ### Targets that may hold surrogates -/

section Belongs

variable {target : Json.CodePoints} {document : String}

/-- A target that can be encoded belongs to the documents that it names. -/
theorem belongs_ofString (s : String) : belongs (.ofString s) document = names s document := by
  unfold belongs namesOtherwise
  rw [Json.CodePoints.toString_ofString, Json.CodePoints.fill_ofString]
  cases names s document with
  | error e => rfl
  | ok found => exact congrArg Except.ok (Bool.and_self found)

/-- Comparing a target with surrogates fails as it does with characters in their place. -/
theorem belongs_eq_error {e : Uri.Error} :
    belongs target document = .error e ↔ names target.toString document = .error e := by
  unfold belongs
  cases names target.toString document with
  | error e' => rfl
  | ok found => exact iff_of_false nofun nofun

theorem exists_belongs_iff : (∃ found, belongs target document = .ok found) ↔
    ∃ found, names target.toString document = .ok found := by
  unfold belongs
  cases names target.toString document with
  | error e => exact iff_of_false nofun nofun
  | ok found => exact iff_of_true ⟨_, rfl⟩ ⟨_, rfl⟩

end Belongs

end Matching

end LintBridge
