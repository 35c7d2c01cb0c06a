import LintBridge.Proofs.Matching.Aspect
import LintBridge.Proofs.Matching.Comparable

/-!
# A document by any of its URIs

A URI spells a path in many ways: with escapes, with slashes doubled and dots between them, with a
drive letter in either case. The path is normalised, and the URI written for it differs from the one
it came from. Whichever of the two the linter is asked by, **the document gets the same
diagnostics**, and those that come without a file are its own, if only its path can be read as a
target.

* `LintBridge.Matching.segmentsOf_rereadPath` – a path and what comes back from its URI have the
  same segments when they are folded;
* `LintBridge.Matching.uri_names_file` – the main result;
* `LintBridge.Matching.not_uri_names_file` – a path that cannot be read is not named by its URI.
-/

namespace LintBridge

open Json (Value)

namespace Uri

/-- A URI that is not empty of a path is its text. -/
theorem pathText_eq {uri text : String} (h : fileText? uri = .ok (some text)) (hne : text ≠ "") :
    pathText uri = .ok text := by
  unfold pathText
  rw [h]
  dsimp only [bind, Except.bind]
  split
  · rename_i heq
    exact absurd (Option.some.inj heq) hne
  · rename_i heq
    cases heq
    rfl
  · rename_i heq
    cases heq

/-- The path behind a URI is that of its text. -/
theorem toPath?_eq_some {uri : String} {file : Path} (h : toPath? uri = .ok (some file)) :
    ∃ text, pathText uri = .ok text ∧ file = Path.ofString text := by
  unfold toPath? at h
  obtain ⟨text?, htext, h⟩ := bind_eq_ok.mp h
  split at h
  · cases h
  · rename_i text hne
    cases h
    exact ⟨text, pathText_eq htext hne, rfl⟩
  · cases h

end Uri

namespace Matching

open LintBridge.Path (segmentsOf)

/-- **A path and what comes back from its URI have the same segments when they are folded**: a drive
letter loses its slash and its case, which make no difference. -/
theorem segmentsOf_rereadPath (path : List Char) :
    segmentsOf (folded (Uri.rereadPath path)) = segmentsOf (folded path) := by
  by_cases h : Uri.HasDrive path
  · obtain ⟨c, rest, rfl, hc⟩ := h
    have hletter : ∀ n < 128, (Char.ofNat n).isAlpha = true →
        Text.foldChar (toSlash (Char.ofNat n).toLower) =
          Text.foldChar (toSlash (Char.ofNat n)) := by decide +kernel
    have hfold := hletter c.toNat (Uri.toNat_lt_of_isAlpha hc)
    rw [Char.ofNat_toNat] at hfold
    rw [Uri.rereadPath, if_pos hc]
    change segmentsOf (Text.foldChar (toSlash c.toLower) ++ folded (':' :: rest)) =
      segmentsOf ('/' :: (Text.foldChar (toSlash c) ++ folded (':' :: rest)))
    rw [hfold hc, Path.segmentsOf_cons_slash]
  · rw [Uri.rereadPath_of_not_hasDrive h]

/-- A text of which a segment has more to it than dots and backslashes has segments when it is
folded. -/
theorem segmentsOf_folded_of_segment {s part : List Char} (hpart : part ∈ segmentsOf s)
    (h : ∃ c ∈ part, c ≠ '.' ∧ c ≠ '\\') : segmentsOf (folded s) ≠ [] := by
  obtain ⟨c, hc, hdot, hback⟩ := h
  have hslash : c ≠ '/' := by
    rintro rfl
    exact (Path.segment_of_mem hpart).1 hc
  have hfolded : segmentsOf (folded part) ≠ [] :=
    segmentsOf_folded_ne_nil ⟨c, hc, hslash, hdot, hback⟩
  have hall : segmentsOf (folded s) =
      (segmentsOf s).flatMap fun part => segmentsOf (folded part) :=
    Path.segmentsOf_flatMap rfl rfl s
  intro hnil
  rw [hall, List.flatMap_eq_nil_iff] at hnil
  exact hfolded (hnil part hpart)

/-! ### The path of a document -/

section Document

variable {text : String} (hroot : (Path.ofString text).anchor = .root)

include hroot

/-- The text of a path at the root. -/
theorem toList_toString : (Path.ofString text).toString.toList =
    '/' :: ['/'].intercalate (segmentsOf text.toList) := by
  have hne : Path.ofString text ≠ ⟨.relative, []⟩ := by
    intro heq
    rw [heq] at hroot
    cases hroot
  rw [Path.toList_toString hne, hroot, Path.map_segments_ofString]
  rfl

/-- A path at the root that has segments begins with a single slash. -/
theorem isRooted_toString (hne : segmentsOf text.toList ≠ []) :
    Uri.IsRooted (Path.ofString text).toString.toList := by
  rw [toList_toString hroot]
  obtain ⟨c, rest, hparts, hc⟩ :=
    Path.exists_cons_intercalate hne fun part hpart => Path.segment_of_mem hpart
  exact ⟨c, rest, by rw [hparts], hc⟩

/-- A path at the root can be read as a target if there is something to see in its first segment. -/
theorem readable_of_visible
    (h : ∃ segment ∈ (Path.ofString text).segments.head?,
      ∃ c ∈ segment.toList, c ≠ '\t' ∧ c ≠ '\r' ∧ c ≠ '\n') :
    Uri.Readable (Path.ofString text).toString := by
  obtain ⟨segment, hsegment, c, hc, htab, hreturn, hnewline⟩ := h
  rw [Path.segments_ofString, List.head?_map] at hsegment
  obtain ⟨part, hpart, rfl⟩ := Option.map_eq_some_iff.mp hsegment
  rw [String.toList_ofList] at hc
  have hslash : '/' ∉ part := (Path.segment_of_mem (List.mem_of_mem_head? hpart)).1
  obtain ⟨rest, hparts⟩ := List.head?_eq_some_iff.mp hpart
  obtain ⟨more, hmore⟩ : ∃ more, ['/'].intercalate (part :: rest) = part ++ more := by
    cases rest with
    | nil => exact ⟨_, rfl⟩
    | cons => exact ⟨_, rfl⟩
  -- What is seen of the segment is not empty, and keeps the slash before it from being one of two.
  obtain ⟨d, seen, hseen⟩ : ∃ d seen,
      part.filter (fun c => c != '\t' && c != '\r' && c != '\n') = d :: seen :=
    List.exists_cons_of_ne_nil (List.ne_nil_of_mem
      (List.mem_filter.mpr ⟨hc, by simp [htab, hreturn, hnewline]⟩))
  have hd : d ≠ '/' := by
    rintro rfl
    exact hslash (List.mem_of_mem_filter (hseen ▸ List.mem_cons_self))
  have hvisible : ∃ after, Uri.visible (Path.ofString text).toString = '/' :: d :: after := by
    rw [Uri.visible, toList_toString hroot, hparts, hmore, List.dropWhile_cons_of_neg (by decide),
      List.filter_cons_of_pos (by decide), List.filter_append, hseen]
    exact ⟨_, rfl⟩
  have hauthority : Uri.authorityOf (Path.ofString text).toString = [] := by
    obtain ⟨after, hafter⟩ := hvisible
    rw [Uri.authorityOf, hafter, Uri.splitScheme_slash]
    unfold Uri.splitAuthority
    split
    · rename_i heq
      exact absurd (List.cons.inj (List.cons.inj heq).2).1 hd
    · rfl
  refine ⟨by rw [hauthority]; rfl, fun c hc => ?_⟩
  rw [hauthority] at hc
  cases hc

/-- **A target with the segments of a text names the path of the text**, unless the path cannot be
read. -/
theorem names_toString {target text' : String} (htarget : Uri.pathText target = .ok text')
    (hsegments : segmentsOf (folded text'.toList) = segmentsOf (folded text.toList))
    (hne : segmentsOf (folded text.toList) ≠ []) :
    names target (Path.ofString text).toString =
      (Uri.split (Path.ofString text).toString).map fun _ => true := by
  have hfolded := segmentsOf_folded (Path.segmentsOf_toString text)
  exact names_eq htarget (toList_toString hroot) (hsegments.trans hfolded.symm) (hfolded ▸ hne)

/-- So does the URI that is written for the path. -/
theorem exists_written (hne : segmentsOf text.toList ≠ [])
    (hfolded : segmentsOf (folded text.toList) ≠ []) :
    ∃ written, Uri.ofPathText (Path.ofString text).toString = .ok written ∧
      names written (Path.ofString text).toString =
        (Uri.split (Path.ofString text).toString).map fun _ => true := by
  obtain ⟨written, hwritten, hread⟩ := Uri.fileText?_ofPathText (isRooted_toString hroot hne)
  have hsegments := (segmentsOf_rereadPath (Path.ofString text).toString.toList).trans
    (segmentsOf_folded (Path.segmentsOf_toString text))
  -- What comes back is not empty, as it has segments.
  have hread_ne : String.ofList (Uri.rereadPath (Path.ofString text).toString.toList) ≠ "" := by
    intro hempty
    rw [String.ofList_eq_empty_iff.mp hempty] at hsegments
    exact hfolded hsegments.symm
  rw [← String.toList_ofList (l := Uri.rereadPath _)] at hsegments
  exact ⟨written, hwritten,
    names_toString hroot (Uri.pathText_eq hread hread_ne) hsegments hfolded⟩

end Document

/-- The name of a path is the last segment of its text. -/
theorem segment_of_name {text : String} {c : Char} (hc : c ∈ (Path.ofString text).name.toList) :
    ∃ part ∈ segmentsOf text.toList, c ∈ part := by
  rw [Path.name, Path.segments_ofString, List.getLast?_map] at hc
  cases hlast : (segmentsOf text.toList).getLast? with
  | none =>
    rw [hlast] at hc
    cases hc
  | some part =>
    rw [hlast, Option.map_some, Option.getD_some, String.toList_ofList] at hc
    exact ⟨part, List.mem_of_getLast? hlast, hc⟩

/-! ### All names of a document -/

/-- **Whichever of its URIs the linter is asked by, a document gets the same diagnostics.** The path
of a URI, if it is at the root and its last segment has more to it than dots and backslashes, is
named by the URI and by the one written for it, provided that the path can be read as a target; it
can if there is something to see in its first segment. If not, it is refused as a target would be,
whatever the name. So a pass collects the same by either name, and an output of flat lists is picked
without loss. -/
theorem uri_names_file {uri : String} {file : Path} (hfile : Uri.toPath? uri = .ok (some file))
    (hroot : file.anchor = .root) (hname : ∃ c ∈ file.name.toList, c ≠ '.' ∧ c ≠ '\\') :
    (∃ written, Uri.ofPathText file.toString = .ok written ∧
      names uri file.toString = (Uri.split file.toString).map (fun _ => true) ∧
      names written file.toString = (Uri.split file.toString).map (fun _ => true) ∧
      ∀ host run s workspace, (Linter.collect host run s workspace uri file).result =
        (Linter.collect host run s workspace written file).result) ∧
    (Uri.Readable file.toString → ∀ (ctx : Response.Context) (stdout : String) (docs : List Value)
      (lists : List (List Value)), ctx.requestedUri = uri →
      Response.documents stdout = .ok docs → List.Forall₂ Response.IsFlat docs lists →
      ∃ groups, (Response.parse Response.Shape.all ctx stdout).result = .ok groups ∧
        select file.toString groups = .ok (lists.flatMap (Response.flatRecords ctx))) ∧
    ((∃ segment ∈ file.segments.head?,
        ∃ c ∈ segment.toList, c ≠ '\t' ∧ c ≠ '\r' ∧ c ≠ '\n') → Uri.Readable file.toString) := by
  obtain ⟨text, htext, rfl⟩ := Uri.toPath?_eq_some hfile
  obtain ⟨c, hc, hvisible⟩ := hname
  obtain ⟨part, hpart, hmem⟩ := segment_of_name hc
  have hfolded := segmentsOf_folded_of_segment hpart ⟨c, hmem, hvisible⟩
  have hnames := names_toString hroot htext rfl hfolded
  obtain ⟨written, hwritten, hnames'⟩ :=
    exists_written hroot (List.ne_nil_of_mem hpart) hfolded
  refine ⟨⟨written, hwritten, hnames, hnames', fun host run s workspace =>
    Linter.collect_asked (hnames'.trans hnames.symm) host run s workspace⟩, ?_, ?_⟩
  · rintro hreadable ctx stdout docs lists rfl hdocs hflat
    obtain ⟨groups, hgroups, htargets, hrecords⟩ := @Response.parse_of_isFlat ctx _ _ _ hdocs hflat
    refine ⟨groups, hgroups, ?_⟩
    rw [← hrecords]
    refine select_of_named fun g hg => ?_
    rw [htargets g hg, belongs_ofString, hnames, Uri.split_eq_ok.mpr ⟨hreadable, rfl⟩]
    rfl
  · exact readable_of_visible hroot

/-! ### Two paths -/

/-- A path is named by the URI that spells it with doubled slashes, a dot and an escaped slash, and
by the one written for it. -/
theorem uri_names_file_spelled :
    Uri.toPath? "file:///a//./B%2Fc" = .ok (some ⟨.root, ["a", "B", "c"]⟩) ∧
      names "file:///a//./B%2Fc" "/a/B/c" = .ok true ∧
      ∃ written, Uri.ofPathText "/a/B/c" = .ok written ∧ names written "/a/B/c" = .ok true := by
  have hfile : Uri.toPath? "file:///a//./B%2Fc" = .ok (some ⟨.root, ["a", "B", "c"]⟩) := by
    decide +kernel
  obtain ⟨⟨written, hwritten, hnames, hnames', -⟩, -, -⟩ :=
    uri_names_file hfile rfl ⟨'c', by decide, by decide, by decide⟩
  have hsplit : (Uri.split "/a/B/c").map (fun _ => true) = .ok true := by decide +kernel
  exact ⟨hfile, hnames.trans hsplit, written, hwritten, hnames'.trans hsplit⟩

/-- **A path that is no target is not named by its URI**, though it is at the root and has a proper
name: with a tab for its first segment it is taken for a host that it does not have. -/
theorem not_uri_names_file : ¬ ∀ (uri : String) (file : Path),
    Uri.toPath? uri = .ok (some file) → file.anchor = .root →
      (∃ c ∈ file.name.toList, c ≠ '.' ∧ c ≠ '\\') → names uri file.toString = .ok true := by
  intro h
  have hfile : Uri.toPath? "file:///%09/%5Bx" = .ok (some ⟨.root, ["\t", "[x"]⟩) := by
    decide +kernel
  have hnames : names "file:///%09/%5Bx" "/\t/[x" = .error .badBrackets := by decide +kernel
  have hok := h _ _ hfile rfl ⟨'x', by decide, by decide, by decide⟩
  cases hnames.symm.trans hok

end Matching

end LintBridge
