import LintBridge.Proofs.Uri.RoundTrip
import LintBridge.Proofs.Uri.Surrogate

/-!
# Targets as URIs

A target that is a URI stays as it is, and every other target is taken for a path and written as the
URI of a file. Whatever the path, what is written is a URI in its turn: its scheme is longer than a
drive letter, and since all that follows is letters, digits and harmless marks, it can be read. So
**a target has to be made a URI only once**, and what comes out is a URI whatever went in. A target
may hold surrogates; a URI keeps them, and a path that holds any has no URI.

* `LintBridge.Uri.IsUri` – a target that can be read and has a scheme, which is no drive letter;
* `LintBridge.Uri.Convertible` – **a target that can be written as a URI**, as
  `LintBridge.Uri.ofTarget_ok_iff` says;
* `LintBridge.Uri.isUri_of_ofPathText` – the URI of a path is one, also where the path has a host;
* `LintBridge.Uri.not_isUri_of_colon` – what stands before a colon all by itself is no scheme,
  whichever characters are taken for letters of a drive;
* `LintBridge.Uri.ofTarget_projection` – the main result.
-/

namespace LintBridge.Uri

open Json (CodePoints)

/-- **A target that is a URI**: it can be read, and it has a scheme that is no drive letter. -/
structure IsUri (target : String) : Prop where
  /-- It can be read. -/
  readable : Readable target
  /-- It has a scheme. -/
  scheme : schemeOf target ≠ ""
  /-- The scheme is no drive letter. -/
  driveless : looksLikeDrive target = false

/-- **A target that can be written as a URI.** -/
structure Convertible (target : CodePoints) : Prop where
  /-- It can be read. -/
  readable : Readable target.toString
  /-- It is more than a host. -/
  path : ¬ HostOnly target.toString.toList
  /-- It is a URI already, or there are no surrogates in it. -/
  encodable : IsUri target.toString ∨ target.fault? = none

/-! ### The URI of a path -/

section Paths

variable {uri : String}

theorem isFile_eq_of_readable (h : Readable uri) :
    isFile uri = .ok (schemeOf uri == fileScheme) := by
  rw [isFile, split_eq_ok.mpr ⟨h, rfl⟩]
  rfl

/-- **Whatever a path is written as**, only letters, digits and marks stand after the two slashes:
in its host everything else is written out, and so it is below, but for the colon of a drive. -/
theorem exists_hostless_of_ofPathText {text : String} (h : ofPathText text = .ok uri) :
    ∃ rest, uri = hostless rest ∧ ∀ c ∈ rest, isPathChar c = true := by
  rw [ofPathText] at h
  obtain ⟨⟨host, path⟩, -, h⟩ := bind_eq_ok.mp h
  have huri := (Except.ok.inj h).symm
  have hpath : ∀ c ∈ encodePath (withSlash path), isPathChar c = true := isPathChar_encodePath
  have hhost : ∀ c ∈ (Text.Percent.encode (String.ofList host)).toList, isPathChar c = true :=
    fun c hc => isPathChar_of_isWritten (Text.Percent.isWritten_of_mem_encode hc)
  split at huri
  · -- The two slashes in front of the path take the place of those before a host.
    rename_i below _ hslashes
    rw [hslashes] at huri hpath
    exact ⟨below, huri, fun c hc => hpath c (by simp [hc])⟩
  · refine ⟨_, huri, fun c hc => ?_⟩
    rcases List.mem_append.mp hc with hc | hc
    · exact hhost c hc
    · exact hpath c hc

section Written

variable {rest : List Char}

theorem schemeOf_hostless (h : ∀ c ∈ rest, isPathChar c = true) :
    schemeOf (hostless rest) = fileScheme := by
  rw [schemeOf, splitScheme_hostless h]

theorem looksLikeDrive_hostless : looksLikeDrive (hostless rest) = false := by
  rw [looksLikeDrive, toList_hostless]
  rfl

/-- The authority is made of characters of the path, or of the host in front of it. -/
theorem mem_of_mem_authorityOf (h : ∀ c ∈ rest, isPathChar c = true) {c : Char}
    (hc : c ∈ authorityOf (hostless rest)) : c ∈ rest := by
  rw [authorityOf, splitScheme_hostless h] at hc
  exact List.takeWhile_subset _ hc

/-- The delimiters that are hidden are no ASCII. -/
theorem hidesDelimiter_of_lt {c : Char} (h : c.val < 128) : hidesDelimiter c = false := by
  have hlt : c.val.toNat < 128 := UInt32.lt_iff_toNat_lt.mp h
  rw [hidesDelimiter, List.contains_eq_mem, decide_eq_false_iff_not]
  simp only [List.mem_cons, List.not_mem_nil, or_false, not_or]
  omega

/-- There are no square brackets in it and no delimiters are hidden, so that it can be read. -/
theorem readable_hostless (h : ∀ c ∈ rest, isPathChar c = true) : Readable (hostless rest) := by
  have hchar : ∀ c ∈ authorityOf (hostless rest), isPathChar c = true :=
    fun c hc => h c (mem_of_mem_authorityOf h hc)
  have hnone : ∀ d, isPathChar d = false → (authorityOf (hostless rest)).contains d = false := by
    intro d hd
    rw [List.contains_eq_mem, decide_eq_false_iff_not]
    exact fun hmem => ne_of_isPathChar (hchar d hmem) hd rfl
  refine ⟨?_, fun c hc => hidesDelimiter_of_lt (val_lt_of_isPathChar (hchar c hc))⟩
  rw [checkBrackets, hnone '[' (by decide), hnone ']' (by decide)]

theorem isUri_hostless (h : ∀ c ∈ rest, isPathChar c = true) : IsUri (hostless rest) where
  readable := readable_hostless h
  scheme := by
    rw [schemeOf_hostless h]
    decide
  driveless := looksLikeDrive_hostless

end Written

/-- **The URI of a path is a URI**, and that of a file. -/
theorem isUri_of_ofPathText {text : String} (h : ofPathText text = .ok uri) :
    IsUri uri ∧ isFile uri = .ok true := by
  obtain ⟨rest, rfl, hrest⟩ := exists_hostless_of_ofPathText h
  refine ⟨isUri_hostless hrest, ?_⟩
  rw [isFile_eq_of_readable (readable_hostless hrest), schemeOf_hostless hrest, beq_self_eq_true]

end Paths

/-! ### What becomes of a target -/

section Targets

variable {target uri : CodePoints}

theorem Readable.isUri_iff {s : String} (h : Readable s) :
    IsUri s ↔ (schemeOf s != "" && !looksLikeDrive s) = true := by
  rw [Bool.and_eq_true, bne_iff_ne, Bool.not_eq_true']
  exact ⟨fun huri => ⟨huri.scheme, huri.driveless⟩, fun ⟨hscheme, hdrive⟩ => ⟨h, hscheme, hdrive⟩⟩

theorem Readable.ofTarget_eq (h : Readable target.toString) :
    ofTarget target =
      if schemeOf target.toString != "" && !looksLikeDrive target.toString then .ok target
      else (ofPathCodePoints target).map CodePoints.ofString := by
  rw [ofTarget, split_eq_ok.mpr ⟨h, rfl⟩]
  rfl

/-- **A URI stays as it is.** -/
theorem IsUri.ofTarget_eq (h : IsUri target.toString) : ofTarget target = .ok target := by
  rw [h.readable.ofTarget_eq, if_pos (h.readable.isUri_iff.mp h)]

/-- **Every other target is written as a path**, if it can be read. -/
theorem ofTarget_of_not_isUri (h : Readable target.toString) (hnot : ¬ IsUri target.toString) :
    ofTarget target = (ofPathCodePoints target).map CodePoints.ofString := by
  rw [h.ofTarget_eq, if_neg (mt h.isUri_iff.mpr hnot)]

theorem readable_of_ofTarget (h : ofTarget target = .ok uri) : Readable target.toString := by
  obtain ⟨parts, hparts, -⟩ := bind_eq_ok.mp h
  exact (split_eq_ok.mp hparts).1

/-- A target that is no URI becomes that of a file. -/
theorem exists_of_not_isUri (h : ofTarget target = .ok uri) (hnot : ¬ IsUri target.toString) :
    ∃ written, uri = .ofString written ∧ isFile written = .ok true ∧
      ofPathCodePoints target = .ok written := by
  rw [ofTarget_of_not_isUri (readable_of_ofTarget h) hnot] at h
  obtain ⟨written, hwritten, rfl⟩ := map_eq_ok.mp h
  exact ⟨written, rfl, (isUri_of_ofPathText (ofPathCodePoints_eq_ok.mp hwritten).2).2, hwritten⟩

/-- **Whatever a target becomes is a URI.** -/
theorem isUri_of_ofTarget (h : ofTarget target = .ok uri) : IsUri uri.toString := by
  by_cases htarget : IsUri target.toString
  · rw [htarget.ofTarget_eq] at h
    exact Except.ok.inj h ▸ htarget
  · obtain ⟨written, rfl, -, hwritten⟩ := exists_of_not_isUri h htarget
    rw [CodePoints.toString_ofString]
    exact (isUri_of_ofPathText (ofPathCodePoints_eq_ok.mp hwritten).2).1

/-- **A target can be written as a URI exactly if it is one already, or a path that can be encoded
and is more than a host.** -/
theorem ofTarget_ok_iff : (∃ uri, ofTarget target = .ok uri) ↔ Convertible target := by
  constructor
  · rintro ⟨uri, h⟩
    have hreadable := readable_of_ofTarget h
    by_cases htarget : IsUri target.toString
    · have hpath : ¬ HostOnly target.toString.toList := fun hhost =>
        htarget.scheme (schemeOf_of_hostOnly hhost)
      exact ⟨hreadable, hpath, .inl htarget⟩
    · obtain ⟨written, -, -, hwritten⟩ := exists_of_not_isUri h htarget
      obtain ⟨hfault, htext⟩ := ofPathCodePoints_eq_ok.mp hwritten
      refine ⟨hreadable, fun hhost => ?_, .inr hfault⟩
      cases htext.symm.trans (ofPathText_eq_error.mpr ⟨rfl, hhost⟩)
  · rintro ⟨hreadable, hpath, hencodable⟩
    by_cases htarget : IsUri target.toString
    · exact ⟨target, htarget.ofTarget_eq⟩
    · have hfault := hencodable.resolve_left htarget
      rw [ofTarget_of_not_isUri hreadable htarget]
      cases htext : ofPathText target.toString with
      | error e => exact absurd (ofPathText_eq_error.mp htext).2 hpath
      | ok written => exact ⟨_, map_eq_ok.mpr ⟨_, ofPathCodePoints_eq_ok.mpr ⟨hfault, htext⟩, rfl⟩⟩

/-! ### A colon in the second place -/

/-- A character that is no letter is no scheme. -/
theorem schemeOf_of_colon {target : String} {c : Char} {rest : List Char}
    (h : target.toList = c :: ':' :: rest) (hc : c.isAlpha = false) : schemeOf target = "" := by
  rw [schemeOf, visible, h]
  by_cases hblank : c.val ≤ 32
  · -- The character is skipped, and the colon has nothing in front of it.
    rw [List.dropWhile_cons_of_pos (by simpa using hblank),
      List.dropWhile_cons_of_neg (by decide), List.filter_cons_of_pos (by decide)]
    rfl
  · have hkept : (c != '\t' && c != '\r' && c != '\n') = true := by
      have hne : ∀ d : Char, d.val ≤ 32 → (c != d) = true :=
        fun d hd => bne_iff_ne.mpr fun heq => hblank (heq ▸ hd)
      rw [hne '\t' (by decide), hne '\r' (by decide), hne '\n' (by decide)]
      rfl
    rw [List.dropWhile_cons_of_neg (by simpa using hblank), List.filter_cons, if_pos hkept,
      List.filter_cons, if_pos (by decide)]
    by_cases hcolon : c = ':'
    · subst hcolon
      rfl
    · rw [splitScheme, List.takeWhile_cons_of_pos (by simpa using hcolon),
        List.takeWhile_cons_of_neg (by decide)]
      simp [hc]

/-- **A target with a colon in the second place is no URI**, whatever the character before it. -/
theorem not_isUri_of_colon {target : String} {c : Char} {rest : List Char}
    (h : target.toList = c :: ':' :: rest) : ¬ IsUri target := by
  rintro ⟨-, hscheme, hdrive⟩
  rw [looksLikeDrive, h] at hdrive
  exact hscheme (schemeOf_of_colon h hdrive)

end Targets

/-! ### The main result -/

/-- **Targets are projected onto URIs.** If a target becomes a URI, then

* the URI has a scheme, and becomes itself;
* a target that has no scheme, or looks like a path with a drive, has been taken for a path, and the
  URI is that of a file. Every other target has stayed as it was;
* the URI is that of a file whenever there is a colon in the second place of the target, whatever is
  taken for the letter of a drive.

A target becomes a URI unless it is refused when it is split, is all host, or has a surrogate in it
and is no URI. What targets become, and what stays as it is, are the URIs. -/
theorem ofTarget_projection (target : CodePoints) :
    (∀ uri, ofTarget target = .ok uri →
      ((∃ parts, split uri.toString = .ok parts ∧ parts.scheme ≠ "") ∧ ofTarget uri = .ok uri) ∧
      (∃ parts, split target.toString = .ok parts ∧
        (parts.scheme = "" ∨ looksLikeDrive target.toString = true →
          ∃ written, uri = .ofString written ∧ isFile written = .ok true ∧
            ofPathCodePoints target = .ok written) ∧
        (parts.scheme ≠ "" ∧ looksLikeDrive target.toString = false → uri = target)) ∧
      ∀ c rest, target.toString.toList = c :: ':' :: rest → isFile uri.toString = .ok true) ∧
    ((∃ uri, ofTarget target = .ok uri) ↔
      (∃ parts, split target.toString = .ok parts) ∧ ¬ HostOnly target.toString.toList ∧
        (IsUri target.toString ∨ target.fault? = none)) ∧
    ((∃ other, ofTarget other = .ok target) ↔ IsUri target.toString) ∧
    (ofTarget target = .ok target ↔ IsUri target.toString) := by
  refine ⟨fun uri h => ⟨?_, ?_, ?_⟩, ?_, ?_, isUri_of_ofTarget, IsUri.ofTarget_eq⟩
  · have huri := isUri_of_ofTarget h
    exact ⟨⟨_, split_eq_ok.mpr ⟨huri.readable, rfl⟩, huri.scheme⟩, huri.ofTarget_eq⟩
  · have hreadable := readable_of_ofTarget h
    refine ⟨_, split_eq_ok.mpr ⟨hreadable, rfl⟩, fun hpath => ?_, fun ⟨hscheme, hdrive⟩ => ?_⟩
    · refine exists_of_not_isUri h fun htarget => ?_
      rcases hpath with hnone | hletter
      · exact htarget.scheme hnone
      · exact Bool.false_ne_true (htarget.driveless.symm.trans hletter)
    · have hkept := IsUri.ofTarget_eq ⟨hreadable, hscheme, hdrive⟩
      exact Except.ok.inj (h.symm.trans hkept)
  · intro c rest hcolon
    obtain ⟨written, rfl, hfile, -⟩ := exists_of_not_isUri h (not_isUri_of_colon hcolon)
    rw [CodePoints.toString_ofString, hfile]
  · rw [ofTarget_ok_iff]
    simp only [split_eq_ok, exists_and_left, exists_eq, and_true]
    exact ⟨fun h => ⟨h.readable, h.path, h.encodable⟩, fun h => ⟨h.1, h.2.1, h.2.2⟩⟩
  · exact ⟨fun ⟨_, h⟩ => isUri_of_ofTarget h, fun h => ⟨_, h.ofTarget_eq⟩⟩

/-- A path with a drive is written as a URI, which then stays as it is; so does a target that is a
URI of another kind, however it is written. -/
theorem ofTarget_projection_drive :
    (ofTarget (.ofString "C:\\a [b].py") = .ok (.ofString "file:///c:%5Ca%20%5Bb%5D.py") ∧
      ofTarget (.ofString "file:///c:%5Ca%20%5Bb%5D.py") =
        .ok (.ofString "file:///c:%5Ca%20%5Bb%5D.py") ∧
      isFile "file:///c:%5Ca%20%5Bb%5D.py" = .ok true) ∧
    ∃ uri, ofTarget (.ofString " Git:/a b?c") = .ok uri ∧ uri = .ofString " Git:/a b?c" ∧
      ofTarget uri = .ok uri := by
  have hdrive : ofTarget (.ofString "C:\\a [b].py") =
      .ok (.ofString "file:///c:%5Ca%20%5Bb%5D.py") := by decide +kernel
  have hread : split " Git:/a b?c" = .ok ⟨"git", [], "/a b".toList⟩ := by rfl
  have hhost : ¬ HostOnly " Git:/a b?c".toList := by
    rintro ⟨host, hlist, -⟩
    cases hlist
  obtain ⟨hwritten, -⟩ := ofTarget_projection (.ofString "C:\\a [b].py")
  obtain ⟨⟨-, hagain⟩, -, hcolon⟩ := hwritten _ hdrive
  obtain ⟨hkept, hexists, -⟩ := ofTarget_projection (.ofString " Git:/a b?c")
  rw [CodePoints.toString_ofString, CodePoints.fault?_ofString] at hexists
  obtain ⟨uri, huri⟩ := hexists.mpr ⟨⟨_, hread⟩, hhost, .inr rfl⟩
  obtain ⟨⟨-, hstays⟩, ⟨parts, hparts, -, hsame⟩, -⟩ := hkept uri huri
  rw [CodePoints.toString_ofString] at hparts hsame hcolon
  obtain rfl : _ = parts := Except.ok.inj (hread.symm.trans hparts)
  have hgit := hsame ⟨by decide, by decide +kernel⟩
  exact ⟨⟨hdrive, hagain, hcolon 'C' _ rfl⟩, uri, huri, hgit, hstays⟩

/-- The path `/` followed by a surrogate has no URI, and a URI that ends with one is kept. -/
example : ofTarget [.scalar '/', .surrogate 0] = .error (.unencodable ⟨1, 0, 0⟩) ∧
    ofTarget (CodePoints.ofString "file:///" ++ [.surrogate 0]) =
      .ok (CodePoints.ofString "file:///" ++ [.surrogate 0]) := by
  decide +kernel

end LintBridge.Uri
