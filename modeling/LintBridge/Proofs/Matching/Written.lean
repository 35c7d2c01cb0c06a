import LintBridge.Proofs.Matching.Refused

/-!
# A path and its URI as targets

The linter may name a file by its path or by its URI. **The URI that is written for a path spells
that path and no other**, whatever characters the path holds, and it can always be read. So both
name the same documents, with one reservation: a path is split as a URI is, and where its first
segment is nothing but tabs and line ends, the next one may be taken for an authority and refused.

* `LintBridge.Path.IsOrdinary` – a normalised path at the root that begins with no drive letter;
* `LintBridge.Path.IsOrdinary.exists_written` – its URI is read back as its text;
* `LintBridge.Matching.names_path` – what a path names, in terms of what its URI names;
* `LintBridge.Matching.written_names_alike` – the main result;
* `LintBridge.Matching.not_written_names_alike` – a path that is refused where its URI is not.
-/

namespace LintBridge

/-! ### What is read from a URI -/

namespace Uri

section Read

variable {uri text : String}

/-- Only the URI of a file has the text of a path. -/
theorem isFile_of_fileText? (h : fileText? uri = .ok (some text)) : isFile uri = .ok true := by
  unfold fileText? at h
  obtain ⟨parts, hsplit, h⟩ := bind_eq_ok.mp h
  unfold isFile
  rw [hsplit]
  refine congrArg Except.ok ?_
  by_contra hother
  dsimp only at h
  rw [if_pos (by simpa using hother)] at h
  cases h

theorem readable_of_fileText? (h : fileText? uri = .ok (some text)) : Readable uri := by
  by_contra hnot
  obtain ⟨e, he⟩ := split_fails_iff.mpr hnot
  rw [fileText?_eq_error.mpr he] at h
  cases h

theorem toPath?_of_fileText? (h : fileText? uri = .ok (some text)) (hne : text ≠ "") :
    toPath? uri = .ok (some (Path.ofString text)) := by
  unfold toPath?
  rw [h]
  dsimp only [bind, Except.bind]
  split
  · rename_i heq
    exact absurd (Option.some.inj heq) hne
  · rename_i heq
    cases heq
    rfl
  · rename_i heq
    cases heq

end Read

end Uri

/-! ### Ordinary paths -/

namespace Path

/-- **A normalised path at the root that begins with no drive letter.** -/
structure IsOrdinary (file : Path) : Prop where
  /-- It is at the root, with one slash in front. -/
  root : file.anchor = .root
  /-- It is the path that its text names. -/
  normal : ofString file.toString = file
  /-- It begins with no drive letter. -/
  driveless : ¬ Uri.HasDrive file.toString.toList

namespace IsOrdinary

variable {file : Path}

theorem toList_eq (h : file.IsOrdinary) : ∃ rest, file.toString.toList = '/' :: rest := by
  have hlist := @Matching.toList_toString file.toString (h.normal.symm ▸ h.root)
  rw [h.normal] at hlist
  exact ⟨_, hlist⟩

theorem toString_ne_empty (h : file.IsOrdinary) : file.toString ≠ "" := by
  obtain ⟨rest, hlist⟩ := h.toList_eq
  intro hempty
  rw [hempty] at hlist
  cases hlist

/-- It has something below its slash, or is the root. -/
theorem isRooted_or_eq (h : file.IsOrdinary) :
    Uri.IsRooted file.toString.toList ∨ file = ⟨.root, []⟩ := by
  by_cases hempty : file.segments = []
  · exact .inr (congr (congrArg Path.mk h.root) hempty)
  · have hsegments : segmentsOf file.toString.toList ≠ [] := by
      intro hnil
      rw [← h.normal, segments_ofString, hnil] at hempty
      exact hempty rfl
    have hrooted := @Matching.isRooted_toString file.toString (h.normal.symm ▸ h.root) hsegments
    rw [h.normal] at hrooted
    exact .inl hrooted

/-- **The URI that is written for a path is read back as its text.** -/
theorem exists_written (h : file.IsOrdinary) :
    ∃ uri, Uri.ofPathText file.toString = .ok uri ∧
      Uri.fileText? uri = .ok (some file.toString) := by
  rcases h.isRooted_or_eq with hrooted | rfl
  · obtain ⟨uri, hwritten, hread⟩ := Uri.fileText?_ofPathText hrooted
    rw [Uri.rereadPath_of_not_hasDrive h.driveless, String.ofList_toList] at hread
    exact ⟨uri, hwritten, hread⟩
  · exact ⟨"file:///", by decide +kernel, by decide +kernel⟩

/-- A path can be read as a target if it is the root or there is something to see in its first
segment. -/
theorem readable (h : file.IsOrdinary)
    (hvisible : ∀ segment ∈ file.segments.head?,
      ∃ c ∈ segment.toList, c ≠ '\t' ∧ c ≠ '\r' ∧ c ≠ '\n') : Uri.Readable file.toString := by
  cases hsegments : file.segments with
  | nil =>
    obtain rfl : file = ⟨.root, []⟩ := congr (congrArg Path.mk h.root) hsegments
    have hauthority : Uri.authorityOf "/" = [] := by decide +kernel
    have hroot : Path.toString ⟨.root, []⟩ = "/" := by decide +kernel
    rw [hroot]
    exact ⟨by rw [hauthority]; rfl, by rw [hauthority]; nofun⟩
  | cons segment rest =>
    have hreadable := @Matching.readable_of_visible file.toString (h.normal.symm ▸ h.root)
    rw [h.normal] at hreadable
    have hhead : segment ∈ file.segments.head? := by simp [hsegments]
    exact hreadable ⟨segment, hhead, hvisible segment hhead⟩

end IsOrdinary

end Path

/-! ### What both name -/

namespace Matching

section Names

variable {uri text : String} {rest : List Char}

/-- **What a path names, its URI names**; the path has to be split in addition. -/
theorem names_path (hpath : text.toList = '/' :: rest) (huri : Uri.pathText uri = .ok text)
    (document : String) :
    names text document =
      names uri document >>= fun found => (Uri.split text).map fun _ => found := by
  unfold names
  rw [comparable_eq text, comparable_eq uri, huri, pathText_of_slash hpath]
  cases comparable document with
  | error e => rfl
  | ok wanted =>
    simp only [bind, Except.bind, pure, Except.pure, Except.map]
    cases Uri.split text <;> rfl

/-- So they name the same unless the path is refused, and the document is not. -/
theorem names_path_eq_iff (hpath : text.toList = '/' :: rest) (huri : Uri.pathText uri = .ok text)
    (hreadable : Uri.Readable uri) {document : String} :
    names text document = names uri document ↔ Uri.Readable text ∨ ¬ Uri.Readable document := by
  rw [names_path hpath huri]
  by_cases hdocument : Uri.Readable document
  · obtain ⟨found, hfound⟩ := exists_names_iff.mpr ⟨hdocument, hreadable⟩
    rw [hfound, or_iff_left (not_not_intro hdocument), ← not_iff_not, ← Uri.split_fails_iff]
    cases Uri.split text <;> simp [bind, Except.bind, Except.map]
  · obtain ⟨e, he⟩ := Uri.split_fails_iff.mpr hdocument
    have hnames : names uri document = .error e := names_eq_error.mpr (.inl he)
    rw [hnames]
    exact iff_of_true rfl (.inr hdocument)

end Names

/-- **The URI that is written for a path spells it, and both name the same documents.** Let a path
be normalised and at the root, and begin with no drive letter, whatever characters it holds. Then
there is a URI of it, and

* that is the URI of a file. The path behind it is the path and its text is that of the path, and it
  is written for no other such path;
* the path names what its URI names, but that it has to be split in addition. So what comes of a
  comparison with a document is the same exactly if the path can be read as a target, or the
  document cannot;
* the path can be read if it is the root or there is something to see in its first segment. -/
theorem written_names_alike {file : Path} (h : file.IsOrdinary) :
    ∃ uri, Uri.ofPathText file.toString = .ok uri ∧
      (Uri.isFile uri = .ok true ∧ Uri.toPath? uri = .ok (some file) ∧
        Uri.pathText uri = .ok file.toString) ∧
      (∀ other : Path, other.IsOrdinary → Uri.ofPathText other.toString = .ok uri →
        other = file) ∧
      (∀ document,
        names file.toString document =
            (names uri document >>= fun found =>
              (Uri.split file.toString).map fun _ => found) ∧
          (names file.toString document = names uri document ↔
            Uri.Readable file.toString ∨ ¬ Uri.Readable document)) ∧
      ((∀ segment ∈ file.segments.head?,
          ∃ c ∈ segment.toList, c ≠ '\t' ∧ c ≠ '\r' ∧ c ≠ '\n') →
        Uri.Readable file.toString) := by
  have hbehind : ∀ {other : Path} {uri : String}, other.IsOrdinary →
      Uri.fileText? uri = .ok (some other.toString) → Uri.toPath? uri = .ok (some other) := by
    intro other uri hother hread
    rw [Uri.toPath?_of_fileText? hread hother.toString_ne_empty, hother.normal]
  obtain ⟨uri, hwritten, hread⟩ := h.exists_written
  obtain ⟨rest, hpath⟩ := h.toList_eq
  have htext := Uri.pathText_eq hread h.toString_ne_empty
  refine ⟨uri, hwritten, ⟨Uri.isFile_of_fileText? hread, hbehind h hread, htext⟩, ?_, ?_,
    h.readable⟩
  · intro other hother hsame
    obtain ⟨uri', hwritten', hread'⟩ := hother.exists_written
    obtain rfl : uri' = uri := Except.ok.inj (hwritten'.symm.trans hsame)
    exact Option.some.inj (Except.ok.inj ((hbehind hother hread').symm.trans (hbehind h hread)))
  · exact fun document => ⟨names_path hpath htext document,
      names_path_eq_iff hpath htext (Uri.readable_of_fileText? hread)⟩

/-- A path with blanks, delimiters, brackets and letters of other scripts in it. -/
def adorned : Path where
  anchor := .root
  segments := ["a b", "50%?#;[é]"]

theorem isOrdinary_adorned : adorned.IsOrdinary where
  root := rfl
  normal := by decide +kernel
  driveless := by
    have hlist : adorned.toString.toList = '/' :: 'a' :: ' ' :: "b/50%?#;[é]".toList := by
      decide +kernel
    rintro ⟨c, rest, hdrive, -⟩
    rw [hlist] at hdrive
    cases hdrive

/-- It is written with escapes, read back as it was, and names what its URI names. -/
theorem written_names_alike_adorned :
    adorned.IsOrdinary ∧
      ∃ uri, Uri.ofPathText adorned.toString = .ok uri ∧
        uri = "file:///a%20b/50%25%3F%23%3B%5B%C3%A9%5D" ∧
        Uri.toPath? uri = .ok (some adorned) ∧
        names adorned.toString "/c/50%?#;[É]" = names uri "/c/50%?#;[É]" := by
  obtain ⟨uri, hwritten, ⟨-, hbehind, -⟩, -, hnames, hreadable⟩ :=
    written_names_alike isOrdinary_adorned
  have hspelled : Uri.ofPathText adorned.toString =
      .ok "file:///a%20b/50%25%3F%23%3B%5B%C3%A9%5D" := by decide +kernel
  refine ⟨isOrdinary_adorned, uri, hwritten, Except.ok.inj (hwritten.symm.trans hspelled), hbehind,
    (hnames _).2.mpr (.inl (hreadable ?_))⟩
  rintro segment ⟨⟩
  exact ⟨'a', by decide, by decide, by decide, by decide⟩

/-- **A path need not name what its URI names**: with a tab for its first segment it is taken for an
authority that it does not have, and refused. -/
theorem not_written_names_alike : ¬ ∀ (file : Path) (uri document : String), file.IsOrdinary →
    Uri.ofPathText file.toString = .ok uri →
      (names uri document = .ok true ↔ names file.toString document = .ok true) := by
  intro h
  have hlist : (Path.toString ⟨.root, ["\t", "[x"]⟩).toList = ['/', '\t', '/', '[', 'x'] := by
    decide +kernel
  have hordinary : Path.IsOrdinary ⟨.root, ["\t", "[x"]⟩ := by
    refine ⟨rfl, by decide +kernel, ?_⟩
    rintro ⟨c, rest, hdrive, -⟩
    rw [hlist] at hdrive
    cases hdrive
  have hnames := (h ⟨.root, ["\t", "[x"]⟩ "file:///%09/%5Bx" "/project/[x" hordinary
    (by decide +kernel)).mp (by decide +kernel)
  revert hnames
  decide +kernel

end Matching

end LintBridge
