import LintBridge.Proofs.Matching.Refused
import LintBridge.Proofs.Uri.Caseless

/-!
# Names of one document

A target names a document if the comparable forms of both are equal, or end with the same segment.
Either test for itself is an equality, and **so is what they come to together**: the names that can
be read fall into classes, one for each last segment and one for each form that has none. A name
stays in its class when it is spelled in another case, or when slashes in it become backslashes,
unless it is the URI of a file, where they are different things.

* `LintBridge.Matching.Respelled` – another spelling of a name;
* `LintBridge.Matching.comparable_respelled` – it has the same comparable form;
* `LintBridge.Matching.names_equivalence` – the main result.
-/

namespace LintBridge.Matching

open Text (SameLetters)

/-! ### Classes -/

theorem sameDocument_iff {wanted candidate : String} : sameDocument wanted candidate = true ↔
    candidate = wanted ∨ lastSegment wanted ≠ "" ∧ lastSegment candidate = lastSegment wanted := by
  simp [sameDocument]

/-- **Comparable forms of one document are an equivalence.** -/
theorem sameDocument_equivalence :
    Equivalence fun candidate wanted => sameDocument wanted candidate = true where
  refl _ := sameDocument_iff.mpr (.inl rfl)
  symm {x y} h := by
    rw [sameDocument_iff] at h ⊢
    rcases h with rfl | ⟨hne, hlast⟩
    · exact .inl rfl
    · exact .inr ⟨hlast ▸ hne, hlast.symm⟩
  trans {x y z} hxy hyz := by
    rw [sameDocument_iff] at hxy hyz ⊢
    rcases hxy with rfl | ⟨hne, hlast⟩
    · exact hyz
    · rcases hyz with rfl | ⟨hne', hlast'⟩
      · exact .inr ⟨hne, hlast⟩
      · exact .inr ⟨hne', hlast.trans hlast'⟩

section Names

variable {target document : String}

theorem names_of_comparable {wanted candidate : String}
    (hdocument : comparable document = .ok wanted) (htarget : comparable target = .ok candidate) :
    names target document = .ok (sameDocument wanted candidate) := by
  unfold names
  rw [hdocument, htarget]
  rfl

theorem names_self_iff {name : String} :
    (∃ found, names name name = .ok found) ↔ Uri.Readable name := by
  rw [exists_names_iff, and_self_iff]

/-- On the names that can be read, naming one document is an equivalence. -/
theorem names_equivalence_of_readable :
    Equivalence fun s t : {name : String // ∃ found, names name name = .ok found} =>
      names s t = .ok true := by
  have hform : ∀ s : {name : String // ∃ found, names name name = .ok found},
      ∃ form, comparable s = .ok form := fun s =>
    exists_comparable_iff.mpr (names_self_iff.mp s.2)
  choose form hform using hform
  have hnames : ∀ s t : {name : String // ∃ found, names name name = .ok found},
      names s t = .ok true ↔ sameDocument (form t) (form s) = true := by
    intro s t
    rw [names_of_comparable (hform t) (hform s), Except.ok.injEq]
  simp only [hnames]
  exact sameDocument_equivalence.comap form

end Names

/-! ### Spellings -/

/-- What is left of a character where neither case nor the direction of slashes matters. -/
def plain (c : Char) : Char :=
  (toSlash c).toLower

theorem plain_of_le (c : Char) (h : 128 ≤ c.toNat) : plain c = c := by
  have hslash : toSlash c = c := by
    unfold toSlash
    rw [if_neg]
    intro heq
    rw [eq_of_beq heq] at h
    exact absurd h (by decide)
  rw [plain, hslash, Text.toLower_of_le c h]

theorem spares_plain : Uri.Spares plain :=
  Text.ascii_induction plain_of_le (motive := Uri.Stays) (by decide +kernel) Uri.Stays.refl

/-- **Another spelling of a name.** -/
inductive Respelled (s t : String) : Prop where
  /-- ASCII letters of it are in another case. -/
  | cased (letters : SameLetters s.toList t.toList) : Respelled s t
  /-- It is not the URI of a file, and slashes of it are turned as well. -/
  | turned (path : Uri.isFile s = .ok false) (same : s.toList.map plain = t.toList.map plain) :
      Respelled s t

section Respelled

variable {s t : String}

theorem sameLetters_dropTrailingSlashes {xs ys : List Char} (h : SameLetters xs ys) :
    SameLetters (dropTrailingSlashes xs) (dropTrailingSlashes ys) := by
  have hslash : ∀ c : Char, (c.toLower == '/') = (c == '/') := by
    intro c
    rw [Bool.eq_iff_iff, beq_iff_eq, beq_iff_eq, Uri.toLower_eq_slash]
  have hreverse : SameLetters xs.reverse ys.reverse := by
    unfold SameLetters at h ⊢
    rw [List.map_reverse, List.map_reverse, h]
  unfold SameLetters dropTrailingSlashes
  rw [List.map_reverse, List.map_reverse,
    Text.map_dropWhile_congr (p := (· == '/')) hslash hreverse]

/-- **Neither case nor the direction of slashes matters to the form of a path.** -/
theorem formOf_congr (h : s.toList.map plain = t.toList.map plain) : formOf s = formOf t := by
  have hslashes : SameLetters (s.toList.map toSlash) (t.toList.map toSlash) := by
    unfold SameLetters
    rw [List.map_map, List.map_map]
    exact h
  have hlength : (s.toList.map toSlash).length = (t.toList.map toSlash).length := by
    simpa using congrArg List.length h
  have hpath : ∀ {xs ys : List Char}, SameLetters xs ys → xs.length = ys.length →
      SameLetters (if 1 < xs.length then dropTrailingSlashes xs else xs)
        (if 1 < ys.length then dropTrailingSlashes ys else ys) := by
    intro xs ys hxs hlength
    rw [hlength]
    split
    · exact sameLetters_dropTrailingSlashes hxs
    · exact hxs
  unfold formOf Text.foldCase
  dsimp only
  rw [String.toList_ofList, String.toList_ofList,
    (hpath hslashes hlength).flatMap_foldChar]

theorem plain_toLower (c : Char) : plain c.toLower = plain c := by
  refine Text.toLower_induction (motive := fun c d => plain d = plain c) ?_ (fun _ => rfl) c
  decide +kernel

theorem isFile_eq_false {name : String} : Uri.isFile name = .ok false ↔
    Uri.Readable name ∧ Uri.schemeOf name ≠ Uri.fileScheme := by
  unfold Uri.isFile
  simp only [bind_eq_ok, Uri.split_eq_ok]
  constructor
  · rintro ⟨parts, ⟨hreadable, rfl⟩, h⟩
    exact ⟨hreadable, by simpa using Except.ok.inj h⟩
  · rintro ⟨hreadable, hscheme⟩
    exact ⟨_, ⟨hreadable, rfl⟩, congrArg Except.ok (beq_false_of_ne hscheme)⟩

/-- A name that is not the URI of a file stands for itself. -/
theorem spokenText_of_ne {name : String} (h : Uri.schemeOf name ≠ Uri.fileScheme) :
    Uri.spokenText name = name.toList :=
  if_neg fun hfile => h hfile.1

/-- **Other spellings of a name have the same comparable form**, if neither is refused. -/
theorem comparable_respelled (h : Respelled s t) (hs : Uri.Readable s) (ht : Uri.Readable t) :
    comparable s = comparable t := by
  rw [comparable_eq, comparable_eq, Uri.pathText_of_readable hs, Uri.pathText_of_readable ht]
  refine congrArg Except.ok (formOf_congr ?_)
  rw [String.toList_ofList, String.toList_ofList]
  rcases h with hletters | ⟨hpath, hsame⟩
  · exact (Uri.sameLetters_spokenText hletters).map_eq plain_toLower
  · obtain ⟨-, hscheme⟩ := isFile_eq_false.mp hpath
    have hstays := (spares_plain.schemeOf hsame).1
    rw [spokenText_of_ne hscheme, spokenText_of_ne (hstays ▸ hscheme), hsame]

/-- Whether one name names the other does not depend on how they are spelled. -/
theorem names_respelled {target target' document document' : String} {found found' : Bool}
    (htarget : Respelled target target') (hdocument : Respelled document document')
    (h : names target document = .ok found) (h' : names target' document' = .ok found') :
    found' = found := by
  obtain ⟨hread, hread'⟩ := exists_names_iff.mp ⟨found, h⟩
  obtain ⟨hreread, hreread'⟩ := exists_names_iff.mp ⟨found', h'⟩
  unfold names at h h'
  rw [← comparable_respelled htarget hread' hreread',
    ← comparable_respelled hdocument hread hreread] at h'
  exact Except.ok.inj (h'.symm.trans h)

end Respelled

/-! ### Naming one document -/

/-- **Naming one document is an equivalence** on the names that can be compared, and does not depend
on how they are spelled. -/
theorem names_equivalence :
    -- two names can be compared if each can be compared with itself
    (∀ target document, (∃ found, names target document = .ok found) ↔
      (∃ found, names target target = .ok found) ∧
        ∃ found, names document document = .ok found) ∧
    (Equivalence fun s t : {name : String // ∃ found, names name name = .ok found} =>
      names s t = .ok true) ∧
    ∀ (target target' document document' : String) (found found' : Bool),
      Respelled target target' → Respelled document document' →
      names target document = .ok found → names target' document' = .ok found' →
      found' = found := by
  refine ⟨fun target document => ?_, names_equivalence_of_readable,
    fun _ _ _ _ _ _ htarget hdocument h h' => names_respelled htarget hdocument h h'⟩
  rw [exists_names_iff, names_self_iff, names_self_iff, and_comm]

/-- The URI of a file with its scheme, an escape and the drive letter in another case, and the path
of the file with its slashes turned. -/
theorem names_equivalence_turned :
    Respelled "file:///C:/Work/%4Dod.py" "FILE:///c:/work/%4dOD.PY" ∧
    Respelled "c:/Work/Mod.py" "C:\\Work\\mod.py" ∧
    names "file:///C:/Work/%4Dod.py" "c:/Work/Mod.py" = .ok true ∧
    ∃ found, names "FILE:///c:/work/%4dOD.PY" "C:\\Work\\mod.py" = .ok found ∧ found = true := by
  have htarget : Respelled "file:///C:/Work/%4Dod.py" "FILE:///c:/work/%4dOD.PY" :=
    .cased (by decide +kernel)
  have hdocument : Respelled "c:/Work/Mod.py" "C:\\Work\\mod.py" :=
    .turned (by decide +kernel) (by decide +kernel)
  have hnamed : names "file:///C:/Work/%4Dod.py" "c:/Work/Mod.py" = .ok true := by decide +kernel
  have hcompared : ∃ found, names "FILE:///c:/work/%4dOD.PY" "C:\\Work\\mod.py" = .ok found :=
    ⟨true, by decide +kernel⟩
  obtain ⟨found, hfound⟩ := hcompared
  exact ⟨htarget, hdocument, hnamed, found, hfound,
    names_equivalence.2.2 _ _ _ _ _ _ htarget hdocument hnamed hfound⟩

end LintBridge.Matching
