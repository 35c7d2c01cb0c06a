import LintBridge.Proofs.Text.Percent
import LintBridge.Proofs.Uri.Readable

/-!
# From a path to a URI and back

A path with a single slash in front is written as a URI without a host, and the URI spells nothing
but that path. So **a path comes back from its URI as it was**, with one exception: a drive letter
in front comes back in lower case and without the slash before it.

* `LintBridge.Uri.IsRooted` – a text with a single slash in front;
* `LintBridge.Uri.rereadPath` – what comes back;
* `LintBridge.Uri.fileText?_ofPathText` – it does.
-/

namespace LintBridge.Uri

/-! ### Letters -/

theorem toNat_lt_of_isAlpha {c : Char} (h : c.isAlpha = true) : c.toNat < 128 :=
  Text.Percent.toNat_lt_of_isAlphanum (Bool.or_eq_true_iff.mpr (.inl h))

/-- A letter is written in lower case, and stays so. -/
theorem letter_toLower {c : Char} (h : c.isAlpha = true) :
    c.toLower.isAlpha = true ∧ c.toLower.toLower = c.toLower ∧
      Text.Percent.isWritten c.toLower = true ∧ c.toLower ≠ '/' ∧ c.toLower ≠ '%' := by
  have hall : ∀ n < 128, (Char.ofNat n).isAlpha = true → (Char.ofNat n).toLower.isAlpha = true ∧
      (Char.ofNat n).toLower.toLower = (Char.ofNat n).toLower ∧
      Text.Percent.isWritten (Char.ofNat n).toLower = true ∧
      (Char.ofNat n).toLower ≠ '/' ∧ (Char.ofNat n).toLower ≠ '%' := by decide +kernel
  have hc := hall c.toNat (toNat_lt_of_isAlpha h)
  rw [Char.ofNat_toNat] at hc
  exact hc h

/-! ### A path in a URI -/

/-- **A path with a single slash in front**, and something after it. -/
def IsRooted (path : List Char) : Prop :=
  ∃ c rest, path = '/' :: c :: rest ∧ c ≠ '/'

/-- What a path comes back as. -/
def rereadPath : List Char → List Char
  | '/' :: c :: ':' :: rest =>
    if c.isAlpha then c.toLower :: ':' :: rest else '/' :: c :: ':' :: rest
  | path => path

/-- A path with a drive letter in front. -/
def HasDrive (path : List Char) : Prop :=
  ∃ c rest, path = '/' :: c :: ':' :: rest ∧ c.isAlpha = true

section Drive

variable {path : List Char}

theorem rereadPath_of_not_hasDrive (h : ¬ HasDrive path) : rereadPath path = path := by
  unfold rereadPath
  split
  · rename_i c rest
    exact if_neg fun hc => h ⟨c, rest, rfl, hc⟩
  · rfl

theorem encodePath_of_not_hasDrive (h : ¬ HasDrive path) :
    encodePath path = (Text.Percent.encode (String.ofList path)).toList := by
  unfold encodePath
  split
  · rename_i c rest
    exact if_neg fun hc => h ⟨c, rest, rfl, hc⟩
  · rfl

/-- The characters of a path in a URI. -/
def isPathChar (c : Char) : Bool :=
  Text.Percent.isWritten c || c == ':'

theorem isPathChar_of_isWritten {c : Char} (h : Text.Percent.isWritten c = true) :
    isPathChar c = true :=
  Bool.or_eq_true_iff.mpr (.inl h)

theorem isPathChar_encodePath : ∀ c ∈ encodePath path, isPathChar c = true := by
  by_cases h : HasDrive path
  · obtain ⟨c, rest, rfl, hc⟩ := h
    obtain ⟨-, -, hwritten, -⟩ := letter_toLower hc
    rw [encodePath, if_pos hc]
    simp only [List.forall_mem_cons]
    exact ⟨by decide, isPathChar_of_isWritten hwritten, by decide,
      fun d hd => isPathChar_of_isWritten (Text.Percent.isWritten_of_mem_encode hd)⟩
  · rw [encodePath_of_not_hasDrive h]
    exact fun d hd => isPathChar_of_isWritten (Text.Percent.isWritten_of_mem_encode hd)

theorem val_lt_of_isPathChar {c : Char} (h : isPathChar c = true) : c.val < 128 := by
  rcases Bool.or_eq_true_iff.mp h with h | h
  · exact Text.Percent.val_lt_of_isWritten h
  · rw [beq_iff_eq.mp h]
    decide

theorem ne_of_isPathChar {c d : Char} (h : isPathChar c = true) (hd : isPathChar d = false) :
    c ≠ d := by
  rintro rfl
  rw [h] at hd
  cases hd

/-- What a path with a drive letter in front is in its URI. -/
theorem decodeAfter_encodePath_drive {c : Char} (hc : c.isAlpha = true) (rest : List Char) :
    Text.Percent.decodeAfter [] (encodePath ('/' :: c :: ':' :: rest)) =
      '/' :: c.toLower :: ':' :: rest := by
  obtain ⟨-, -, -, -, hpercent⟩ := letter_toLower hc
  have hascii : ∀ d ∈ encodePath ('/' :: c :: ':' :: rest), d.val < 128 :=
    fun d hd => val_lt_of_isPathChar (isPathChar_encodePath d hd)
  rw [encodePath, if_pos hc] at hascii ⊢
  obtain ⟨hslash, hafter⟩ := List.forall_mem_cons.mp hascii
  obtain ⟨hletter, hafter'⟩ := List.forall_mem_cons.mp hafter
  obtain ⟨hcolon, hrest⟩ := List.forall_mem_cons.mp hafter'
  rw [Text.Percent.decodeAfter_cons hslash (by decide) hafter,
    Text.Percent.decodeAfter_cons hletter hpercent hafter',
    Text.Percent.decodeAfter_cons hcolon (by decide) hrest, Text.Percent.decodeAfter_encode,
    String.toList_ofList]

/-- What another path is in its URI. -/
theorem decodeAfter_encodePath (h : ¬ HasDrive path) :
    Text.Percent.decodeAfter [] (encodePath path) = path := by
  rw [encodePath_of_not_hasDrive h, Text.Percent.decodeAfter_encode, String.toList_ofList]

/-- **A path in a URI comes back as the path does.** -/
theorem rereadPath_decodeAfter :
    rereadPath (Text.Percent.decodeAfter [] (encodePath path)) = rereadPath path := by
  by_cases h : HasDrive path
  · obtain ⟨c, rest, rfl, hc⟩ := h
    obtain ⟨hletter, hlower, -⟩ := letter_toLower hc
    rw [decodeAfter_encodePath_drive hc, rereadPath, rereadPath, if_pos hletter, if_pos hc, hlower]
  · rw [decodeAfter_encodePath h]

/-- A path with a single slash in front has one in its URI as well: more of them would come back. -/
theorem IsRooted.encodePath (h : IsRooted path) : IsRooted (encodePath path) := by
  by_cases hdrive : HasDrive path
  · obtain ⟨c, rest, rfl, hc⟩ := hdrive
    obtain ⟨-, -, -, hslash, -⟩ := letter_toLower hc
    rw [Uri.encodePath, if_pos hc]
    exact ⟨_, _, rfl, hslash⟩
  · obtain ⟨c, rest, rfl, hc⟩ := h
    have hdecode := Text.Percent.decodeAfter_encode (String.ofList (c :: rest))
    have hascii : ∀ d ∈ (Text.Percent.encode (String.ofList (c :: rest))).toList, d.val < 128 :=
      fun d hd => Text.Percent.val_lt_of_isWritten (Text.Percent.isWritten_of_mem_encode hd)
    rw [encodePath_of_not_hasDrive hdrive, Text.Percent.encode_cons_slash]
    rw [String.toList_ofList] at hdecode
    rcases hwritten : (Text.Percent.encode (String.ofList (c :: rest))).toList with _ | ⟨d, more⟩
    · rw [hwritten, Text.Percent.decodeAfter_nil] at hdecode
      cases hdecode
    · refine ⟨d, more, rfl, ?_⟩
      rintro rfl
      rw [hwritten] at hdecode hascii
      obtain ⟨hslash, hmore⟩ := List.forall_mem_cons.mp hascii
      rw [Text.Percent.decodeAfter_cons hslash (by decide) hmore] at hdecode
      exact hc (List.cons.inj hdecode).1.symm

end Drive

/-! ### The URI of a path -/

/-- The URI of a file, from what stands after its two slashes. A path that is put there has no host.
-/
def hostless (path : List Char) : String :=
  fileScheme ++ ":" ++ String.ofList ('/' :: '/' :: path)

section Hostless

variable {path : List Char}

theorem toList_hostless :
    (hostless path).toList = 'f' :: 'i' :: 'l' :: 'e' :: ':' :: '/' :: '/' :: path := by
  simp [hostless, fileScheme]

/-- Nothing of the URI is dropped, since a path in a URI has no blanks in it. -/
theorem visible_hostless (h : ∀ c ∈ path, isPathChar c = true) :
    visible (hostless path) = (hostless path).toList := by
  have hkept : ∀ c ∈ path, (c != '\t' && c != '\r' && c != '\n') = true := by
    intro c hc
    have hne : ∀ d, isPathChar d = false → (c != d) = true :=
      fun d hd => bne_iff_ne.mpr (ne_of_isPathChar (h c hc) hd)
    rw [hne '\t' (by decide), hne '\r' (by decide), hne '\n' (by decide)]
    rfl
  rw [visible, toList_hostless, List.dropWhile_cons_of_neg (by decide)]
  simp only [List.filter_cons_of_pos, List.filter_eq_self.mpr hkept, Bool.and_eq_true, bne_iff_ne,
    ne_eq, Char.reduceEq, not_false_eq_true, and_self]

theorem splitScheme_hostless (h : ∀ c ∈ path, isPathChar c = true) :
    splitScheme (visible (hostless path)) = (fileScheme, '/' :: '/' :: path) := by
  rw [visible_hostless h, toList_hostless]
  rfl

/-- The parts of a URI without a host. -/
theorem split_hostless (h : ∀ c ∈ path, isPathChar c = true) (hrooted : IsRooted path) :
    split (hostless path) = .ok { scheme := fileScheme, authority := [], path := path } := by
  have hkept : ∀ d, isPathChar d = false → ∀ c ∈ path, (c != d) = true :=
    fun d hd c hc => bne_iff_ne.mpr (ne_of_isPathChar (h c hc) hd)
  have hscheme := splitScheme_hostless h
  have hauthority : splitAuthority ('/' :: '/' :: path) = ([], path) := by
    obtain ⟨c, rest, rfl, -⟩ := hrooted
    rfl
  have hpath : (path.takeWhile (· != '#')).takeWhile (· != '?') = path := by
    rw [List.takeWhile_eq_self_iff.mpr (hkept '#' (by decide)),
      List.takeWhile_eq_self_iff.mpr (hkept '?' (by decide))]
  have hnone : authorityOf (hostless path) = [] := by
    rw [authorityOf, hscheme, hauthority]
  refine split_eq_ok.mpr ⟨⟨by rw [hnone]; rfl, by rw [hnone]; nofun⟩, ?_⟩
  rw [hnone, schemeOf, pathOf, hscheme, hauthority, hpath]

end Hostless

/-- A path with a single slash in front has no host. -/
theorem ofPathText_eq {text : String} (h : IsRooted text.toList) :
    ofPathText text = .ok (hostless (encodePath text.toList)) := by
  obtain ⟨d, more, hencode, hd⟩ := h.encodePath
  obtain ⟨c, rest, hpath, hc⟩ := h
  have hhost : splitHost ('/' :: c :: rest) = .ok ([], '/' :: c :: rest) := by
    unfold splitHost
    split
    · rename_i heq
      exact absurd (List.cons.inj (List.cons.inj heq).2).1 hc
    · rfl
  have hslash : withSlash ('/' :: c :: rest) = '/' :: c :: rest := rfl
  rw [hpath] at hencode
  unfold ofPathText
  rw [hpath, hhost]
  dsimp only [bind, Except.bind]
  rw [hslash, Text.Percent.encode_nil, hencode]
  split
  · rename_i heq
    exact absurd (List.cons.inj (List.cons.inj heq).2).1 hd
  · rfl

/-- **A path with a single slash in front comes back from its URI.** -/
theorem fileText?_ofPathText {text : String} (h : IsRooted text.toList) :
    ∃ uri, ofPathText text = .ok uri ∧
      fileText? uri = .ok (some (String.ofList (rereadPath text.toList))) := by
  refine ⟨_, ofPathText_eq h, ?_⟩
  unfold fileText?
  rw [split_hostless isPathChar_encodePath h.encodePath, ← rereadPath_decodeAfter]
  simp only [Text.Percent.decodeAfter_nil, bind, Except.bind, pure, Except.pure,
    bne_self_eq_false, Bool.false_eq_true, if_false, List.isEmpty_nil, Bool.not_true,
    Bool.false_and]
  generalize Text.Percent.decodeAfter [] (encodePath text.toList) = path
  split
  · rename_i c rest
    rw [rereadPath]
    split <;> rfl
  · rename_i hnot
    rw [rereadPath_of_not_hasDrive]
    rintro ⟨c, rest, rfl, -⟩
    exact hnot c rest rfl

end LintBridge.Uri
