import LintBridge.Proofs.Result
import LintBridge.Uri
import Mathlib.Data.List.TakeWhile

/-!
# Targets that cannot be read

Splitting a target is lenient, and refuses no more than an authority. Everything else that is done
with a target is as lenient, with one exception: a path that is all host has no URI.

* `LintBridge.Uri.Readable` – the authority of a target is not refused, which is when its parts are
  found (`LintBridge.Uri.split_ok_iff`) and the path behind it, if it has one;
* `LintBridge.Uri.HostOnly` – a path that consists of a host alone, which is one that has no URI
  (`LintBridge.Uri.ofPathText_eq_error`).
-/

namespace LintBridge.Uri

/-! ### The parts of a target -/

section Parts

variable (target : String)

/-- The characters of a target that are looked at. -/
def visible : List Char :=
  (target.toList.dropWhile (·.val ≤ 32)).filter fun c => c != '\t' && c != '\r' && c != '\n'

/-- The scheme of a target, empty where there is none. -/
def schemeOf : String :=
  (splitScheme (visible target)).1

/-- The authority of a target, empty where there is none. -/
def authorityOf : List Char :=
  (splitAuthority (splitScheme (visible target)).2).1

/-- The path of a target. -/
def pathOf : List Char :=
  ((splitAuthority (splitScheme (visible target)).2).2.takeWhile (· != '#')).takeWhile (· != '?')

/-- **A target can be read**: the square brackets of its authority are in place, and none of its
characters hides a delimiter. -/
structure Readable : Prop where
  /-- The square brackets are in place. -/
  brackets : checkBrackets (authorityOf target) = .ok ()
  /-- No character hides a delimiter. -/
  delimiters : ∀ c ∈ authorityOf target, hidesDelimiter c = false

end Parts

theorem split_eq (target : String) : split target = (do
    checkBrackets (authorityOf target)
    checkDelimiters (authorityOf target)
    return { scheme := schemeOf target, authority := authorityOf target, path := pathOf target }) :=
  rfl

theorem checkDelimiters_eq_ok {authority : List Char} :
    checkDelimiters authority = .ok () ↔ ∀ c ∈ authority, hidesDelimiter c = false := by
  unfold checkDelimiters
  split
  · rename_i h
    obtain ⟨c, hc, hhides⟩ := List.any_eq_true.mp h
    constructor
    · intro hok
      cases hok
    · intro hnone
      rw [hnone c hc] at hhides
      cases hhides
  · rename_i h
    refine ⟨fun _ c hc => ?_, fun _ => rfl⟩
    cases hhides : hidesDelimiter c with
    | false => rfl
    | true => exact absurd (List.any_eq_true.mpr ⟨c, hc, hhides⟩) h

/-- **A target has parts exactly when it can be read.** -/
theorem split_eq_ok {target : String} {parts : Parts} :
    split target = .ok parts ↔ Readable target ∧
      parts = { scheme := schemeOf target, authority := authorityOf target
                path := pathOf target } := by
  rw [split_eq]
  simp only [bind_eq_ok]
  constructor
  · rintro ⟨⟨⟩, hbrackets, ⟨⟩, hdelimiters, h⟩
    exact ⟨⟨hbrackets, checkDelimiters_eq_ok.mp hdelimiters⟩, (Except.ok.inj h).symm⟩
  · rintro ⟨⟨hbrackets, hdelimiters⟩, rfl⟩
    exact ⟨(), hbrackets, (), checkDelimiters_eq_ok.mpr hdelimiters, rfl⟩

theorem split_fails_iff {target : String} : (∃ e, split target = .error e) ↔ ¬ Readable target := by
  constructor
  · rintro ⟨e, he⟩ h
    rw [split_eq_ok.mpr ⟨h, rfl⟩] at he
    cases he
  · intro h
    cases hsplit : split target with
    | ok parts => exact absurd (split_eq_ok.mp hsplit).1 h
    | error e => exact ⟨e, rfl⟩

/-! ### The path behind a target -/

/-- Once a target has parts, the path behind it is found without fail. -/
theorem fileText?_eq_error {target : String} {e : Error} :
    fileText? target = .error e ↔ split target = .error e := by
  unfold fileText?
  rw [bind_eq_error]
  constructor
  · rintro (h | ⟨parts, -, h⟩)
    · exact h
    · dsimp only at h
      split at h
      · cases h
      · split at h
        · cases h
        · split at h
          · split at h <;> cases h
          · cases h
  · exact .inl

theorem toPath?_eq_error {target : String} {e : Error} :
    toPath? target = .error e ↔ split target = .error e := by
  rw [← fileText?_eq_error]
  unfold toPath?
  rw [bind_eq_error]
  constructor
  · rintro (h | ⟨text?, -, h⟩)
    · exact h
    · split at h <;> cases h
  · exact .inl

theorem pathText_eq_error {target : String} {e : Error} :
    pathText target = .error e ↔ split target = .error e := by
  rw [← fileText?_eq_error]
  unfold pathText
  rw [bind_eq_error]
  constructor
  · rintro (h | ⟨text?, -, h⟩)
    · exact h
    · split at h <;> cases h
  · exact .inl

/-! ### The URI of a target -/

/-- A path that consists of a host alone: two slashes, and no third one. -/
def HostOnly (path : List Char) : Prop :=
  ∃ host, path = '/' :: '/' :: host ∧ '/' ∉ host

theorem splitHost_eq_error {path : List Char} {e : Error} :
    splitHost path = .error e ↔ e = .noHostEnd ∧ HostOnly path := by
  unfold splitHost HostOnly
  split
  · rename_i rest
    have hdrop : rest.drop (rest.takeWhile (· != '/')).length = rest.dropWhile (· != '/') :=
      (congrArg (List.drop _) List.takeWhile_append_dropWhile).symm.trans List.drop_left
    -- What stands below the host begins with the first slash after the two.
    have hnil : rest.dropWhile (· != '/') = [] ↔ '/' ∉ rest := by
      rw [List.dropWhile_eq_nil_iff]
      constructor
      · intro h hmem
        exact absurd (h '/' hmem) (by decide)
      · intro h c hc
        rw [bne_iff_ne]
        rintro rfl
        exact h hc
    dsimp only
    rw [hdrop]
    split
    · rename_i heq
      rw [hnil] at heq
      simp [heq, eq_comm]
    · rename_i hne
      have hmem := mt hnil.mpr hne
      simp only [not_not] at hmem
      simp [hmem]
  · rename_i hnot
    constructor
    · intro h
      cases h
    · rintro ⟨-, host, rfl, -⟩
      exact absurd rfl (hnot host)

theorem ofPathText_eq_error {text : String} {e : Error} :
    ofPathText text = .error e ↔ e = .noHostEnd ∧ HostOnly text.toList := by
  rw [← splitHost_eq_error]
  unfold ofPathText
  rw [bind_eq_error]
  constructor
  · rintro (h | ⟨_, -, h⟩)
    · exact h
    · cases h
  · exact .inl

/-- A slash is no part of a scheme. -/
theorem splitScheme_slash (rest : List Char) : splitScheme ('/' :: rest) = ("", '/' :: rest) := by
  have hfront : ('/' :: rest).takeWhile (· != ':') = '/' :: rest.takeWhile (· != ':') := rfl
  unfold splitScheme
  rw [hfront]
  dsimp only
  split
  · rfl
  · rfl

/-- A target that begins with a slash has no scheme. -/
theorem schemeOf_of_slash {target : String} {rest : List Char} (h : target.toList = '/' :: rest) :
    schemeOf target = "" := by
  have hvisible : ∃ rest, visible target = '/' :: rest := by
    unfold visible
    rw [h]
    exact ⟨_, rfl⟩
  obtain ⟨rest, hrest⟩ := hvisible
  unfold schemeOf
  rw [hrest, splitScheme_slash]

/-- A path that is all host has no scheme. -/
theorem schemeOf_of_hostOnly {target : String} (h : HostOnly target.toList) :
    schemeOf target = "" := by
  obtain ⟨host, hpath, -⟩ := h
  exact schemeOf_of_slash hpath

end LintBridge.Uri
