import LintBridge.Proofs.Text.Caseless
import LintBridge.Proofs.Uri.Readable
import LintBridge.Proofs.Uri.RoundTrip

/-!
# Targets up to the case of their letters

The parts of a target are found without regard to case: a scheme is put in lower case, and what
separates the parts is no letter. So targets with the same letters have the same scheme, and their
authorities and paths have the same letters; **the paths behind them have the same letters**, if
neither of them is refused.

* `LintBridge.Uri.Spares` – what a mapping of characters must leave alone for the scheme of a target
  to stay, and `LintBridge.Uri.Spares.schemeOf` – then it does;
* `LintBridge.Uri.spokenText` – the path text behind a target that can be read;
* `LintBridge.Uri.sameLetters_spokenText` – it keeps its letters if the target does.
-/

namespace LintBridge.Uri

open Text (SameLetters)

/-! ### The scheme -/

/-- **A character stays what it was to the splitting of a target.** -/
structure Stays (c d : Char) : Prop where
  /-- It is one of those that are dropped, or the one that ends a scheme. -/
  mark : ∀ m ∈ ['\t', '\r', '\n', ':'], d = m ↔ c = m
  /-- It is skipped at the front. -/
  blank : d.val ≤ 32 ↔ c.val ≤ 32
  /-- It is a letter, which may begin a scheme. -/
  letter : d.isAlpha = c.isAlpha
  /-- It is a character of a scheme. -/
  scheme : isSchemeChar d = isSchemeChar c
  /-- As such it is altered in its case at most. -/
  lower : isSchemeChar c = true → d.toLower = c.toLower

-- The marks are gone through one by one: the instance for all characters would try every character.
instance (c d : Char) : Decidable (Stays c d) :=
  haveI : Decidable (∀ m ∈ ['\t', '\r', '\n', ':'], d = m ↔ c = m) := List.decidableBAll _ _
  decidable_of_iff ((∀ m ∈ ['\t', '\r', '\n', ':'], d = m ↔ c = m) ∧ (d.val ≤ 32 ↔ c.val ≤ 32) ∧
      d.isAlpha = c.isAlpha ∧ isSchemeChar d = isSchemeChar c ∧
      (isSchemeChar c = true → d.toLower = c.toLower))
    ⟨fun ⟨mark, blank, letter, scheme, lower⟩ => ⟨mark, blank, letter, scheme, lower⟩,
      fun h => ⟨h.mark, h.blank, h.letter, h.scheme, h.lower⟩⟩

theorem Stays.refl (c : Char) : Stays c c :=
  ⟨fun _ _ => .rfl, .rfl, rfl, rfl, fun _ => rfl⟩

/-- **A mapping leaves alone what the scheme of a target is found by.** -/
def Spares (f : Char → Char) : Prop :=
  ∀ c, Stays c (f c)

section Spares

variable {f : Char → Char} {s t : String}

theorem Spares.visible (hf : Spares f) (h : s.toList.map f = t.toList.map f) :
    (visible s).map f = (visible t).map f := by
  have hmark : ∀ m ∈ ['\t', '\r', '\n', ':'], ∀ c, (f c != m) = (c != m) := by
    intro m hm c
    rw [Bool.eq_iff_iff, bne_iff_ne, bne_iff_ne, ne_eq, ne_eq, (hf c).mark m hm]
  refine Text.map_filter_congr (p := fun c => c != '\t' && c != '\r' && c != '\n') (fun c => ?_)
    (Text.map_dropWhile_congr (p := fun c => decide (c.val ≤ 32)) (fun c => ?_) h)
  · rw [hmark '\t' (by simp), hmark '\r' (by simp), hmark '\n' (by simp)]
  · rw [decide_eq_decide, (hf c).blank]

/-- Splitting the scheme off does not see such a mapping. -/
theorem Spares.splitScheme (hf : Spares f) (s : List Char) :
    splitScheme (s.map f) = ((splitScheme s).1, (splitScheme s).2.map f) := by
  have hcolon : ∀ c, f c = ':' ↔ c = ':' := fun c => (hf c).mark ':' (by simp)
  have hfront : (s.map f).takeWhile (· != ':') = (s.takeWhile (· != ':')).map f := by
    have heq : (fun c => c != ':') ∘ f = fun c => c != ':' := by
      funext c
      rw [Function.comp_apply, Bool.eq_iff_iff, bne_iff_ne, bne_iff_ne, ne_eq, ne_eq, hcolon]
    rw [List.takeWhile_map, heq]
  have hscheme : ∀ front : List Char, (front.map f).all isSchemeChar = front.all isSchemeChar := by
    intro front
    rw [List.all_map]
    exact congrArg front.all (funext fun c => (hf c).scheme)
  have hlower : ∀ front : List Char, front.all isSchemeChar = true →
      (front.map f).map Char.toLower = front.map Char.toLower := by
    intro front hall
    rw [List.map_map]
    exact List.map_congr_left fun c hc => (hf c).lower (List.all_eq_true.mp hall c hc)
  unfold Uri.splitScheme
  simp only [hfront, List.length_map, ← List.map_drop]
  rcases s.drop (s.takeWhile (· != ':')).length with _ | ⟨d, rest⟩
  · rfl
  · by_cases hd : d = ':'
    · rw [hd, List.map_cons, (hcolon ':').mpr rfl]
      rcases s.takeWhile (· != ':') with _ | ⟨c, front⟩
      · rfl
      · have hall := hscheme (c :: front)
        have hmap := hlower (c :: front)
        simp only [List.map_cons, (hf _).letter] at hall hmap ⊢
        rw [hall]
        split
        · rename_i h
          rw [hmap (Bool.and_eq_true_iff.mp h).2]
        · rfl
    · have hfd : f d ≠ ':' := mt (hcolon d).mp hd
      simp [hd, hfd]

/-- **The scheme of a target stays.** -/
theorem Spares.schemeOf (hf : Spares f) (h : s.toList.map f = t.toList.map f) :
    schemeOf s = schemeOf t ∧
      (Uri.splitScheme (Uri.visible s)).2.map f = (Uri.splitScheme (Uri.visible t)).2.map f := by
  have hs := hf.splitScheme (Uri.visible s)
  rw [hf.visible h, hf.splitScheme] at hs
  obtain ⟨hscheme, hrest⟩ := Prod.mk.inj hs
  exact ⟨hscheme.symm, hrest.symm⟩

end Spares

/-! ### Letters -/

theorem spares_toLower : Spares Char.toLower :=
  Text.toLower_induction (motive := Stays) (by decide +kernel) Stays.refl

section Letters

variable {s t : String} {authority authority' path path' : List Char}

theorem toLower_eq_slash (c : Char) : c.toLower = '/' ↔ c = '/' :=
  Text.toLower_eq_iff (by decide +kernel) c

theorem splitAuthority_slashes (rest : List Char) : splitAuthority ('/' :: '/' :: rest) =
    (rest.takeWhile fun c => !(c == '/' || c == '?' || c == '#'),
      rest.dropWhile fun c => !(c == '/' || c == '?' || c == '#')) :=
  rfl

theorem splitAuthority_of_not {rest : List Char} (h : ∀ below, rest ≠ '/' :: '/' :: below) :
    splitAuthority rest = ([], rest) := by
  unfold splitAuthority
  split
  · exact absurd rfl (h _)
  · rfl

/-- Splitting the authority off does not see lower case. -/
theorem splitAuthority_map_toLower (rest : List Char) : splitAuthority (rest.map Char.toLower) =
    ((splitAuthority rest).1.map Char.toLower, (splitAuthority rest).2.map Char.toLower) := by
  by_cases h : ∃ below, rest = '/' :: '/' :: below
  · obtain ⟨below, rfl⟩ := h
    have hend : (fun c => !(c == '/' || c == '?' || c == '#')) ∘ Char.toLower =
        fun c => !(c == '/' || c == '?' || c == '#') := by
      refine funext (Text.toLower_induction
        (motive := fun c d => (!(d == '/' || d == '?' || d == '#')) =
          !(c == '/' || c == '?' || c == '#')) ?_ fun _ => rfl)
      decide +kernel
    have hslash : '/'.toLower = '/' := rfl
    rw [List.map_cons, List.map_cons, hslash, splitAuthority_slashes, splitAuthority_slashes,
      List.takeWhile_map, List.dropWhile_map, hend]
  · rw [splitAuthority_of_not (not_exists.mp h), splitAuthority_of_not]
    · rfl
    · intro below hbelow
      obtain ⟨c, below, rfl, hc, hbelow⟩ := List.map_eq_cons_iff.mp hbelow
      obtain ⟨d, below, rfl, hd, -⟩ := List.map_eq_cons_iff.mp hbelow
      rw [(toLower_eq_slash c).mp hc, (toLower_eq_slash d).mp hd] at h
      exact h ⟨below, rfl⟩

/-- **Targets with the same letters have authorities and paths with the same letters.** -/
theorem sameLetters_parts (h : SameLetters s.toList t.toList) :
    SameLetters (authorityOf s) (authorityOf t) ∧ SameLetters (pathOf s) (pathOf t) := by
  have hs := splitAuthority_map_toLower (splitScheme (visible s)).2
  rw [(spares_toLower.schemeOf h).2, splitAuthority_map_toLower] at hs
  obtain ⟨hauthority, hbelow⟩ := Prod.mk.inj hs
  have hmark : ∀ m, (∀ n < 128, (Char.ofNat n).toLower = m ↔ Char.ofNat n = m) →
      ∀ c : Char, (c.toLower != m) = (c != m) := by
    intro m hm c
    rw [Bool.eq_iff_iff, bne_iff_ne, bne_iff_ne, ne_eq, ne_eq, Text.toLower_eq_iff hm]
  refine ⟨hauthority.symm, ?_⟩
  exact Text.map_takeWhile_congr (p := (· != '?')) (hmark '?' (by decide +kernel))
    (Text.map_takeWhile_congr (p := (· != '#')) (hmark '#' (by decide +kernel)) hbelow.symm)

/-! ### The path behind a target -/

/-- The path text that an authority and a path spell. -/
def spelled (authority path : List Char) : List Char :=
  if authority ≠ [] ∧ path ≠ [] then '/' :: '/' :: authority ++ path else rereadPath path

theorem hasDrive_map_toLower (h : HasDrive (path.map Char.toLower)) : HasDrive path := by
  obtain ⟨d, rest, hpath, hd⟩ := h
  obtain ⟨slash, _, rfl, hslash, hafter⟩ := List.map_eq_cons_iff.mp hpath
  obtain ⟨c, _, rfl, rfl, hbelow⟩ := List.map_eq_cons_iff.mp hafter
  obtain ⟨colon, rest, rfl, hcolon, -⟩ := List.map_eq_cons_iff.mp hbelow
  rw [(toLower_eq_slash slash).mp hslash, ((spares_toLower colon).mark ':' (by simp)).mp hcolon]
  exact ⟨c, rest, rfl, (spares_toLower c).letter.symm.trans hd⟩

/-- A drive letter is put in lower case anyway. -/
theorem sameLetters_rereadPath (h : SameLetters path path') :
    SameLetters (rereadPath path) (rereadPath path') := by
  refine Text.sameLetters_of_map (fun path => ?_) h
  by_cases hdrive : HasDrive path
  · obtain ⟨c, rest, rfl, hc⟩ := hdrive
    have hslash : '/'.toLower = '/' := rfl
    have hcolon : ':'.toLower = ':' := rfl
    rw [List.map_cons, List.map_cons, List.map_cons, hslash, hcolon, rereadPath,
      if_pos ((spares_toLower c).letter.trans hc), rereadPath, if_pos hc, Text.toLower_toLower]
    exact Text.sameLetters_cons.mpr ⟨rfl, Text.sameLetters_cons.mpr ⟨rfl, Text.sameLetters_map _⟩⟩
  · rw [rereadPath_of_not_hasDrive hdrive,
      rereadPath_of_not_hasDrive (mt hasDrive_map_toLower hdrive)]
    exact Text.sameLetters_map path

theorem sameLetters_spelled (hauthority : SameLetters authority authority')
    (hpath : SameLetters path path') :
    SameLetters (spelled authority path) (spelled authority' path') := by
  unfold spelled
  simp only [ne_eq, hauthority.nil_iff, hpath.nil_iff]
  split
  · have hslashes := (SameLetters.refl ['/', '/']).append hauthority
    exact hslashes.append hpath
  · exact sameLetters_rereadPath hpath

/-- The path text behind a target, if it can be read: what its parts spell if it is a URI of a file,
and the target itself if it is none or spells nothing. -/
def spokenText (target : String) : List Char :=
  let text := spelled (Text.Percent.decodeAfter [] (authorityOf target))
    (Text.Percent.decodeAfter [] (pathOf target))
  if schemeOf target = fileScheme ∧ text ≠ [] then text else target.toList

theorem fileText?_of_readable {target : String} (h : Readable target) :
    fileText? target = .ok (if schemeOf target = fileScheme then
      some (String.ofList (spelled (Text.Percent.decodeAfter [] (authorityOf target))
        (Text.Percent.decodeAfter [] (pathOf target)))) else none) := by
  unfold fileText?
  rw [split_eq_ok.mpr ⟨h, rfl⟩]
  simp only [bind, Except.bind]
  generalize Text.Percent.decodeAfter [] (authorityOf target) = authority
  generalize Text.Percent.decodeAfter [] (pathOf target) = path
  by_cases hscheme : schemeOf target = fileScheme
  · have hfile : ¬ (schemeOf target != fileScheme) = true := by simp [hscheme]
    have hhost : (!authority.isEmpty && !path.isEmpty) = true ↔ authority ≠ [] ∧ path ≠ [] := by
      simp
    rw [if_neg hfile, if_pos hscheme]
    unfold spelled
    by_cases h : authority ≠ [] ∧ path ≠ []
    · rw [if_pos (hhost.mpr h), if_pos h]
      rfl
    · rw [if_neg (mt hhost.mp h), if_neg h]
      split
      · rename_i c rest
        rw [rereadPath]
        split <;> rfl
      · rename_i hnot
        rw [rereadPath_of_not_hasDrive]
        · rfl
        · rintro ⟨c, rest, rfl, -⟩
          exact hnot c rest rfl
  · have hother : (schemeOf target != fileScheme) = true := by simp [hscheme]
    rw [if_pos hother, if_neg hscheme]
    rfl

theorem pathText_of_readable {target : String} (h : Readable target) :
    pathText target = .ok (String.ofList (spokenText target)) := by
  unfold pathText spokenText
  rw [fileText?_of_readable h]
  by_cases hscheme : schemeOf target = fileScheme
  · simp only [hscheme, if_true, true_and, bind, Except.bind]
    split
    · -- What spells nothing leaves the target as it is.
      rename_i hempty
      have hnil := String.ofList_eq_empty_iff.mp (Option.some.inj hempty)
      rw [if_neg (not_not.mpr hnil), String.ofList_toList]
      rfl
    · rename_i text hne htext
      cases htext
      rw [if_pos fun hnil => hne (String.ofList_eq_empty_iff.mpr hnil)]
      rfl
    · rename_i hnone
      cases hnone
  · simp [hscheme, bind, Except.bind, pure, Except.pure]

/-- **The path behind a target keeps its letters if the target does.** -/
theorem sameLetters_spokenText (h : SameLetters s.toList t.toList) :
    SameLetters (spokenText s) (spokenText t) := by
  obtain ⟨hauthority, hpath⟩ := sameLetters_parts h
  have htext := sameLetters_spelled hauthority.decode hpath.decode
  unfold spokenText
  dsimp only
  simp only [(spares_toLower.schemeOf h).1, ne_eq, htext.nil_iff]
  split
  · exact htext
  · exact h

end Letters

end LintBridge.Uri
