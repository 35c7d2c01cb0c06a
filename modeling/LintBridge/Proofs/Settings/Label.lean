import LintBridge.Proofs.Settings.Layers
import LintBridge.Proofs.Text.Letters
import LintBridge.Proofs.Text.Rows

/-!
# Labels of severities

The least urgent severity that is shown is named by a label, or by one of two short forms, in either
case and with blanks around it (`LintBridge.Severity.IsNamed`). The short forms are looked up in
lower case, and after that the labels in upper case. So **whatever is raised to a label passes for
it** (`LintBridge.Severity.PassesFor`): a label with a dotless `ı` in it is taken for the label,
although it names no severity. A short form with one is not, and neither is anything else. What is
taken for no severity is refused in words that repeat it; **with surrogates in it there are no such
words**, and the check of the settings ends.

* `LintBridge.Severity.ofLabel?_eq_some_iff` – the strings that are taken for a severity;
* `LintBridge.Settings.ofLabel?_of_merge`, `LintBridge.Settings.merge_of_unknown`,
  `LintBridge.Settings.merge_of_fault` – layers of settings with such a string, with another, and
  with a text that is no string;
* `LintBridge.Settings.labels_accepted` – all of it.
-/

namespace LintBridge

/-! ### Texts that name a severity -/

namespace Severity

/-- The words for the severities. -/
def words : List (String × Severity) :=
  [("error", .error), ("warning", .warning), ("warn", .warning), ("information", .information),
   ("info", .information), ("hint", .hint)]

/-- **A text names a severity**: without the blanks around it, it is one of the words for it, up to
the case of ASCII letters. -/
def IsNamed (text : String) (s : Severity) : Prop :=
  ∃ word, (word, s) ∈ words ∧ Text.SameLetters (Text.strip text).toList word.toList

/-- **A text passes for the label of a severity**: without the blanks around it, it is the label
once its letters are small and have their dots. -/
def PassesFor (text : String) (s : Severity) : Prop :=
  (Text.strip text).toList.map Text.undotted = s.label.toList

instance (text : String) (s : Severity) : Decidable (PassesFor text s) :=
  inferInstanceAs (Decidable (_ = _))

section Words

variable {text word : String} {s : Severity}

/-- The words are the labels, and the short forms of labels. -/
theorem mem_words_iff : (word, s) ∈ words ↔ word = s.label ∨ (word, s.label) ∈ aliases := by
  cases s <;> simp [words, aliases, label]

/-- No mapping of case makes any of the words into another, or takes anything else for it. -/
theorem isClearWord_of_mem_words (h : (word, s) ∈ words) : Text.IsClearWord word.toList := by
  have hletters : ∀ entry ∈ words, entry.1.toList.all (fun d => decide (Text.IsClear d)) = true :=
    by decide +kernel
  have hligatures : ∀ entry ∈ words, ∀ special ∈ Text.upperSpecials,
      ¬ special.2.map Char.ofNat <:+: entry.1.toList.map Char.toUpper := by decide +kernel
  exact ⟨fun d hd => of_decide_eq_true (List.all_eq_true.mp (hletters _ h) d hd), hligatures _ h⟩

theorem isClearWord_label (s : Severity) : Text.IsClearWord s.label.toList :=
  isClearWord_of_mem_words (mem_words_iff.mpr (.inl rfl))

/-- A text names a severity if it is one of the words for it in lower case. -/
theorem isNamed_iff : IsNamed text s ↔ (Text.lower (Text.strip text), s) ∈ words := by
  have hlower : ∀ word, (word, s) ∈ words →
      (Text.SameLetters (Text.strip text).toList word.toList ↔
        Text.lower (Text.strip text) = word) := by
    intro word hword
    have hclear := (isClearWord_of_mem_words hword).letters
    unfold Text.SameLetters Text.lower
    rw [Text.map_toLower_of_clear hclear, ← Text.lowerList_eq_iff hclear, ← String.toList_inj,
      String.toList_ofList]
  constructor
  · rintro ⟨word, hmem, hsame⟩
    exact (hlower word hmem).mp hsame ▸ hmem
  · intro h
    exact ⟨_, h, (hlower _ h).mpr rfl⟩

/-- A text passes for a label if it does in lower case. -/
theorem passesFor_iff : PassesFor text s ↔
    (Text.lower (Text.strip text)).toList.map Text.undotted = s.label.toList := by
  unfold PassesFor Text.lower
  rw [String.toList_ofList, Text.map_undotted_lowerList (isClearWord_label s).letters]

/-- A text that names a severity without being a short form passes for its label. -/
theorem IsNamed.passesFor (h : IsNamed text s)
    (hshort : ∀ entry ∈ aliases, Text.lower (Text.strip text) ≠ entry.1) : PassesFor text s := by
  rw [passesFor_iff]
  rcases mem_words_iff.mp (isNamed_iff.mp h) with hlabel | halias
  · rw [hlabel, Text.map_undotted_of_clear (isClearWord_label s).letters]
  · have hne := hshort _ halias
    exact absurd rfl hne

/-- **What is a label in upper case** is that label once its letters are small and have their dots.
-/
theorem upper_label_eq_iff : Text.upper s.label = Text.upper word ↔
    word.toList.map Text.undotted = s.label.toList := by
  have hclear := isClearWord_label s
  have hraised : s.label.toList.flatMap Text.upperChar = s.label.toList.map Char.toUpper :=
    (Text.flatMap_upperChar_eq_iff hclear).mpr (Text.map_undotted_of_clear hclear.letters)
  rw [← Text.flatMap_upperChar_eq_iff hclear, ← hraised]
  unfold Text.upper
  rw [String.ofList_inj, eq_comm]

/-- No two labels are the same in upper case. -/
theorem find?_all_eq_some_iff {name : String} :
    (all.find? fun s => Text.upper s.label == name) = some s ↔ Text.upper s.label = name := by
  constructor
  · intro h
    have hfound := List.find?_some h
    exact beq_iff_eq.mp hfound
  · rintro rfl
    cases s <;> decide +kernel

/-- A short form stands for one label, and is none. -/
theorem label_of_alias {full : String} (h : (word, full) ∈ aliases) :
    (∃ t : Severity, full = t.label) ∧ word ≠ s.label ∧
      ((word, s.label) ∈ aliases ↔ full = s.label) := by
  simp only [aliases, List.mem_cons, List.not_mem_nil, or_false, Prod.mk.injEq] at h
  rcases h with ⟨rfl, rfl⟩ | ⟨rfl, rfl⟩
  · exact ⟨⟨.information, rfl⟩, by cases s <;> decide⟩
  · exact ⟨⟨.warning, rfl⟩, by cases s <;> decide⟩

theorem ofLabel?_eq_some_iff_upper : ofLabel? text = some s ↔ Text.upper s.label =
    Text.upper ((aliases.lookup (Text.lower (Text.strip text))).getD
      (Text.lower (Text.strip text))) := by
  unfold ofLabel?
  dsimp only
  rw [find?_all_eq_some_iff]

/-- **The texts that are taken for a severity** are those that name it, and those that pass for its
label. -/
theorem ofLabel?_eq_some_iff : ofLabel? text = some s ↔ IsNamed text s ∨ PassesFor text s := by
  rw [ofLabel?_eq_some_iff_upper]
  cases hlookup : aliases.lookup (Text.lower (Text.strip text)) with
  | none =>
    -- What is no short form is looked up as it is.
    have hshort : ∀ entry ∈ aliases, Text.lower (Text.strip text) ≠ entry.1 := fun entry hentry =>
      by simpa using List.lookup_eq_none_iff.mp hlookup entry hentry
    rw [Option.getD_none, upper_label_eq_iff, ← passesFor_iff]
    exact ⟨.inr, fun h => h.elim (·.passesFor hshort) id⟩
  | some full =>
    have hentry : (Text.lower (Text.strip text), full) ∈ aliases := by
      obtain ⟨before, after, hsplit, -⟩ := List.lookup_eq_some_iff.mp hlookup
      rw [hsplit]
      exact List.mem_append_right _ List.mem_cons_self
    -- A short form is a word for its label only, and does not pass for another.
    obtain ⟨⟨t, rfl⟩, hnone, hfull⟩ := label_of_alias (s := s) hentry
    have hword : (Text.lower (Text.strip text), t) ∈ words := mem_words_iff.mpr (.inr hentry)
    have hpasses : ¬ PassesFor text s := fun h => by
      rw [passesFor_iff, Text.map_undotted_of_clear (isClearWord_of_mem_words hword).letters] at h
      exact hnone (String.toList_inj.mp h)
    rw [Option.getD_some, upper_label_eq_iff,
      Text.map_undotted_of_clear (isClearWord_label t).letters, String.toList_inj, isNamed_iff,
      mem_words_iff, or_iff_right hnone, hfull, or_iff_left hpasses]

/-- **What passes for a label names a severity unless it has a dotless `ı` in it.** -/
theorem PassesFor.not_isNamed_iff (h : PassesFor text s) :
    ¬ IsNamed text s ↔ 'ı' ∈ text.toList := by
  have hdotless : 'ı' ∈ (Text.strip text).toList ↔ 'ı' ∈ text.toList := by
    unfold Text.strip
    rw [String.toList_ofList]
    exact Text.mem_stripList_iff (by decide)
  rw [← hdotless, ← not_iff_not, not_not]
  constructor
  · rintro ⟨word, hword, hsame⟩ hmem
    -- The words have no letter beyond ASCII, in either case.
    have hclear := (isClearWord_of_mem_words hword).letters
    obtain ⟨d, hd, hletter⟩ := List.mem_map.mp (hsame ▸ List.mem_map_of_mem hmem)
    rw [(hclear d hd).toLower_eq] at hletter
    exact absurd (hletter ▸ hclear d hd) (by decide)
  · intro hnone
    refine ⟨s.label, mem_words_iff.mpr (.inl rfl), ?_⟩
    have hundotted : ∀ c ∈ (Text.strip text).toList, c.toLower = Text.undotted c := fun c hc => by
      have hne : c ≠ 'ı' := fun heq => hnone (heq ▸ hc)
      exact (if_neg hne).symm
    unfold Text.SameLetters
    rw [List.map_congr_left hundotted, h, Text.map_toLower_of_clear (isClearWord_label s).letters]

/-- No label has the character in it that stands for a surrogate. -/
theorem ofLabel?_of_mem_filler (h : '\uFFFD' ∈ text.toList) : ofLabel? text = none := by
  have hmem : '\uFFFD' ∈ (Text.strip text).toList := by
    unfold Text.strip
    rw [String.toList_ofList]
    exact (Text.mem_stripList_iff (by decide)).mpr h
  have hletter : ∀ word : List Char, (∀ d ∈ word, Text.IsClear d) → '\uFFFD' ∉ word :=
    fun word hclear hfiller => absurd (hclear _ hfiller) (by decide)
  -- Neither mapping changes the character.
  have hlower : '\uFFFD'.toLower = '\uFFFD' := by decide +kernel
  have hundotted : Text.undotted '\uFFFD' = '\uFFFD' := by decide +kernel
  refine Option.eq_none_iff_forall_ne_some.mpr fun s hs => ?_
  rcases ofLabel?_eq_some_iff.mp hs with ⟨word, hword, hsame⟩ | hpasses
  · have hclear := (isClearWord_of_mem_words hword).letters
    refine hletter _ hclear ?_
    rw [← Text.map_toLower_of_clear hclear, ← hsame]
    exact List.mem_map.mpr ⟨_, hmem, hlower⟩
  · refine hletter _ (isClearWord_label s).letters ?_
    rw [← hpasses]
    exact List.mem_map.mpr ⟨_, hmem, hundotted⟩

end Words

end Severity

/-! ### Layers of settings -/

namespace Settings

open Json (CodePoints Unencodable Value)
open Response (Fields)

section Merge

variable {base settings : Settings} {layer : Fields} {t : CodePoints}

/-- A text with surrogates in it is no label. -/
theorem ofLabel?_of_fault {u : Unencodable} (h : t.fault? = some u) :
    Severity.ofLabel? t.toString = none := by
  obtain ⟨front, rest, rfl⟩ := CodePoints.exists_of_fault? h
  refine Severity.ofLabel?_of_mem_filler ?_
  rw [CodePoints.toList_toString]
  exact List.mem_map.mpr ⟨_, List.mem_append_right _ List.mem_cons_self, rfl⟩

/-- Eighteen characters stand before a label in the words for one that names no severity. -/
theorem fault?_unknownLabel (t : CodePoints) : (Severity.unknownLabel t).fault? =
    t.fault?.map fun u => { u with before := 18 + u.before } := by
  unfold Severity.unknownLabel
  rw [CodePoints.fault?_append_ofString, CodePoints.fault?_ofString_append]
  rfl

-- The check is told from the answer to the label without evaluating the case tables.
attribute [local irreducible] Severity.ofLabel? in
/-- A text is checked as a label. -/
theorem checkSeverity_string (t : CodePoints) : checkSeverity (.string t) =
    match Severity.ofLabel? t.toString with
    | some s => .valid s
    | none => checkUnknownLabel t := by
  unfold checkSeverity
  rfl

/-- **The check of a text with surrogates in it ends**, as the words for what is wrong with it
repeat it. -/
theorem checkSeverity_of_fault {u : Unencodable} (h : t.fault? = some u) :
    checkSeverity (.string t) = .broken { u with before := 18 + u.before } := by
  have hwords : (Severity.unknownLabel t).encode? = .error { u with before := 18 + u.before } := by
    rw [CodePoints.encode?_eq_error, fault?_unknownLabel, h, Option.map_some]
  rw [checkSeverity_string, ofLabel?_of_fault h]
  dsimp only
  unfold checkUnknownLabel
  rw [hwords]

/-- A string that is taken for a severity is checked to be it. -/
theorem checkSeverity_of_label {text : String} {s : Severity}
    (h : Severity.ofLabel? text = some s) : checkSeverity (.ofString text) = .valid s := by
  have hsome : Severity.ofLabel? (CodePoints.ofString text).toString = some s := by
    rw [CodePoints.toString_ofString, h]
  change checkSeverity (.string (CodePoints.ofString text)) = _
  rw [checkSeverity_string, hsome]

/-- What is wrong with a string that is taken for no severity is put into words. -/
theorem checkSeverity_of_unknown {text : String} (h : Severity.ofLabel? text = none) :
    checkSeverity (.ofString text) =
      .refuse (.rejected ("unknown severity '" ++ text ++ "'")) := by
  have hwords : Severity.unknownLabel (CodePoints.ofString text) =
      CodePoints.ofString ("unknown severity '" ++ text ++ "'") := by
    unfold Severity.unknownLabel CodePoints.ofString
    simp
  have hencoded := CodePoints.encode?_eq_ok.mpr hwords
  have hnone : Severity.ofLabel? (CodePoints.ofString text).toString = none := by
    rw [CodePoints.toString_ofString, h]
  change checkSeverity (.string (CodePoints.ofString text)) = _
  rw [checkSeverity_string, hnone]
  dsimp only
  unfold checkUnknownLabel
  rw [hencoded]

/-- No check of anything else ends. -/
theorem exists_of_fault?_checkSeverity {v : Value} {fault : Unencodable}
    (h : (checkSeverity v).fault? = some fault) : ∃ t, v = .string t ∧ ∃ u, t.fault? = some u := by
  have hnumber : ∀ v, (Severity.check v).fault? = none := by
    intro v
    unfold Severity.check
    split
    · split <;> rfl
    · rfl
  cases v with
  | string t =>
    refine ⟨t, rfl, Option.ne_none_iff_exists'.mp fun hnone => ?_⟩
    rw [CodePoints.fault?_eq_none_iff_eq_ofString] at hnone
    rw [hnone] at h
    cases hlabel : Severity.ofLabel? t.toString with
    | some s => cases (congrArg Checked.fault? (checkSeverity_of_label hlabel)).symm.trans h
    | none => cases (congrArg Checked.fault? (checkSeverity_of_unknown hlabel)).symm.trans h
  | _ =>
    unfold checkSeverity at h
    dsimp only at h
    rw [hnumber] at h
    cases h

/-- The field of settings that a severity is written for. -/
theorem defaulted_severity (h : lastFor? "minimum_severity" layer = some (.string t)) :
    Checked.defaulted "minimum_severity" Severity.hint checkSeverity (overlay base layer) =
      (checkSeverity (.string t)).under (.field "minimum_severity") := by
  unfold Checked.defaulted
  rw [overlay_eq, get?_writtenOver, h]
  rfl

/-- A layer with an entry is not empty. -/
theorem merge_of_entry (h : lastFor? "minimum_severity" layer = some (.string t)) :
    base.merge layer = (check (.object (overlay base layer))).toExcept.mapError .ofCheck := by
  have hne : ¬ layer.isEmpty = true := fun hempty => by
    rw [List.isEmpty_iff.mp hempty] at h
    cases h
  exact if_neg hne

/-- **What ends the check of settings** is a text for the severity that cannot be encoded. -/
theorem faultOf?_eq_some_iff {fault : Unencodable} : faultOf? layer = some fault ↔
    ∃ t u, lastFor? "minimum_severity" layer = some (.string t) ∧ t.fault? = some u ∧
      fault = { u with before := 18 + u.before } := by
  unfold faultOf?
  constructor
  · intro h
    obtain ⟨v, hv, hfault⟩ := Option.bind_eq_some_iff.mp h
    obtain ⟨t, rfl, u, hu⟩ := exists_of_fault?_checkSeverity hfault
    rw [checkSeverity_of_fault hu] at hfault
    cases hfault
    exact ⟨t, u, hv, hu, rfl⟩
  · rintro ⟨t, u, hv, hu, rfl⟩
    rw [hv, Option.bind_some, checkSeverity_of_fault hu]
    rfl

/-- **Settings with a text that cannot be encoded for the severity are not even refused.** -/
theorem merge_of_fault {u : Unencodable}
    (h : lastFor? "minimum_severity" layer = some (.string t)) (hfault : t.fault? = some u) :
    base.merge layer = .error (.broken { u with before := 18 + u.before }) :=
  merge_eq_broken_iff.mpr (faultOf?_eq_some_iff.mpr ⟨t, u, h, hfault, rfl⟩)

/-- **A layer is refused for a string that is taken for no severity**, in words that say so. -/
theorem merge_of_unknown {text : String}
    (h : lastFor? "minimum_severity" layer = some (.ofString text))
    (hunknown : Severity.ofLabel? text = none) :
    ∃ issues, base.merge layer = .error (.refused (.invalid issues)) ∧
      ⟨[.field "minimum_severity"], .rejected ("unknown severity '" ++ text ++ "'")⟩ ∈ issues := by
  have hseverity := checkSeverity_of_unknown hunknown
  have hended : (check (.object (overlay base layer))).fault? = none := by
    rw [fault?_overlay, faultOf?, h, Option.bind_some, hseverity]
    rfl
  have hissue : ⟨[.field "minimum_severity"],
      .rejected ("unknown severity '" ++ text ++ "'")⟩ ∈
        (check (.object (overlay base layer))).issues := by
    have hfield : fields[7] ∈ fields := List.getElem_mem _
    rw [issues_check hended]
    refine List.mem_flatMap.mpr ⟨_, hfield, ?_⟩
    change _ ∈ (Checked.defaulted "minimum_severity" Severity.hint checkSeverity
      (overlay base layer)).issues
    rw [defaulted_severity h]
    change _ ∈ (Checked.under _ (checkSeverity (.ofString text))).issues
    rw [hseverity]
    exact List.mem_singleton_self _
  rw [merge_of_entry h]
  cases hcheck : check (.object (overlay base layer)) with
  | invalid issues =>
    rw [hcheck] at hissue
    exact ⟨issues, rfl, hissue⟩
  | _ =>
    rw [hcheck] at hissue
    cases hissue

/-- A layer that is accepted has a severity in it that its string is taken for. -/
theorem ofLabel?_of_merge {text : String}
    (h : lastFor? "minimum_severity" layer = some (.ofString text))
    (hmerge : base.merge layer = .ok settings) :
    Severity.ofLabel? text = some settings.minimumSeverity := by
  rw [merge_of_entry h, mapError_eq_ok, Checked.toExcept_eq_ok, check_eq_valid_iff] at hmerge
  have hfield : fields[7] ∈ fields := List.getElem_mem _
  have hseverity : Checked.defaulted "minimum_severity" Severity.hint checkSeverity
    (overlay base layer) = .valid settings.minimumSeverity := hmerge _ hfield
  rw [defaulted_severity h, Checked.under_eq_valid] at hseverity
  change checkSeverity (.ofString text) = _ at hseverity
  cases hlabel : Severity.ofLabel? text with
  | some s =>
    rw [checkSeverity_of_label hlabel] at hseverity
    cases hseverity
    rfl
  | none =>
    rw [checkSeverity_of_unknown hlabel] at hseverity
    cases hseverity

/-- A string that is taken for a severity is the least urgent one that is shown from then on. -/
theorem merge_of_label {k : CodePoints} {s : Severity} {text : String} (hbase : base.IsValid)
    (hk : spelled k = "minimum_severity") (hlabel : Severity.ofLabel? text = some s) :
    base.merge [(k, .ofString text)] = .ok { base with minimumSeverity := s } := by
  refine (merge_eq_ok_iff hbase).mpr ?_
  simp [fields, lastFor?_singleton, hk, Field.Takes, checkSeverity_of_label hlabel]

end Merge

/-- **The labels that are accepted.** A string is taken for a severity if it names it or passes for
its label, and these are the strings that name one unless the string passes for a label with a
dotless `ı` in it. A layer of settings is refused for any other string, in words that say so; from a
layer that is accepted, the least urgent severity that is shown is the one its string is taken for.
A text that cannot be encoded is no label either, but settings with one are not refused: there are
no words to do it in. -/
theorem labels_accepted (t : CodePoints) :
    (∀ text : String, t = .ofString text →
      (∀ s, Severity.ofLabel? text = some s ↔
        Severity.IsNamed text s ∨ Severity.PassesFor text s) ∧
      ((∀ s, Severity.ofLabel? text = some s ↔ Severity.IsNamed text s) ↔
        ∀ s, Severity.PassesFor text s → 'ı' ∉ text.toList) ∧
      (∀ (base : Settings) (layer : Fields),
        lastFor? "minimum_severity" layer = some (.ofString text) →
        (Severity.ofLabel? text = none →
          ∃ issues, base.merge layer = .error (.refused (.invalid issues)) ∧
            ⟨[.field "minimum_severity"], .rejected ("unknown severity '" ++ text ++ "'")⟩ ∈
              issues) ∧
        ∀ settings, base.merge layer = .ok settings →
          Severity.ofLabel? text = some settings.minimumSeverity) ∧
      ∀ (base : Settings) (k : CodePoints) (s : Severity), base.IsValid →
        spelled k = "minimum_severity" → Severity.ofLabel? text = some s →
        base.merge [(k, .ofString text)] = .ok { base with minimumSeverity := s }) ∧
    ∀ u : Unencodable, t.fault? = some u →
      Severity.ofLabel? t.toString = none ∧
      ∀ (base : Settings) (layer : Fields),
        lastFor? "minimum_severity" layer = some (.string t) →
        base.merge layer = .error (.broken { u with before := 18 + u.before }) := by
  refine ⟨fun text _ => ⟨fun s => Severity.ofLabel?_eq_some_iff,
    ⟨fun h s hpasses => ?_, fun h s => ?_⟩, ?_, ?_⟩, ?_⟩
  · have hnamed := (h s).mp (Severity.ofLabel?_eq_some_iff.mpr (.inr hpasses))
    exact fun hdotless => hpasses.not_isNamed_iff.mpr hdotless hnamed
  · rw [Severity.ofLabel?_eq_some_iff, or_iff_left_iff_imp]
    intro hpasses
    by_contra hunnamed
    exact h s hpasses (hpasses.not_isNamed_iff.mp hunnamed)
  · intro base layer hentry
    exact ⟨merge_of_unknown hentry, fun _ => ofLabel?_of_merge hentry⟩
  · intro base k s hbase hk hlabel
    exact merge_of_label hbase hk hlabel
  · intro u hfault
    exact ⟨ofLabel?_of_fault hfault, fun _ _ hentry => merge_of_fault hentry hfault⟩

/-- A label with a dotless `ı` is accepted, a short form with one is refused, and settings with a
surrogate for a label are not even refused. -/
theorem labels_accepted_dotless :
    Severity.ofLabel? " Warnıng " = some .warning ∧
      merge {} [(CodePoints.ofString "minimumSeverity", .ofString " Warnıng ")] =
        .ok { minimumSeverity := .warning } ∧
      (∃ issues, merge {} [(CodePoints.ofString "minimumSeverity", .ofString "ınfo")] =
        .error (.refused (.invalid issues))) ∧
      merge {} [(CodePoints.ofString "minimumSeverity", .string [.surrogate 0])] =
        .error (.broken ⟨18, 0, 0⟩) := by
  obtain ⟨haccepted, -, -, hmerged⟩ := (labels_accepted _).1 " Warnıng " rfl
  obtain ⟨-, -, hrefused, -⟩ := (labels_accepted _).1 "ınfo" rfl
  obtain ⟨-, hbroken⟩ := (labels_accepted [.surrogate 0]).2 ⟨0, 0, 0⟩ rfl
  have hkey : spelled (CodePoints.ofString "minimumSeverity") = "minimum_severity" := by
    decide +kernel
  have hentry : ∀ v, lastFor? "minimum_severity"
      [(CodePoints.ofString "minimumSeverity", v)] = some v := fun v => by
    rw [lastFor?_singleton, if_pos hkey]
  have htaken : Severity.ofLabel? " Warnıng " = some .warning :=
    (haccepted _).mpr (.inr (by decide +kernel))
  obtain ⟨issues, hissues, -⟩ := (hrefused {} _ (hentry _)).1 (by decide +kernel)
  exact ⟨htaken, hmerged {} _ _ isValid_default hkey htaken, ⟨issues, hissues⟩,
    hbroken {} _ (hentry _)⟩

/-- Not every text that is taken for a severity names it. -/
theorem not_labels_named : ¬ ∀ (text : String) (s : Severity),
    Severity.ofLabel? text = some s ↔ Severity.IsNamed text s := by
  intro h
  have hpasses : Severity.PassesFor "hınt" .hint := by decide +kernel
  have hunnamed : ¬ Severity.IsNamed "hınt" .hint := hpasses.not_isNamed_iff.mpr (by decide +kernel)
  exact hunnamed ((h _ _).mp (Severity.ofLabel?_eq_some_iff.mpr (.inr hpasses)))

end Settings

end LintBridge
