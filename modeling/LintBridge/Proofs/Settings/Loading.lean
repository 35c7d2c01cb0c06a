import LintBridge.Proofs.Host.Root
import LintBridge.Proofs.Settings.Label
import LintBridge.Proofs.Text.Utf8
import LintBridge.Proofs.Toml.Refusal
import LintBridge.Settings.Project

/-!
# How the loading of settings ends

The settings of a workspace are loaded, or they are refused with words for whoever asked for them.
Those two ends are provided for. **There are five others.** Four of them stand for what the reading
of a project file comes upon before anybody looks at the settings in it; the fifth for a label in
what the editor asks for that cannot be repeated in a refusal.

* `LintBridge.Settings.Unforeseen` – what a project file is not provided for;
* `LintBridge.Settings.Breaks` – what is not provided for in all of loading;
* `LintBridge.Settings.load_foreseen_iff` – loading ends as provided exactly if there is nothing of
  the kind;
* `LintBridge.Settings.Unforeseen.cause` – what it takes with a project file: a look-up that the
  system refuses, octets that are no text, or a text with thousands of digits or hundreds of
  brackets. No project file holds a label that cannot be encoded
  (`LintBridge.Settings.faultOf?_entriesToJson`).
-/

namespace LintBridge

/-! ### Ends of lines in a project file -/

namespace Text

/-- What is no end of a line is as frequent in a text whichever way its lines end. -/
theorem countP_unifyNewlines {p : Char → Bool} (hreturn : p '\r' = false) (hfeed : p '\n' = false)
    (s : List Char) : (unifyNewlines s).countP p = s.countP p := by
  induction s using unifyNewlines.induct with
  | case1 => rfl
  | case2 rest ih => simp [unifyNewlines, hreturn, hfeed, ih]
  | case3 rest hpair ih =>
    rw [unifyNewlines.eq_3 rest hpair]
    simp [hreturn, hfeed, ih]
  | case4 c rest hpair hsingle ih =>
    rw [unifyNewlines.eq_4 c rest hpair hsingle, List.countP_cons, List.countP_cons, ih]

end Text

namespace Settings

open Json (CodePoints Unencodable)
open Response (Fields)

/-! ### The project file -/

/-- The project file of a workspace is there, and these are its octets. -/
structure HasProject (host : Host) (root : Path) (octets : List UInt8) : Prop where
  /-- It is a regular file. -/
  file : host.isFile (root.join projectFile) = .ok true
  /-- It can be read. -/
  octets : host.read (root.join projectFile) = .ok octets

/-- **What looking for the section of a project file comes upon without providing for it.** -/
inductive Unforeseen (host : Host) (root : Path) : LoadError → Prop where
  /-- The project file cannot even be looked for. -/
  | system {e : Host.Error} (search : host.isFile (root.join projectFile) = .error e) :
    Unforeseen host root (.system e)
  /-- The project file is no UTF-8. -/
  | notUtf8 {octets : List UInt8} {fault : Text.Utf8.Fault} (project : HasProject host root octets)
    (decoded : Text.Utf8.decode? octets = .error fault) : Unforeseen host root (.notUtf8 fault)
  /-- The project file holds an integer with too many digits. -/
  | tooManyDigits {octets : List UInt8} {text : List Char} {count : Nat}
    (project : HasProject host root octets) (decoded : Text.Utf8.decode? octets = .ok text)
    (refused : Toml.read (Text.unifyNewlines text) = .error (.tooManyDigits count)) :
    Unforeseen host root (.tooManyDigits count)
  /-- The project file is nested too deeply. -/
  | tooDeep {octets : List UInt8} {text : List Char}
    (project : HasProject host root octets) (decoded : Text.Utf8.decode? octets = .ok text)
    (refused : Toml.read (Text.unifyNewlines text) = .error .tooDeep) :
    Unforeseen host root .tooDeep

section Project

variable {host : Host} {root : Path} {e : LoadError}

/-- The section of a project file that is there depends on its octets. -/
theorem projectTable_of_hasProject {octets : List UInt8} (h : HasProject host root octets) :
    projectTable host root =
      (Text.Utf8.decode? octets).mapError LoadError.notUtf8 >>= fun text =>
        match Toml.read (Text.unifyNewlines text) with
        | .error .malformed => .error (.settings (.unreadable (root.join projectFile)))
        | .error (.tooManyDigits count) => .error (.tooManyDigits count)
        | .error .tooDeep => .error .tooDeep
        | .ok table => (sectionTable (root.join projectFile) table).mapError .settings := by
  unfold projectTable
  dsimp only
  rw [h.file, h.octets]
  rfl

/-- What is not provided for is what looking for the section fails with. -/
theorem Unforeseen.projectTable_eq (h : Unforeseen host root e) :
    projectTable host root = .error e := by
  cases h with
  | system hsearch =>
    unfold projectTable
    dsimp only
    rw [hsearch]
    rfl
  | notUtf8 hproject hdecoded =>
    rw [projectTable_of_hasProject hproject, hdecoded]
    rfl
  | tooManyDigits hproject hdecoded hrefused =>
    rw [projectTable_of_hasProject hproject, hdecoded]
    simp only [Except.mapError, bind, Except.bind, hrefused]
  | tooDeep hproject hdecoded hrefused =>
    rw [projectTable_of_hasProject hproject, hdecoded]
    simp only [Except.mapError, bind, Except.bind, hrefused]

/-- Looking for the section fails with a refusal, or with something that is not provided for. -/
theorem foreseen_or_unforeseen_of_projectTable (h : projectTable host root = .error e) :
    (∃ refusal, e = .settings refusal) ∨ Unforeseen host root e := by
  cases hfile : host.isFile (root.join projectFile) with
  | error failure =>
    unfold projectTable at h
    dsimp only at h
    rw [hfile] at h
    cases h
    exact .inr (.system hfile)
  | ok isThere =>
    cases isThere with
    | false =>
      unfold projectTable at h
      dsimp only at h
      rw [hfile] at h
      cases h
    | true =>
      cases hread : host.read (root.join projectFile) with
      | error failure =>
        unfold projectTable at h
        dsimp only at h
        rw [hfile, hread] at h
        cases h
        exact .inl ⟨_, rfl⟩
      | ok octets =>
        have hproject : HasProject host root octets := ⟨hfile, hread⟩
        rw [projectTable_of_hasProject hproject] at h
        -- The file is decoded, read, and its section taken, one after the other.
        rcases bind_eq_error.mp h with hdecoded | ⟨text, hdecoded, h⟩
        · obtain ⟨fault, hfault, rfl⟩ := mapError_eq_error.mp hdecoded
          exact .inr (.notUtf8 hproject hfault)
        · rw [mapError_eq_ok] at hdecoded
          split at h
          · cases h
            exact .inl ⟨_, rfl⟩
          · rename_i hrefused
            cases h
            exact .inr (.tooManyDigits hproject hdecoded hrefused)
          · rename_i hrefused
            cases h
            exact .inr (.tooDeep hproject hdecoded hrefused)
          · obtain ⟨refusal, -, rfl⟩ := mapError_eq_error.mp h
            exact .inl ⟨refusal, rfl⟩

theorem Unforeseen.ne_settings {refusal : Error} (h : Unforeseen host root e) :
    e ≠ .settings refusal := by
  rintro rfl
  cases h

/-- **What it takes for something not to be provided for**: a look-up that the system refuses, be it
that the path is too long or that the system goes no further than some place, octets that are those
of no text, or a text that has thousands of digits or hundreds of brackets. -/
theorem Unforeseen.cause (h : Unforeseen host root e) :
    (∃ failure, e = .system failure ∧ failure.path = (root.join projectFile).toString ∧
      host.find failure.path = .error failure.errno ∧ failure.errno.leadsNowhere = false ∧
      (failure.errno = .nameTooLong ∨ host.tree.Refuses failure.errno)) ∨
      ∃ octets, HasProject host root octets ∧
        ∀ text : List Char, octets = text.flatMap String.utf8EncodeChar →
          Text.maxDigits < Toml.digitCount text ∨ 320 ≤ Toml.openingCount text := by
  have hdigits : ∀ text, Toml.digitCount (Text.unifyNewlines text) = Toml.digitCount text :=
    Text.countP_unifyNewlines (by decide) (by decide)
  have hopenings : ∀ text, Toml.openingCount (Text.unifyNewlines text) = Toml.openingCount text :=
    Text.countP_unifyNewlines (by decide) (by decide)
  cases h with
  | @system failure hsearch =>
    obtain ⟨-, -, -, hpath⟩ := Host.test_eq_error.mp hsearch
    exact .inl ⟨failure, rfl, hpath, Host.cause_of_test_eq_error hsearch⟩
  | @notUtf8 octets _ hproject hdecoded =>
    refine .inr ⟨octets, hproject, fun text htext => ?_⟩
    cases (Text.Utf8.decode?_eq_ok.mpr htext).symm.trans hdecoded
  | @tooManyDigits octets decoded count hproject hdecoded hrefused =>
    refine .inr ⟨octets, hproject, fun text htext => .inl ?_⟩
    obtain rfl : decoded = text :=
      Except.ok.inj (hdecoded.symm.trans (Text.Utf8.decode?_eq_ok.mpr htext))
    obtain ⟨hmany, hcount⟩ := Toml.read_excused hrefused
    rw [hdigits] at hcount
    omega
  | @tooDeep octets decoded hproject hdecoded hrefused =>
    refine .inr ⟨octets, hproject, fun text htext => .inr ?_⟩
    obtain rfl : decoded = text :=
      Except.ok.inj (hdecoded.symm.trans (Text.Utf8.decode?_eq_ok.mpr htext))
    have hframes : Toml.maxFrames ≤ 3 * Toml.openingCount (Text.unifyNewlines decoded) + 2 :=
      Toml.read_excused hrefused
    rw [hopenings] at hframes
    have hmax : Toml.maxFrames = 960 := rfl
    omega

end Project

/-! ### Loading -/

/-- **No project file holds a label that cannot be encoded.** -/
theorem faultOf?_entriesToJson (table : Toml.Table) :
    faultOf? (Toml.entriesToJson table) = none := by
  have hvalue : ∀ (table : Toml.Table), ∀ entry ∈ Toml.entriesToJson table,
      ∃ v : Toml.Value, entry.2 = v.toJson := by
    intro table
    induction table with
    | nil => nofun
    | cons first rest ih =>
      refine List.forall_mem_cons.mpr ⟨⟨first.2, rfl⟩, ih⟩
  refine Option.eq_none_iff_forall_ne_some.mpr fun fault h => ?_
  obtain ⟨t, u, hlast, hu, -⟩ := faultOf?_eq_some_iff.mp h
  obtain ⟨entry, hentry, hstring⟩ := exists_mem_of_lastFor? hlast
  obtain ⟨v, hv⟩ := hvalue table entry hentry
  rw [hstring] at hv
  -- The texts of a project file are strings.
  cases v with
  | string s =>
    cases hv
    rw [Json.CodePoints.fault?_ofString] at hu
    cases hu
  | _ => cases hv

/-- The settings that those of the editor are put on top of: the ones to start from, with those of
the project file on top. -/
def fromProject (host : Host) (root : Option Path) (base : Settings) : Except LoadError Settings :=
  match root with
  | some root => projectTable host root >>= fun table =>
    (base.merge (Toml.entriesToJson table)).mapError .ofMerge
  | none => .ok base

/-- **What breaks the loading of settings off.** -/
inductive Breaks (host : Host) (root : Option Path) (options : Fields) (base : Settings) :
    LoadError → Prop where
  /-- Something with the project file is not provided for. -/
  | project {r : Path} {e : LoadError} (rooted : root = some r) (unforeseen : Unforeseen host r e) :
    Breaks host root options base e
  /-- The editor asks for a severity by a label that cannot be encoded. -/
  | editor {settings : Settings} {t : CodePoints} {u : Unencodable}
    (loaded : fromProject host root base = .ok settings)
    (asked : lastFor? "minimum_severity" options = some (.string t))
    (unencodable : t.fault? = some u) :
    Breaks host root options base (.broken { u with before := 18 + u.before })

section Load

variable {host : Host} {root : Option Path} {options : Fields} {base : Settings}

theorem load_eq : load host root options base =
    fromProject host root base >>= fun settings =>
      (settings.merge options).mapError .ofMerge := by
  cases root with
  | none => rfl
  | some r =>
    unfold load fromProject
    rw [bind_assoc]

theorem Breaks.load_eq {e : LoadError} (h : Breaks host root options base e) :
    load host root options base = .error e := by
  rw [Settings.load_eq]
  cases h with
  | project hroot hunforeseen =>
    subst hroot
    unfold fromProject
    dsimp only
    rw [hunforeseen.projectTable_eq]
    rfl
  | editor hloaded hasked hfault =>
    rw [hloaded]
    change (merge _ options).mapError LoadError.ofMerge = _
    rw [merge_of_fault hasked hfault]
    rfl

theorem Breaks.ne_settings {e : LoadError} {refusal : Error}
    (h : Breaks host root options base e) : e ≠ .settings refusal := by
  cases h with
  | project _ hunforeseen => exact hunforeseen.ne_settings
  | editor => nofun

/-- Loading fails with a refusal, or with something that breaks it off. -/
theorem foreseen_or_breaks_of_load {e : LoadError}
    (h : load host root options base = .error e) :
    (∃ refusal, e = .settings refusal) ∨ Breaks host root options base e := by
  rw [load_eq] at h
  rcases bind_eq_error.mp h with hproject | ⟨settings, hproject, heditor⟩
  · cases root with
    | none => cases hproject
    | some r =>
      rcases bind_eq_error.mp hproject with htable | ⟨table, -, hmerge⟩
      · exact (foreseen_or_unforeseen_of_projectTable htable).imp_right (.project rfl)
      · obtain ⟨_ | fault, hbroken, rfl⟩ := mapError_eq_error.mp hmerge
        · exact .inl ⟨_, rfl⟩
        · rw [merge_eq_broken_iff, faultOf?_entriesToJson] at hbroken
          cases hbroken
  · obtain ⟨_ | fault, hbroken, rfl⟩ := mapError_eq_error.mp heditor
    · exact .inl ⟨_, rfl⟩
    · obtain ⟨t, u, hasked, hfault, rfl⟩ :=
        faultOf?_eq_some_iff.mp (merge_eq_broken_iff.mp hbroken)
      exact .inr (.editor hproject hasked hfault)

/-- Only a project file breaks the loading off if what is asked for is in strings. -/
theorem breaks_iff (hstrings : faultOf? options = none) {r : Path} {e : LoadError} :
    Breaks host (some r) options base e ↔ Unforeseen host r e := by
  refine ⟨fun h => ?_, .project rfl⟩
  cases h with
  | project hroot hunforeseen =>
    cases hroot
    exact hunforeseen
  | editor _ hasked hfault =>
    cases hstrings.symm.trans (faultOf?_eq_some_iff.mpr ⟨_, _, hasked, hfault, rfl⟩)

end Load

end Settings

end LintBridge
