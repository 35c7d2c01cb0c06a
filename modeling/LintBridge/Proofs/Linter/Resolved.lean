import LintBridge.Linter.Invocation
import LintBridge.Proofs.Host.Root

/-!
# The program that is run

The program of a command line is looked for from the current directory, and then it is started in
another one. There its path is followed once more. **If the path is absolute, what has been found is
what is run**; if not, it may lead to some other file, or nowhere.

* `LintBridge.Linter.Resolved` – what the name of a program is resolved to, and
  `LintBridge.Linter.resolve_eq_ok` – that a command line is resolved in this way;
* `LintBridge.Linter.IsSettled` – a name for which the current directory does not count, and
  `LintBridge.Linter.Resolved.of_isSettled` – which is resolved to an absolute path;
* `LintBridge.Linter.Resolved.again` – what comes of resolving it once more;
* `LintBridge.Linter.runFound` – a run of the file that a path leads to, and
  `LintBridge.Linter.spawn_eq_runFound` – which file that is for a command line;
* `LintBridge.Linter.resolved_program` – the main result;
* `LintBridge.Linter.not_resolved_program` – a program that leads nowhere from another directory,
  and one that is resolved once more to something else.
-/

namespace LintBridge

/-! ### Texts of absolute paths -/

namespace Path

theorem isAbsolute_ofString {s : String} :
    (ofString s).isAbsolute = true ↔ s.toList.head? = some '/' := by
  unfold isAbsolute ofString
  rw [bne_iff_ne]
  cases s.toList with
  | nil => simp [anchorOf]
  | cons c rest =>
    dsimp only [List.head?_cons]
    unfold anchorOf
    split <;> simp_all

theorem slash_mem_of_isAbsolute {s : String} (h : (ofString s).isAbsolute = true) :
    '/' ∈ s.toList :=
  List.mem_of_mem_head? (isAbsolute_ofString.mp h)

end Path

namespace Host

section Below

variable {directory name : String}

theorem below_empty : below "" name = name := rfl

/-- There is one slash between the directory and the name, whether the directory ends with it or
not. -/
theorem toList_below {rest : List Char} {c : Char} (h : directory.toList = rest ++ [c]) :
    (below directory name).toList =
      directory.toList ++ if c = '/' then name.toList else '/' :: name.toList := by
  have hne : ¬ directory.isEmpty = true := by
    rw [String.isEmpty_iff]
    rintro rfl
    exact absurd h (by simp)
  have hend : directory.endsWith "/" = true ↔ c = '/' := by
    rw [String.endsWith_eq_endsWith_toSlice, String.Slice.endsWith_string_iff, String.copy_toSlice,
      h]
    simp [eq_comm]
  unfold below
  rw [if_neg hne]
  by_cases hc : c = '/'
  · rw [if_pos (hend.mpr hc), if_pos hc, String.toList_append]
  · rw [if_neg (mt hend.mp hc), if_neg hc, String.toList_append, String.toList_append,
      List.append_assoc]
    rfl

theorem exists_concat_of_ne_empty (hne : directory ≠ "") :
    ∃ rest c, directory.toList = rest ++ [c] :=
  (List.eq_nil_or_concat' _).resolve_left (by simpa using hne)

/-- A name below a directory has a slash, unless the directory is the current one. -/
theorem slash_mem_below (hne : directory ≠ "") : '/' ∈ (below directory name).toList := by
  obtain ⟨rest, c, hlast⟩ := exists_concat_of_ne_empty hne
  rw [toList_below hlast, hlast]
  split <;> simp_all

/-- **It is an absolute path if the directory is one.** -/
theorem isAbsolute_below (hbare : '/' ∉ name.toList) :
    (Path.ofString (below directory name)).isAbsolute = true ↔
      (Path.ofString directory).isAbsolute = true := by
  by_cases hempty : directory = ""
  · subst hempty
    rw [below_empty]
    exact iff_of_false (fun h => hbare (Path.slash_mem_of_isAbsolute h)) (by decide)
  · obtain ⟨rest, c, hlast⟩ := exists_concat_of_ne_empty hempty
    have hhead : (below directory name).toList.head? = directory.toList.head? := by
      rw [toList_below hlast, List.head?_append_of_ne_nil _ (by simp [hlast])]
    rw [Path.isAbsolute_ofString, Path.isAbsolute_ofString, hhead]

/-- **A segment below an absolute path is written as the path with one more segment.** -/
theorem below_toString {p : Path} (hp : p.IsPlain) (habsolute : p.isAbsolute = true)
    (hbare : '/' ∉ name.toList) (hsegment : Path.isSegment name.toList = true) :
    below p.toString name = (p.join name).toString := by
  have hanchor : p.anchor ≠ .relative := by simpa [Path.isAbsolute] using habsolute
  have hwritten : ∀ segments, (Path.mk p.anchor segments).toString.toList =
      p.anchor.toString.toList ++ ['/'].intercalate (segments.map String.toList) := fun segments =>
    Path.toList_toString fun heq => hanchor (congrArg Path.anchor heq)
  have hdirectory : p.toString.toList =
      p.anchor.toString.toList ++ ['/'].intercalate (p.segments.map String.toList) :=
    hwritten p.segments
  rw [← String.toList_inj, Path.join_of_segment hbare hsegment, hwritten, List.map_append]
  by_cases hnil : p.segments.map String.toList = []
  · -- The text of an anchor ends with a slash.
    obtain ⟨rest, hslash⟩ : ∃ rest, p.anchor.toString.toList = rest ++ ['/'] := by
      cases hcase : p.anchor with
      | relative => exact absurd hcase hanchor
      | root => exact ⟨[], rfl⟩
      | doubleRoot => exact ⟨['/'], rfl⟩
    rw [hnil, List.intercalate_nil, List.append_nil, hslash] at hdirectory
    rw [toList_below hdirectory, if_pos rfl, hdirectory, hnil, hslash]
    simp [List.intercalate]
  · -- The last segment does not.
    obtain ⟨rest, c, hlast, hc⟩ := Path.exists_concat_intercalate hnil hp
    rw [hlast, ← List.append_assoc] at hdirectory
    rw [toList_below hdirectory, if_neg hc, List.map_singleton, Path.intercalate_concat hnil,
      hdirectory, hlast]
    simp only [List.append_assoc]

end Below

/-- **An absolute path leads to the same place from everywhere.** -/
theorem find_of_isAbsolute {path : String} (h : (Path.ofString path).isAbsolute = true)
    (host : Host) (cwd : List String) : { host with cwd }.find path = host.find path := by
  obtain ⟨rest, hrest⟩ := List.head?_eq_some_iff.mp (Path.isAbsolute_ofString.mp h)
  have hrooted : path.startsWith "/" = true := by
    rw [String.startsWith_string_iff, hrest]
    exact ⟨rest, rfl⟩
  unfold find
  rw [if_pos hrooted, if_pos hrooted]

/-- What the search for a program finds. -/
theorem findProgram_eq_some {h : Host} {name program : String} :
    h.findProgram name = some program ↔
      ('/' ∈ name.toList ∧ h.isRunnable name = true ∧ program = name) ∨
      ('/' ∉ name.toList ∧ ∃ before dir after, h.searchDirectories = before ++ dir :: after ∧
        (∀ d ∈ before, h.isRunnable (below d name) = false) ∧
        h.isRunnable (below dir name) = true ∧ program = below dir name) := by
  unfold findProgram
  rw [String.contains_char_eq]
  by_cases hslash : '/' ∈ name.toList
  · simp only [hslash, decide_true, if_true, true_and, not_true_eq_false, false_and, or_false]
    constructor
    · intro h
      split at h
      · cases h
        exact ⟨by assumption, rfl⟩
      · cases h
    · rintro ⟨hrun, rfl⟩
      rw [if_pos hrun]
  · simp only [hslash, decide_false, Bool.false_eq_true, if_false, false_and, false_or,
      not_false_eq_true, true_and, List.find?_map, Option.map_eq_some_iff,
      List.find?_eq_some_iff_append]
    constructor
    · rintro ⟨dir, ⟨hrun, before, after, hdirs, hbefore⟩, rfl⟩
      exact ⟨before, dir, after, hdirs, fun d hd => by simpa using hbefore d hd, hrun, rfl⟩
    · rintro ⟨before, dir, after, hdirs, hbefore, hrun, rfl⟩
      exact ⟨dir, ⟨hrun, before, after, hdirs, fun d hd => by simpa using hbefore d hd⟩, rfl⟩

end Host

namespace Linter

open Host (below Run Runner)

/-- The text of an absolute path. -/
def IsAbsolute (text : String) : Prop :=
  (Path.ofString text).isAbsolute = true

/-- The text that the path it names is written with. -/
def IsNormal (text : String) : Prop :=
  (Path.ofString text).toString = text

instance (text : String) : Decidable (IsAbsolute text) :=
  inferInstanceAs (Decidable (_ = _))

instance (text : String) : Decidable (IsNormal text) :=
  inferInstanceAs (Decidable (_ = _))

/-- **A name for which the current directory does not count**: an absolute path, or a segment that
is looked for in directories that are all absolute and normally written. -/
def IsSettled (h : Host) (name : String) : Prop :=
  IsAbsolute name ∨
    ('/' ∉ name.toList ∧ Path.isSegment name.toList = true) ∧
      ∀ dir ∈ h.searchDirectories, IsAbsolute dir ∧ IsNormal dir

/-- The way a path is normally written is as absolute as the path. -/
theorem isAbsolute_toString {text : String} :
    IsAbsolute (Path.ofString text).toString ↔ IsAbsolute text := by
  rw [IsAbsolute, IsAbsolute, (Path.isPlain_ofString text).ofString_toString]

/-! ### What a program is resolved to -/

/-- **What the name of a program is resolved to.** -/
inductive Resolved (h : Host) (head : String) : String → Prop
  /-- An absolute path is resolved to the way it is written. -/
  | absolute (habsolute : IsAbsolute head) : Resolved h head (Path.ofString head).toString
  /-- Another path of a file that can be run is kept as it is. -/
  | slashed (hrelative : ¬ IsAbsolute head) (hslash : '/' ∈ head.toList)
      (hrun : h.isRunnable head = true) : Resolved h head head
  /-- A bare name is resolved to the first place on the search path where a file can be run. -/
  | searched (before : List String) (dir : String) (after : List String)
      (hbare : '/' ∉ head.toList) (hdirs : h.searchDirectories = before ++ dir :: after)
      (hbefore : ∀ d ∈ before, h.isRunnable (below d head) = false)
      (hrun : h.isRunnable (below dir head) = true) : Resolved h head (below dir head)

section Resolved

variable {h : Host} {head program : String} {rest args : List String}

theorem resolve_of_isAbsolute (habsolute : IsAbsolute head) :
    resolve h (head :: rest) = .ok ((Path.ofString head).toString :: rest) :=
  if_pos habsolute

theorem resolve_of_not_isAbsolute (hrelative : ¬ IsAbsolute head) :
    resolve h (head :: rest) = match h.findProgram head with
      | some place => .ok (place :: rest)
      | none => .error (.notFound head) :=
  if_neg hrelative

/-- A name that is no absolute path is looked for. -/
theorem resolved_iff_of_not_isAbsolute (hrelative : ¬ IsAbsolute head) :
    Resolved h head program ↔ h.findProgram head = some program := by
  rw [Host.findProgram_eq_some]
  constructor
  · intro hprogram
    cases hprogram with
    | absolute habsolute => exact absurd habsolute hrelative
    | slashed _ hslash hrun => exact .inl ⟨hslash, hrun, rfl⟩
    | searched before dir after hbare hdirs hbefore hrun =>
      exact .inr ⟨hbare, before, dir, after, hdirs, hbefore, hrun, rfl⟩
  · rintro (⟨hslash, hrun, rfl⟩ | ⟨hbare, before, dir, after, hdirs, hbefore, hrun, rfl⟩)
    · exact .slashed hrelative hslash hrun
    · exact .searched before dir after hbare hdirs hbefore hrun

/-- **A command line is resolved by its program**, and its arguments stay. -/
theorem resolve_eq_ok : resolve h (head :: rest) = .ok args ↔
    ∃ program, args = program :: rest ∧ Resolved h head program := by
  by_cases habsolute : IsAbsolute head
  · rw [resolve_of_isAbsolute habsolute]
    constructor
    · intro hargs
      cases hargs
      exact ⟨_, rfl, .absolute habsolute⟩
    · rintro ⟨program, rfl, hprogram⟩
      cases hprogram with
      | absolute => rfl
      | slashed hrelative => exact absurd habsolute hrelative
      | searched _ _ _ hbare => exact absurd (Path.slash_mem_of_isAbsolute habsolute) hbare
  · simp only [resolve_of_not_isAbsolute habsolute, resolved_iff_of_not_isAbsolute habsolute]
    cases h.findProgram head with
    | none => simp
    | some program => simp [eq_comm]

namespace Resolved

/-- **An absolute path comes of an absolute one, or of a directory that is one.** -/
theorem isAbsolute_iff (hprogram : Resolved h head program) :
    IsAbsolute program ↔
      IsAbsolute head ∨
        '/' ∉ head.toList ∧
          ∃ dir ∈ h.searchDirectories, IsAbsolute dir ∧ program = below dir head := by
  cases hprogram with
  | absolute habsolute =>
    exact iff_of_true (isAbsolute_toString.mpr habsolute) (.inl habsolute)
  | slashed hrelative hslash =>
    refine iff_of_false hrelative ?_
    rintro (habsolute | ⟨hbare, -⟩)
    · exact hrelative habsolute
    · exact hbare hslash
  | searched before dir after hbare hdirs =>
    constructor
    · intro habsolute
      exact .inr ⟨hbare, dir, by simp [hdirs], (Host.isAbsolute_below hbare).mp habsolute, rfl⟩
    · rintro (habsolute | ⟨-, other, -, habsolute, hsame⟩)
      · exact absurd (Path.slash_mem_of_isAbsolute habsolute) hbare
      · rw [hsame]
        exact (Host.isAbsolute_below hbare).mpr habsolute

/-- What does not depend on the current directory is resolved to an absolute path as it is normally
written. -/
theorem of_isSettled (hprogram : Resolved h head program) (hsettled : IsSettled h head) :
    IsAbsolute program ∧ IsNormal program := by
  cases hprogram with
  | absolute habsolute =>
    refine ⟨isAbsolute_toString.mpr habsolute, ?_⟩
    rw [IsNormal, (Path.isPlain_ofString head).ofString_toString]
  | slashed hrelative hslash =>
    rcases hsettled with habsolute | ⟨⟨hbare, -⟩, -⟩
    · exact absurd habsolute hrelative
    · exact absurd hslash hbare
  | searched before dir after hbare hdirs =>
    rcases hsettled with habsolute | ⟨⟨-, hsegment⟩, hall⟩
    · exact absurd (Path.slash_mem_of_isAbsolute habsolute) hbare
    · obtain ⟨habsolute, hnormal⟩ := hall dir (by simp [hdirs])
      have hplain := Path.isPlain_ofString dir
      have hwritten : below dir head = ((Path.ofString dir).join head).toString := by
        have hbelow := Host.below_toString hplain habsolute hbare hsegment
        rwa [hnormal] at hbelow
      refine ⟨(Host.isAbsolute_below hbare).mpr habsolute, ?_⟩
      rw [IsNormal, hwritten, (hplain.join hbare hsegment).ofString_toString]

/-- **What a path that is no absolute one is resolved to, is resolved to itself.** -/
theorem again (hprogram : Resolved h head program) (hrelative : ¬ IsAbsolute program) :
    Resolved h program program := by
  cases hprogram with
  | absolute habsolute => exact absurd (isAbsolute_toString.mpr habsolute) hrelative
  | slashed hrelative hslash hrun => exact .slashed hrelative hslash hrun
  | searched before dir after hbare hdirs hbefore hrun =>
    by_cases hempty : dir = ""
    · -- A file of the current directory is named as before, and looked for as before.
      subst hempty
      exact .searched before "" after hbare hdirs hbefore hrun
    · exact .slashed hrelative (Host.slash_mem_below hempty) hrun

theorem resolve_eq_self_iff (hprogram : Resolved h head program) :
    resolve h (program :: rest) = .ok (program :: rest) ↔
      (IsAbsolute program → IsNormal program) := by
  by_cases habsolute : IsAbsolute program
  · rw [resolve_of_isAbsolute habsolute]
    simp [habsolute, IsNormal]
  · exact iff_of_true (resolve_eq_ok.mpr ⟨program, rfl, hprogram.again habsolute⟩)
      fun h => absurd h habsolute

end Resolved

end Resolved

/-! ### What is run -/

/-- The run of a file that a path has led to, or the refusal that it has led to. -/
def runFound (system : Runner) (h : Host) (found : Except Host.Errno (List String × Host.Entry))
    (program : String) (args : List String) : Except SpawnError Run :=
  (found >>= fun f => Host.runEntry system h f.2 program (program :: args)).mapError
    fun errno => .system ⟨errno, program⟩

section Spawn

variable {system : Runner} {h : Host} {head program : String} {rest args : List String}

/-- The run of a single place is that of the file there. -/
theorem runFirst_singleton (system : Runner) (h : Host) (command : List String) (place : String) :
    runFirst system h command .noEntry [place] =
      h.find place >>= fun f => Host.runEntry system h f.2 place command := by
  rw [runFirst]
  rcases h.find place >>= fun f => Host.runEntry system h f.2 place command with e | run
  · rfl
  · rfl

/-- **A program with a slash in its path is looked for from the directory it is started in.** -/
theorem spawn_eq_runFound {directory : Path} {place : List String}
    (hresolve : resolve h args = .ok (program :: rest)) (hslash : '/' ∈ program.toList)
    (hdirectory : h.find directory.toString = .ok (place, .directory))
    (hnul : ∀ text ∈ directory.toString :: program :: rest, '\x00' ∉ text.toList) :
    spawn system h args directory =
      runFound system { h with cwd := place } ({ h with cwd := place }.find program) program
        rest := by
  have hclean : ¬ (directory.toString :: program :: rest).any (·.contains '\x00') = true := by
    simpa [String.contains_char_eq] using hnul
  have hplaces : places { h with cwd := place } program = [program] := by
    rw [places, String.contains_char_eq, if_pos (decide_eq_true hslash)]
  have henter : enter h directory.toString = .ok place := by
    unfold enter
    rw [hdirectory]
  unfold spawn runFound
  rw [hresolve]
  simp only [Except.mapError, bind, Except.bind]
  rw [if_neg hclean, henter]
  dsimp only
  rw [hplaces]
  exact congrArg (Except.mapError fun errno => SpawnError.system ⟨errno, program⟩)
    (runFirst_singleton system { h with cwd := place } (program :: rest) program)

/-- **What a command line is resolved to, and what is run for it.** Let a command line be resolved.
Then its arguments stay, its program becomes the path that its name is resolved to, and

* this path is absolute exactly if the name is an absolute path, or is bare and found in a directory
  of the search path that is one;
* it is resolved to itself exactly if it is not absolute or is normally written;
* it is absolute and resolved to itself if the name is an absolute path, or is bare and all
  directories of the search path are absolute and normally written;
* if it has a slash, the linter runs what the path leads to from the directory it is started in;
* if it is absolute, the linter runs what the path leads to from the current directory, whatever
  directory it is started in. -/
theorem resolved_program (hresolve : resolve h (head :: rest) = .ok args) :
    ∃ program, args = program :: rest ∧ Resolved h head program ∧
      (IsAbsolute program ↔
        IsAbsolute head ∨
          '/' ∉ head.toList ∧
            ∃ dir ∈ h.searchDirectories, IsAbsolute dir ∧ program = below dir head) ∧
      (resolve h args = .ok args ↔ (IsAbsolute program → IsNormal program)) ∧
      (IsSettled h head → IsAbsolute program ∧ resolve h args = .ok args) ∧
      (∀ (system : Runner) (directory : Path) (place : List String),
        h.find directory.toString = .ok (place, .directory) →
        (∀ text ∈ directory.toString :: args, '\x00' ∉ text.toList) →
          ('/' ∈ program.toList → spawn system h (head :: rest) directory =
            runFound system { h with cwd := place } ({ h with cwd := place }.find program) program
              rest) ∧
          (IsAbsolute program → spawn system h (head :: rest) directory =
            runFound system { h with cwd := place } (h.find program) program rest)) := by
  obtain ⟨program, rfl, hprogram⟩ := resolve_eq_ok.mp hresolve
  refine ⟨program, rfl, hprogram, hprogram.isAbsolute_iff, hprogram.resolve_eq_self_iff, ?_,
    fun system directory place hdirectory hnul => ⟨?_, ?_⟩⟩
  · intro hsettled
    obtain ⟨habsolute, hnormal⟩ := hprogram.of_isSettled hsettled
    exact ⟨habsolute, hprogram.resolve_eq_self_iff.mpr fun _ => hnormal⟩
  · exact fun hslash => spawn_eq_runFound hresolve hslash hdirectory hnul
  · intro habsolute
    rw [spawn_eq_runFound hresolve (Path.slash_mem_of_isAbsolute habsolute) hdirectory hnul,
      Host.find_of_isAbsolute habsolute]

/-- A host with one program, at the root, and one directory. -/
def small (searchPath : String) : Host where
  tree := ⟨[(["tool"], .program "true"), (["project"], .directory)]⟩
  searchPath

/-- Nothing in it depends on the search path. -/
theorem isRunnable_small {searchPath path : String} (h : (small "").isRunnable path = true) :
    (small searchPath).isRunnable path = true :=
  h

/-- Its program is found by its name with the only directory of the search path in front. -/
theorem resolve_small {dir : String} (rest : List String)
    (hdirs : (small dir).searchDirectories = [dir])
    (hrun : (small "").isRunnable (below dir "tool") = true) :
    resolve (small dir) ("tool" :: rest) = .ok (below dir "tool" :: rest) :=
  resolve_eq_ok.mpr ⟨_, rfl, .searched [] dir [] (by decide) hdirs (by nofun)
    (isRunnable_small hrun)⟩

/-- A program on the search path is found at the root, and run from a directory beside it. -/
theorem resolved_program_small :
    resolve (small "/") ["tool", "lint"] = .ok ["/tool", "lint"] ∧
      resolve (small "/") ["/tool", "lint"] = .ok ["/tool", "lint"] ∧ IsAbsolute "/tool" ∧
      ∀ system : Runner, spawn system (small "/") ["tool", "lint"] ⟨.root, ["project"]⟩ =
        runFound system { small "/" with cwd := ["project"] } ((small "/").find "/tool") "/tool"
          ["lint"] := by
  have hbelow : below "/" "tool" = "/tool" := by decide +kernel
  have hresolve : resolve (small "/") ["tool", "lint"] = .ok ["/tool", "lint"] :=
    hbelow ▸ @resolve_small "/" ["lint"] (by decide +kernel) (by decide +kernel)
  have hproject : (small "/").find (Path.toString ⟨.root, ["project"]⟩) =
      .ok (["project"], .directory) := by decide +kernel
  obtain ⟨program, hargs, -, -, -, hsettled, hstart⟩ := resolved_program hresolve
  cases hargs
  obtain ⟨habsolute, hagain⟩ := hsettled (.inr ⟨by decide, by decide +kernel⟩)
  exact ⟨hresolve, hagain, habsolute, fun system =>
    (hstart system _ _ hproject (by decide +kernel)).2 habsolute⟩

/-- A path that leads from the current directory is kept as it is. -/
theorem resolve_small_relative : resolve (small "") ["./tool"] = .ok ["./tool"] :=
  resolve_eq_ok.mpr ⟨_, rfl,
    .slashed (by decide +kernel) (by decide) (by decide +kernel)⟩

/-- A directory of the search path is kept as it is spelled. -/
theorem resolve_small_dotted : resolve (small "/.") ["tool"] = .ok ["/./tool"] := by
  have hbelow : below "/." "tool" = "/./tool" := by decide +kernel
  exact hbelow ▸ @resolve_small "/." [] (by decide +kernel) (by decide +kernel)

/-- **What is resolved need not be an absolute path, need not lead to the same file from another
directory, and need not be resolved to itself.** -/
theorem not_resolved_program :
    (¬ ∀ (h : Host) (head program : String) (rest : List String),
      resolve h (head :: rest) = .ok (program :: rest) → IsAbsolute program) ∧
    (¬ ∀ (h : Host) (head program : String) (rest cwd : List String),
      resolve h (head :: rest) = .ok (program :: rest) →
        { h with cwd }.isRunnable program = h.isRunnable program) ∧
    ¬ ∀ (h : Host) (head : String) (rest args : List String),
      resolve h (head :: rest) = .ok args → resolve h args = .ok args := by
  refine ⟨fun hclaim => ?_, fun hclaim => ?_, fun hclaim => ?_⟩
  · have habsolute := hclaim _ _ _ _ resolve_small_relative
    revert habsolute
    decide +kernel
  · have hsame := hclaim _ _ _ _ ["project"] resolve_small_relative
    revert hsame
    decide +kernel
  · have hagain := hclaim _ _ _ _ resolve_small_dotted
    have hnormal : resolve (small "/.") ["/./tool"] = .ok ["/tool"] :=
      (resolve_of_isAbsolute (by decide +kernel)).trans (by decide +kernel)
    rw [hnormal] at hagain
    revert hagain
    decide

end Spawn

end Linter

end LintBridge
