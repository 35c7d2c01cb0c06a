import LintBridge.Linter.Directory
import LintBridge.Proofs.Host.Root
import LintBridge.Proofs.Result
import Mathlib.Data.List.Range
import Mathlib.Data.List.TakeWhile

/-!
# The nearest directory with a marker

The search climbs from directory to directory, and stops for one of two reasons: a marker, or the
root of the workspace. What it comes to is said here without the climbing, of the list of
directories that it may look at. **It is the first of the list that holds a marker, or the first of
all**, provided that every question on the way there is answered. The host refuses to look for a
name that is too long, and to look anything up in a directory that may not be searched; then the
search ends with the refusal.

* `LintBridge.Linter.searchList` – the directories that may be looked at;
* `LintBridge.Linter.IsFirst` – the first element of a list that is of one kind, after elements of
  another;
* `LintBridge.Linter.Nearest`, `LintBridge.Linter.Obstructed` – the two ends of a search;
* `LintBridge.Linter.climb_eq` – where the climb stops is told beforehand;
* `LintBridge.Linter.workingDirectory_nearest` – the main result.
-/

namespace LintBridge

namespace Linter

/-! ### The first of a list -/

section First

variable {α : Type} {skip hit : α → Prop} {x y : α} {xs : List α}

/-- **The first element of a list that is a hit**, where those before it are all skipped. -/
def IsFirst (skip hit : α → Prop) (xs : List α) (x : α) : Prop :=
  ∃ before after, xs = before ++ x :: after ∧ (∀ y ∈ before, skip y) ∧ hit x

theorem not_isFirst_nil : ¬ IsFirst skip hit [] x := by
  rintro ⟨before, after, h, -⟩
  cases (List.append_eq_nil_iff.mp h.symm).2

theorem isFirst_cons :
    IsFirst skip hit (y :: xs) x ↔ (x = y ∧ hit y) ∨ (skip y ∧ IsFirst skip hit xs x) := by
  constructor
  · rintro ⟨before, after, hparts, hskip, hhit⟩
    rcases List.cons_eq_append_iff.mp hparts with ⟨rfl, hparts⟩ | ⟨before, rfl, rfl⟩
    · obtain ⟨rfl, -⟩ := List.cons.inj hparts
      exact .inl ⟨rfl, hhit⟩
    · obtain ⟨hy, hbefore⟩ := List.forall_mem_cons.mp hskip
      exact .inr ⟨hy, before, after, rfl, hbefore, hhit⟩
  · rintro (⟨rfl, hhit⟩ | ⟨hy, before, after, rfl, hbefore, hhit⟩)
    · exact ⟨[], xs, rfl, List.forall_mem_nil _, hhit⟩
    · exact ⟨y :: before, after, rfl, List.forall_mem_cons.mpr ⟨hy, hbefore⟩, hhit⟩

theorem IsFirst.hits (h : IsFirst skip hit xs x) : hit x := by
  obtain ⟨before, after, -, -, hhit⟩ := h
  exact hhit

theorem IsFirst.mem (h : IsFirst skip hit xs x) : x ∈ xs := by
  obtain ⟨before, after, rfl, -⟩ := h
  exact List.mem_append_right _ List.mem_cons_self

/-! What a search that may fail comes to is told by the first item with another answer than no. -/

variable {ε : Type} {ask : α → Except ε Bool} {e : ε}

theorem findM?_cons : (y :: xs).findM? ask = match ask y with
    | .error e => .error e
    | .ok true => .ok (some y)
    | .ok false => xs.findM? ask := by
  rw [List.findM?]
  rcases ask y with e | found
  · rfl
  · cases found <;> rfl

theorem findM?_eq_none : xs.findM? ask = .ok none ↔ ∀ y ∈ xs, ask y = .ok false := by
  induction xs with
  | nil => exact iff_of_true rfl (List.forall_mem_nil _)
  | cons y rest ih =>
    rw [findM?_cons, List.forall_mem_cons, ← ih]
    rcases ask y with e | found
    · simp
    · cases found <;> simp

theorem findM?_eq_some : xs.findM? ask = .ok (some x) ↔
    IsFirst (fun y => ask y = .ok false) (fun y => ask y = .ok true) xs x := by
  induction xs with
  | nil => exact iff_of_false nofun not_isFirst_nil
  | cons y rest ih =>
    rw [findM?_cons, isFirst_cons, ← ih]
    rcases ask y with e | found
    · simp
    · cases found <;> simp [eq_comm]

theorem findM?_eq_error : xs.findM? ask = .error e ↔
    ∃ x, IsFirst (fun y => ask y = .ok false) (fun y => ask y = .error e) xs x := by
  induction xs with
  | nil => exact iff_of_false nofun fun ⟨_, hfirst⟩ => not_isFirst_nil hfirst
  | cons y rest ih =>
    simp only [isFirst_cons, exists_or, exists_eq_left, exists_and_left, ← ih]
    rw [findM?_cons]
    rcases ask y with e | found
    · simp
    · cases found <;> simp

theorem findM?_congr {ask' : α → Except ε Bool} (h : ∀ y ∈ xs, ask' y = ask y) :
    xs.findM? ask' = xs.findM? ask := by
  induction xs with
  | nil => rfl
  | cons y rest ih =>
    obtain ⟨hy, hrest⟩ := List.forall_mem_cons.mp h
    rw [findM?_cons, findM?_cons, hy, ih hrest]

end First

/-! ### The directories that may be looked at -/

/-- A list up to and including the given item, if that is in it. -/
def cutAfter (limit : Option Path) (dirs : List Path) : List Path :=
  match limit with
  | some root => if root ∈ dirs then dirs.takeWhile (· ≠ root) ++ [root] else dirs
  | none => dirs

/-- **The directories that may be looked at**: the start and those above it, nearest first, up to
the workspace if that is one of them. -/
def searchList (start : Path) (workspace : Option Path) : List Path :=
  cutAfter workspace (start :: start.parents)

section Cut

variable {workspace : Option Path} {dir root : Path} {dirs : List Path}

theorem cutAfter_nil : cutAfter workspace [] = [] := by
  cases workspace <;> rfl

theorem cutAfter_cons : cutAfter workspace (dir :: dirs) =
    dir :: if workspace = some dir then [] else cutAfter workspace dirs := by
  cases workspace with
  | none => rfl
  | some root =>
    by_cases hdir : dir = root
    · subst hdir
      simp [cutAfter]
    · have hne : some root ≠ some dir := fun h => hdir (Option.some.inj h).symm
      have hmem : root ∈ dir :: dirs ↔ root ∈ dirs := by simp [Ne.symm hdir]
      rw [if_neg hne]
      unfold cutAfter
      simp only [hmem]
      split
      · simp [hdir]
      · rfl

theorem mem_of_mem_cutAfter (h : dir ∈ cutAfter workspace dirs) : dir ∈ dirs := by
  induction dirs with
  | nil =>
    rw [cutAfter_nil] at h
    cases h
  | cons first rest ih =>
    rw [cutAfter_cons, List.mem_cons] at h
    rcases h with rfl | h
    · exact List.mem_cons_self
    · split at h
      · cases h
      · exact List.mem_cons_of_mem _ (ih h)

/-- The paths above a path, and the path itself, get shorter one by one. -/
theorem pairwise_parents (start : Path) : (start :: start.parents).Pairwise fun p q =>
    q.segments.length < p.segments.length := by
  have hlength : ∀ n < start.segments.length, (start.segments.take n).length = n := fun n hn =>
    List.length_take_of_le hn.le
  refine List.pairwise_cons.mpr ⟨fun q hq => ?_, ?_⟩
  · obtain ⟨n, hn, rfl⟩ := List.mem_map.mp hq
    have hn := List.mem_range.mp (List.mem_reverse.mp hn)
    exact (hlength n hn).trans_lt hn
  · refine List.pairwise_map.mpr (List.pairwise_reverse.mpr ?_)
    refine List.pairwise_lt_range.imp_of_mem fun {m n} hm hn hlt => ?_
    rw [hlength m (List.mem_range.mp hm), hlength n (List.mem_range.mp hn)]
    exact hlt

/-- What is looked at is not above the workspace. -/
theorem length_le_of_mem_cutAfter
    (hsorted : dirs.Pairwise fun p q => q.segments.length < p.segments.length) (hroot : root ∈ dirs)
    (h : dir ∈ cutAfter (some root) dirs) : root.segments.length ≤ dir.segments.length := by
  induction dirs with
  | nil => cases hroot
  | cons first rest ih =>
    obtain ⟨hfirst, hrest⟩ := List.pairwise_cons.mp hsorted
    rw [cutAfter_cons, List.mem_cons] at h
    by_cases heq : root = first
    · subst heq
      simp only [if_true, List.not_mem_nil, or_false] at h
      rw [h]
    · have hmem : root ∈ rest := (List.mem_cons.mp hroot).resolve_left heq
      rcases h with rfl | h
      · exact (hfirst root hmem).le
      · rw [if_neg fun h => heq (Option.some.inj h)] at h
        exact ih hrest hmem h

theorem length_lt_of_mem_parents (h : dir ∈ root.parents) :
    dir.segments.length < root.segments.length :=
  (List.pairwise_cons.mp (pairwise_parents root)).1 dir h

end Cut

/-! ### The search -/

section Search

variable {h : Host} {markers : List String} {workspace : Option Path} {dir : Path}
  {dirs : List Path} {e : Host.Error}

/-- A directory is found to hold none of the markers. -/
def Bare (h : Host) (markers : List String) (dir : Path) : Prop :=
  ∀ marker ∈ markers, h.isFile (dir.join marker) = .ok false

/-- A directory holds one of the markers as a regular file. -/
def Holds (h : Host) (markers : List String) (dir : Path) : Prop :=
  ∃ marker ∈ markers, h.isFile (dir.join marker) = .ok true

/-- **A directory is found to hold a marker**: it does, and it is found to hold none of those that
are looked for before. -/
def Marked (h : Host) (markers : List String) (dir : Path) : Prop :=
  ∃ marker, IsFirst (fun m => h.isFile (dir.join m) = .ok false)
    (fun m => h.isFile (dir.join m) = .ok true) markers marker

/-- **A directory is not told to hold a marker or none**: the host refuses to look for one of them,
and those that are looked for before are not there. -/
def Blocked (h : Host) (markers : List String) (e : Host.Error) (dir : Path) : Prop :=
  ∃ marker, IsFirst (fun m => h.isFile (dir.join m) = .ok false)
    (fun m => h.isFile (dir.join m) = .error e) markers marker

theorem Marked.holds (hdir : Marked h markers dir) : Holds h markers dir := by
  obtain ⟨marker, before, after, rfl, -, hmarker⟩ := hdir
  exact ⟨marker, List.mem_append_right _ List.mem_cons_self, hmarker⟩

theorem Bare.not_holds (hdir : Bare h markers dir) : ¬ Holds h markers dir := by
  rintro ⟨marker, hmem, hmarker⟩
  cases (hdir marker hmem).symm.trans hmarker

theorem Blocked.refused (hdir : Blocked h markers e dir) :
    ∃ marker ∈ markers, h.isFile (dir.join marker) = .error e := by
  obtain ⟨marker, before, after, rfl, -, hmarker⟩ := hdir
  exact ⟨marker, List.mem_append_right _ List.mem_cons_self, hmarker⟩

theorem holdsMarker_eq : holdsMarker h dir markers =
    (markers.findM? fun marker => h.isFile (dir.join marker)).map Option.isSome := by
  induction markers with
  | nil => rfl
  | cons marker rest ih =>
    rw [holdsMarker, findM?_cons, ih]
    rcases h.isFile (dir.join marker) with e | found
    · rfl
    · cases found <;> rfl

theorem holdsMarker_eq_false : holdsMarker h dir markers = .ok false ↔ Bare h markers dir := by
  rw [holdsMarker_eq, Bare, ← findM?_eq_none]
  rcases markers.findM? _ with e | _ | marker <;> simp [Except.map]

theorem holdsMarker_eq_true : holdsMarker h dir markers = .ok true ↔ Marked h markers dir := by
  simp only [holdsMarker_eq, Marked, ← findM?_eq_some]
  rcases markers.findM? _ with e | _ | marker <;> simp [Except.map]

theorem holdsMarker_eq_error : holdsMarker h dir markers = .error e ↔ Blocked h markers e dir := by
  simp only [holdsMarker_eq, Blocked, ← findM?_eq_error]
  rcases markers.findM? _ with e | found <;> simp [Except.map]

/-- **The climb is a search**: where it stops is told beforehand. -/
theorem climb_eq : climb h markers workspace dirs =
    (cutAfter workspace dirs).findM? fun dir => holdsMarker h dir markers := by
  induction dirs with
  | nil => rw [cutAfter_nil, climb]; rfl
  | cons first above ih =>
    rw [climb, cutAfter_cons, findM?_cons, ih]
    rcases holdsMarker h first markers with e | found
    · rfl
    · cases found with
      | true => rfl
      | false =>
        by_cases hlast : workspace = some first
        · simp [bind, Except.bind, hlast]
        · simp [bind, Except.bind, hlast]

theorem climb_eq_none : climb h markers workspace dirs = .ok none ↔
    ∀ dir ∈ cutAfter workspace dirs, Bare h markers dir := by
  simp only [climb_eq, findM?_eq_none, holdsMarker_eq_false]

theorem climb_eq_some : climb h markers workspace dirs = .ok (some dir) ↔
    IsFirst (Bare h markers) (Marked h markers) (cutAfter workspace dirs) dir := by
  simp only [climb_eq, findM?_eq_some, holdsMarker_eq_false, holdsMarker_eq_true]

theorem climb_eq_error : climb h markers workspace dirs = .error e ↔
    ∃ dir, IsFirst (Bare h markers) (Blocked h markers e) (cutAfter workspace dirs) dir := by
  simp only [climb_eq, findM?_eq_error, holdsMarker_eq_false, holdsMarker_eq_error]

end Search

/-! ### What the search comes to -/

/-- **The directory that a search ends with**: the first of those looked at that is a hit, or the
start if all of them are skipped. -/
inductive Nearest (skip hit : Path → Prop) (searched : List Path) (start : Path) : Path → Prop where
  /-- There is a hit. -/
  | marked {dir : Path} (hfirst : IsFirst skip hit searched dir) :
      Nearest skip hit searched start dir
  /-- There is none. -/
  | start (hnone : ∀ dir ∈ searched, skip dir) : Nearest skip hit searched start start

theorem Nearest.imp {skip hit skip' hit' : Path → Prop} {searched : List Path} {start dir : Path}
    (hskip : ∀ dir, skip dir → skip' dir) (hhit : ∀ dir, hit dir → hit' dir)
    (h : Nearest skip hit searched start dir) : Nearest skip' hit' searched start dir := by
  cases h with
  | marked hfirst =>
    obtain ⟨before, after, hparts, hbefore, hdir⟩ := hfirst
    exact .marked ⟨before, after, hparts, fun d hd => hskip d (hbefore d hd), hhit _ hdir⟩
  | start hnone => exact .start fun d hd => hskip d (hnone d hd)

/-- **The refusal that a search ends with**: it comes to a directory where the host refuses to look
for a marker, and those before hold none. -/
def Obstructed (h : Host) (markers : List String) (searched : List Path) (e : Host.Error) : Prop :=
  ∃ dir, IsFirst (Bare h markers) (Blocked h markers e) searched dir

section Outcome

variable {h : Host} {markers : List String} {workspace : Option Path} {path start dir : Path}
  {e : Host.Error}

/-- The search does not need to know beforehand that there are no markers. -/
theorem workingDirectory_of_startOf (hstart : startOf h path = .ok start) :
    workingDirectory h markers workspace path =
      (climb h markers workspace (start :: start.parents)).map (·.getD start) := by
  unfold workingDirectory
  simp only [hstart, bind, Except.bind]
  split
  · rename_i hnone
    have hbare : climb h markers workspace (start :: start.parents) = .ok none := by
      rw [climb_eq_none, List.isEmpty_iff.mp hnone]
      exact fun dir _ => List.forall_mem_nil _
    rw [hbare]
    rfl
  · rfl

theorem workingDirectory_of_startOf_error (hstart : startOf h path = .error e) :
    workingDirectory h markers workspace path = .error e := by
  unfold workingDirectory
  rw [hstart]
  rfl

theorem startOf_eq_error : startOf h path = .error e ↔ h.isDirectory path = .error e := by
  unfold startOf
  rcases h.isDirectory path with e' | found <;> simp [bind, Except.bind, pure, Except.pure]

theorem workingDirectory_eq_ok : workingDirectory h markers workspace path = .ok dir ↔
    ∃ start, startOf h path = .ok start ∧
      Nearest (Bare h markers) (Marked h markers) (searchList start workspace) start dir := by
  rcases hstart : startOf h path with e | start
  · simp [workingDirectory_of_startOf_error hstart]
  · rw [workingDirectory_of_startOf hstart]
    simp only [Except.ok.injEq, exists_eq_left']
    constructor
    · intro hdir
      rcases hclimb : climb h markers workspace (start :: start.parents) with e | _ | found
      · rw [hclimb] at hdir
        cases hdir
      · rw [hclimb] at hdir
        cases hdir
        exact .start (climb_eq_none.mp hclimb)
      · rw [hclimb] at hdir
        cases hdir
        exact .marked (climb_eq_some.mp hclimb)
    · rintro (hfirst | hnone)
      · rw [climb_eq_some.mpr hfirst]
        rfl
      · rw [climb_eq_none.mpr hnone]
        rfl

theorem workingDirectory_eq_error : workingDirectory h markers workspace path = .error e ↔
    h.isDirectory path = .error e ∨ ∃ start, startOf h path = .ok start ∧
      Obstructed h markers (searchList start workspace) e := by
  rw [← startOf_eq_error]
  rcases hstart : startOf h path with e' | start
  · simp [workingDirectory_of_startOf_error hstart]
  · rw [workingDirectory_of_startOf hstart]
    simp only [reduceCtorEq, false_or, Except.ok.injEq, exists_eq_left', Obstructed, searchList,
      ← climb_eq_error]
    rcases climb h markers workspace (start :: start.parents) with e' | found <;> simp [Except.map]

theorem workingDirectory_ne_error (hstart : startOf h path = .ok start)
    (hanswered : ∀ dir ∈ searchList start workspace, ∀ marker ∈ markers,
      ∃ found, h.isFile (dir.join marker) = .ok found) (e : Host.Error) :
    workingDirectory h markers workspace path ≠ .error e := by
  intro he
  rcases workingDirectory_eq_error.mp he with hpath | ⟨start', hstart', dir, hfirst⟩
  · cases hstart.symm.trans (startOf_eq_error.mpr hpath)
  · cases hstart.symm.trans hstart'
    obtain ⟨marker, hmarker, hrefused⟩ := hfirst.hits.refused
    obtain ⟨found, hfound⟩ := hanswered dir hfirst.mem marker hmarker
    cases hfound.symm.trans hrefused

theorem Nearest.mem {skip hit : Path → Prop}
    (hdir : Nearest skip hit (searchList start workspace) start dir) :
    dir ∈ start :: start.parents := by
  cases hdir with
  | marked hfirst => exact mem_of_mem_cutAfter hfirst.mem
  | start hnone => exact List.mem_cons_self

/-- What is found is not above a workspace that the search starts in. -/
theorem Nearest.not_above {skip hit : Path → Prop} {root : Path}
    (hdir : Nearest skip hit (searchList start (some root)) start dir)
    (hroot : root ∈ start :: start.parents) : dir ∉ root.parents := by
  have hsorted := pairwise_parents start
  have hle : root.segments.length ≤ dir.segments.length := by
    cases hdir with
    | marked hfirst => exact length_le_of_mem_cutAfter hsorted hroot hfirst.mem
    | start hnone =>
      rcases List.mem_cons.mp hroot with rfl | hroot
      · exact le_rfl
      · exact (length_lt_of_mem_parents hroot).le
  exact fun habove => absurd (length_lt_of_mem_parents habove) (Nat.not_lt.mpr hle)

/-- A search depends on nothing but the answers about the markers in the directories looked at. -/
theorem workingDirectory_congr {h' : Host} (hstart : startOf h' path = startOf h path)
    (hsame : ∀ start, startOf h path = .ok start → ∀ dir ∈ searchList start workspace,
      ∀ marker ∈ markers, h'.isFile (dir.join marker) = h.isFile (dir.join marker)) :
    workingDirectory h' markers workspace path = workingDirectory h markers workspace path := by
  rcases hstarted : startOf h path with e | start
  · rw [workingDirectory_of_startOf_error hstarted,
      workingDirectory_of_startOf_error (hstart.trans hstarted)]
  · rw [workingDirectory_of_startOf hstarted, workingDirectory_of_startOf (hstart.trans hstarted),
      climb_eq, climb_eq]
    congr 1
    refine findM?_congr fun dir hdir => ?_
    rw [holdsMarker_eq, holdsMarker_eq]
    exact congrArg _ (findM?_congr (hsame start hstarted dir hdir))

/-- **The nearest directory with a marker.** The first two parts say with what a search ends, and
exactly when; the others say of this what a caller relies on. -/
theorem workingDirectory_nearest (h : Host) (markers : List String) (workspace : Option Path)
    (path : Path) :
    -- it ends with a directory: the first that is found to hold a marker, or the start
    (∀ dir, workingDirectory h markers workspace path = .ok dir ↔
      ∃ start, startOf h path = .ok start ∧
        Nearest (Bare h markers) (Marked h markers) (searchList start workspace) start dir) ∧
    -- it ends with a refusal: about the path itself, or about a marker on the way
    (∀ e, workingDirectory h markers workspace path = .error e ↔
      h.isDirectory path = .error e ∨
        ∃ start, startOf h path = .ok start ∧
          Obstructed h markers (searchList start workspace) e) ∧
    -- it is that of a look-up: of what is too long, or beyond a place where the system stops
    (∀ e, workingDirectory h markers workspace path = .error e →
      h.find e.path = .error e.errno ∧ e.errno.leadsNowhere = false ∧
        (e.errno = .nameTooLong ∨ h.tree.Refuses e.errno)) ∧
    -- where nothing is refused there is a directory, and it is the nearest that holds a marker
    (∀ start, startOf h path = .ok start →
      (∀ dir ∈ searchList start workspace, ∀ marker ∈ markers,
        ∃ found, h.isFile (dir.join marker) = .ok found) →
      ∃ dir, workingDirectory h markers workspace path = .ok dir ∧
        Nearest (fun dir => ¬ Holds h markers dir) (Holds h markers)
          (searchList start workspace) start dir) ∧
    -- the directory is the start or above it, and not above a workspace that the start is in
    (∀ start dir, startOf h path = .ok start →
      workingDirectory h markers workspace path = .ok dir →
      dir ∈ start :: start.parents ∧
        ∀ root, workspace = some root → root ∈ start :: start.parents → dir ∉ root.parents) ∧
    -- no other file matters
    (∀ h' : Host, startOf h' path = startOf h path →
      (∀ start, startOf h path = .ok start → ∀ dir ∈ searchList start workspace,
        ∀ marker ∈ markers, h'.isFile (dir.join marker) = h.isFile (dir.join marker)) →
      workingDirectory h' markers workspace path = workingDirectory h markers workspace path) := by
  refine ⟨fun dir => workingDirectory_eq_ok, fun e => workingDirectory_eq_error, fun e he => ?_,
    fun start hstart hanswered => ?_, fun start dir hstart hdir => ?_,
    fun h' hstart hsame => workingDirectory_congr hstart hsame⟩
  · rcases workingDirectory_eq_error.mp he with hpath | ⟨start, -, dir, hfirst⟩
    · exact Host.cause_of_test_eq_error hpath
    · obtain ⟨marker, -, hmarker⟩ := hfirst.hits.refused
      exact Host.cause_of_test_eq_error hmarker
  · rcases hended : workingDirectory h markers workspace path with e | dir
    · exact absurd hended (workingDirectory_ne_error hstart hanswered e)
    · obtain ⟨start', hstart', hnearest⟩ := workingDirectory_eq_ok.mp hended
      cases hstart.symm.trans hstart'
      exact ⟨dir, rfl, hnearest.imp (fun _ => Bare.not_holds) fun _ => Marked.holds⟩
  · obtain ⟨start', hstart', hnearest⟩ := workingDirectory_eq_ok.mp hdir
    cases hstart.symm.trans hstart'
    refine ⟨hnearest.mem, ?_⟩
    rintro root rfl hroot
    exact hnearest.not_above hroot

/-- A search that starts below a directory in which the system looks nothing up. -/
example : workingDirectory ⟨{ entries := [(["home"], .closed .denied)] }, [], ""⟩ ["chalk.yaml"]
    none ⟨.root, ["home", "app.py"]⟩ = .error ⟨.denied, "/home/app.py"⟩ := by
  decide +kernel

/-- A name that no file can have. -/
def longMarker : String :=
  String.ofList (List.replicate 256 'm')

theorem toList_longMarker : longMarker.toList = List.replicate 256 'm' :=
  String.toList_ofList

theorem utf8ByteSize_longMarker : longMarker.utf8ByteSize = 256 := by
  have hsize : ∀ n, (String.ofList (List.replicate n 'm')).utf8ByteSize = n := by
    intro n
    induction n with
    | zero => rfl
    | succ n ih =>
      have hcons : String.ofList (List.replicate (n + 1) 'm') =
          String.singleton 'm' ++ String.ofList (List.replicate n 'm') :=
        String.toList_inj.mp (by simp [List.replicate_succ])
      have hletter : (String.singleton 'm').utf8ByteSize = 1 := by decide
      rw [hcons, String.utf8ByteSize_append, ih, hletter, Nat.add_comm]
  exact hsize 256

/-- An empty host refuses to look for it. -/
theorem isFile_longMarker : Host.isFile {} (Path.join ⟨.root, []⟩ longMarker) =
    .error ⟨.nameTooLong, "/" ++ longMarker⟩ := by
  have hletters : ∀ c ∈ longMarker.toList, c = 'm' := by
    rw [toList_longMarker]
    exact fun c => List.eq_of_mem_replicate
  have hunslashed : '/' ∉ longMarker.toList := fun h => absurd (hletters _ h) (by decide)
  have hnull : '\x00' ∉ ("/" ++ longMarker).toList := by
    rw [String.toList_append, List.mem_append]
    exact fun h => h.elim (by decide) fun h => absurd (hletters _ h) (by decide)
  have hfind : Host.find {} ("/" ++ longMarker) = .error .nameTooLong :=
    Host.find_atRoot_of_long hunslashed (by rw [utf8ByteSize_longMarker]; decide)
      (by rw [utf8ByteSize_longMarker]; decide)
  have hpath : (Path.join ⟨.root, []⟩ longMarker).toString = "/" ++ longMarker := by
    rw [Path.join_of_segment hunslashed (by rw [toList_longMarker]; rfl)]
    rfl
  refine Host.test_eq_error.mpr ?_
  rw [hpath]
  exact ⟨hnull, hfind, rfl, rfl⟩

/-- **Not every search ends with a directory**: the host refuses to look for a marker whose name is
too long. -/
theorem not_workingDirectory_ok : ¬ ∀ (h : Host) (markers : List String) (workspace : Option Path)
    (path : Path), ∃ dir, workingDirectory h markers workspace path = .ok dir := by
  intro hreturns
  obtain ⟨dir, hdir⟩ := hreturns {} [longMarker] none ⟨.root, ["app.py"]⟩
  have hpath : Host.isDirectory {} ⟨.root, ["app.py"]⟩ = .ok false := by
    have hfind := @Host.find_atRoot_of_none {} "app.py" (by decide +kernel) rfl
    unfold Host.isDirectory Host.test
    dsimp only
    rw [show (Path.mk .root ["app.py"]).toString = "/" ++ "app.py" from rfl, hfind]
    split <;> rfl
  have hstart : startOf {} ⟨.root, ["app.py"]⟩ = .ok ⟨.root, []⟩ := by
    unfold startOf
    rw [hpath]
    rfl
  have hobstructed : Obstructed {} [longMarker] (searchList ⟨.root, []⟩ none)
      ⟨.nameTooLong, "/" ++ longMarker⟩ :=
    ⟨_, isFirst_cons.mpr (.inl ⟨rfl, longMarker, isFirst_cons.mpr (.inl ⟨rfl, isFile_longMarker⟩)⟩)⟩
  rw [workingDirectory_eq_error.mpr (.inr ⟨_, hstart, hobstructed⟩)] at hdir
  cases hdir

end Outcome

end Linter

end LintBridge
