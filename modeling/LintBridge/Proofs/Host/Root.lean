import LintBridge.Host.Tree
import LintBridge.Proofs.Path.Segments
import LintBridge.Proofs.Result

/-!
# Look-ups and their refusals

A name at the root is looked up in one step. It leads to what stands there
(`LintBridge.Host.find_atRoot`), or nowhere (`LintBridge.Host.find_atRoot_of_none`), and where no
link stands the path is its own real path (`LintBridge.Host.realPath_atRoot`).

A look-up that leads nowhere says so, and then a question about the path is answered with no. **It
is refused for the reasons that are left** (`LintBridge.Host.test_eq_error`): something is too long,
or the system stops at some place of the tree, because it looks nothing up in a directory or does
not look at what stands there (`LintBridge.Host.Tree.Refuses`, `LintBridge.Host.find_eq_error`).
-/

namespace LintBridge.Host

/-- What the system looks at and does not go on from to somewhere else. -/
def Entry.IsSeen (e : Entry) : Prop :=
  (∀ target, e ≠ .link target) ∧ ∀ reason, e ≠ .hidden reason

/-- **A name**: a segment that does not stand for a directory by itself, and is not too long. -/
structure Tree.IsName (name : String) : Prop where
  /-- It is not empty. -/
  ne_empty : name ≠ ""
  /-- It does not stand for the directory itself. -/
  ne_dot : name ≠ "."
  /-- It does not stand for the directory above. -/
  ne_dots : name ≠ ".."
  /-- It has no slash. -/
  unslashed : '/' ∉ name.toList
  /-- It is not too long. -/
  short : name.utf8ByteSize ≤ maxName

namespace Tree

instance (name : String) : Decidable (IsName name) :=
  decidable_of_iff (name ≠ "" ∧ name ≠ "." ∧ name ≠ ".." ∧ '/' ∉ name.toList ∧
      name.utf8ByteSize ≤ maxName)
    ⟨fun ⟨ne_empty, ne_dot, ne_dots, unslashed, short⟩ =>
      ⟨ne_empty, ne_dot, ne_dots, unslashed, short⟩,
      fun h => ⟨h.ne_empty, h.ne_dot, h.ne_dots, h.unslashed, h.short⟩⟩

section Name

variable {t : Tree} {name : String}

theorem IsName.kept (h : IsName name) : ¬ (name == "" || name == ".") = true := by
  simp [h.ne_empty, h.ne_dot]

theorem IsName.down (h : IsName name) : ¬ (name == "..") = true := by
  simp [h.ne_dots]

theorem IsName.small (h : IsName name) : name.utf8ByteSize < maxPath :=
  Nat.lt_of_le_of_lt h.short (by decide)

theorem segmentsOf_atRoot (h : '/' ∉ name.toList) : segmentsOf ("/" ++ name) = ["", name] := by
  have hcut : (Text.splitOn '/' name.toList) = [name.toList] := by
    rw [Text.splitOn_eq, List.splitOn_eq_singleton h]
  have hlist : ("/" ++ name).toList = '/' :: name.toList := String.toList_append
  rw [segmentsOf, hlist, Text.splitOn, if_pos (by decide), hcut]
  simp

/-- However many links may still be followed, a look-up goes on up to the first of them. -/
theorem exists_walkTo (t : Tree) (links : Nat) : ∃ follow, t.walk links = t.walkTo follow := by
  cases links with
  | zero => exact ⟨_, rfl⟩
  | succ links => exact ⟨_, rfl⟩

/-- Nothing is looked up for empty segments, nor in an open directory for single dots. -/
theorem walk_of_skipped {skipped dir : List String} (hopen : t.refusalIn dir = none)
    (h : ∀ seg ∈ skipped, (seg == "" || seg == ".") = true) (links : Nat) (rest : List String) :
    t.walk links dir (skipped ++ rest) = t.walk links dir rest := by
  obtain ⟨follow, hwalk⟩ := exists_walkTo t links
  rw [hwalk]
  induction skipped with
  | nil => rfl
  | cons seg more ih =>
    obtain ⟨hseg, hmore⟩ := List.forall_mem_cons.mp h
    rw [List.cons_append, walkTo, ih hmore, hopen]
    rcases (Bool.or_eq_true _ _).mp hseg with hseg | hseg
    · rw [if_pos hseg]
    · simp only [hseg, if_true, ite_self]

/-- A name is looked up in an open directory by what stands under it. -/
theorem walkTo_name (h : IsName name) {dir : List String} (hopen : t.refusalIn dir = none)
    (follow : List String → List String → Except Errno (List String)) (rest : List String) :
    t.walkTo follow dir (name :: rest) = match t.entry? (dir ++ [name]) with
      | none => .error .noEntry
      | some .directory => t.walkTo follow (dir ++ [name]) rest
      | some (.closed _) => t.walkTo follow (dir ++ [name]) rest
      | some (.link target) =>
        follow (if target.startsWith "/" then [] else dir) (segmentsOf target ++ rest)
      | some (.hidden reason) => .error reason
      | some _ => if rest.isEmpty then .ok (dir ++ [name]) else .error .notDirectory := by
  have hdot : ¬ (name == ".") = true := by simpa using h.ne_dot
  have hdots : ¬ (name == "..") = true := by simpa using h.ne_dots
  rw [walkTo, if_neg (by simpa using h.ne_empty), hopen]
  refine (if_neg hdot).trans ((if_neg hdots).trans ((if_neg (Nat.not_lt.mpr h.short)).trans ?_))
  rcases t.entry? (dir ++ [name]) with _ | e
  · rfl
  · cases e <;> rfl

/-- A name leads from an open directory to what stands under it. -/
theorem walk_name (h : IsName name) {dir : List String} (hopen : t.refusalIn dir = none) {e : Entry}
    (he : t.entry? (dir ++ [name]) = some e) (hseen : e.IsSeen) (links : Nat) :
    t.walk links dir [name] = .ok (dir ++ [name]) := by
  obtain ⟨follow, hwalk⟩ := exists_walkTo t links
  rw [hwalk, walkTo_name h hopen, he]
  cases e with
  | directory => rfl
  | file octets executable => rfl
  | program program => rfl
  | link target => exact absurd rfl (hseen.1 target)
  | closed reason => rfl
  | sealed reason executable => rfl
  | hidden reason => exact absurd rfl (hseen.2 reason)

theorem walk_of_none (h : IsName name) {dir : List String} (hopen : t.refusalIn dir = none)
    (he : t.entry? (dir ++ [name]) = none) (links : Nat) :
    t.walk links dir [name] = .error .noEntry := by
  obtain ⟨follow, hwalk⟩ := exists_walkTo t links
  rw [hwalk, walkTo_name h hopen, he]

/-- The root is open. -/
theorem refusalIn_root (t : Tree) : t.refusalIn [] = none := rfl

theorem walk_fromRoot (t : Tree) (links : Nat) (rest : List String) :
    t.walk links [] ("" :: rest) = t.walk links [] rest :=
  @walk_of_skipped t [""] [] t.refusalIn_root (by decide) links rest

theorem walk_atRoot_of_long (hlong : maxName < name.utf8ByteSize) (links : Nat) :
    t.walk links [] ["", name] = .error .nameTooLong := by
  have hne : ∀ short : String, short.utf8ByteSize ≤ maxName → name ≠ short := by
    rintro short hshort rfl
    omega
  obtain ⟨follow, hwalk⟩ := exists_walkTo t links
  rw [walk_fromRoot, hwalk, walkTo, if_neg (by simpa using hne "" (by decide)), t.refusalIn_root]
  simp only [beq_iff_eq, if_neg (hne "." (by decide)), if_neg (hne ".." (by decide)), if_pos hlong]

/-- A place where no link stands is its own real place. -/
theorem realPlace_atRoot (h : IsName name) (he : ∀ target, t.entry? [name] ≠ some (.link target)) :
    t.realPlace [] [name] = [name] := by
  have hlink : t.linkAt? [] name = none := by
    unfold linkAt?
    split
    · rename_i target htarget
      exact absurd htarget (he target)
    · rfl
  unfold realPlace
  rw [follow.eq_def]
  simp only [List.nil_append, hlink]
  rw [if_neg h.kept, if_neg h.down, follow]

end Name

end Tree

section Name

variable {h : Host} {name : String}

/-- A path at the root is looked up from there, whatever the current directory is. -/
theorem find_atRoot_eq (hunslashed : '/' ∉ name.toList) (hsize : name.utf8ByteSize < Tree.maxPath) :
    h.find ("/" ++ name) = (h.tree.walk Tree.maxLinks [] ["", name]).bind fun place =>
      match h.tree.entry? place with
      | some e => .ok (place, e)
      | none => .error .noEntry := by
  have hnonempty : ¬ ("/" ++ name).isEmpty = true := by simp
  have hshort : ¬ ("/" ++ name).utf8ByteSize > Tree.maxPath := by
    have hslash : ("/" : String).utf8ByteSize = 1 := by decide
    rw [String.utf8ByteSize_append, hslash]
    omega
  have hrooted : ("/" ++ name).startsWith "/" = true := by
    rw [String.startsWith_string_iff, String.toList_append]
    exact List.prefix_append _ _
  unfold find
  rw [if_neg hnonempty, if_neg hshort]
  simp only [hrooted, if_true, Tree.segmentsOf_atRoot hunslashed]
  rfl

/-- **A name at the root leads to what stands there.** -/
theorem find_atRoot (hname : Tree.IsName name) {e : Entry} (he : h.tree.entry? [name] = some e)
    (hseen : e.IsSeen) : h.find ("/" ++ name) = .ok ([name], e) := by
  rw [find_atRoot_eq hname.unslashed hname.small, Tree.walk_fromRoot,
    Tree.walk_name hname h.tree.refusalIn_root he hseen]
  simp only [List.nil_append, Except.bind, he]

/-- It leads nowhere if nothing stands there. -/
theorem find_atRoot_of_none (hname : Tree.IsName name) (he : h.tree.entry? [name] = none) :
    h.find ("/" ++ name) = .error .noEntry := by
  rw [find_atRoot_eq hname.unslashed hname.small, Tree.walk_fromRoot,
    Tree.walk_of_none hname h.tree.refusalIn_root he]
  rfl

/-- It is not even looked for if it is too long. -/
theorem find_atRoot_of_long (hunslashed : '/' ∉ name.toList)
    (hlong : Tree.maxName < name.utf8ByteSize) (hsize : name.utf8ByteSize < Tree.maxPath) :
    h.find ("/" ++ name) = .error .nameTooLong := by
  rw [find_atRoot_eq hunslashed hsize, Tree.walk_atRoot_of_long hlong]
  rfl

/-- It is a real path if no link stands there. -/
theorem realPath_atRoot (hname : Tree.IsName name)
    (he : ∀ target, h.tree.entry? [name] ≠ some (.link target)) :
    h.realPath ⟨.root, [name]⟩ = ⟨.root, [name]⟩ := by
  have hplace := Tree.realPlace_atRoot hname he
  exact congrArg (Path.mk .root) hplace

end Name

/-! ### Refusals -/

/-- **The system goes no further than some place of a tree**, for the given reason: it looks nothing
up in the directory there, or does not look at what stands there. -/
def Tree.Refuses (t : Tree) (reason : Errno) : Prop :=
  ∃ place, t.entry? place = some (.closed reason) ∨ t.entry? place = some (.hidden reason)

/-- What a look-up may fail with: it leads nowhere, something is too long, or the system goes no
further. -/
def Tree.MayFail (t : Tree) (reason : Errno) : Prop :=
  reason.leadsNowhere = true ∨ reason = .nameTooLong ∨ t.Refuses reason

section Refusals

variable {t : Tree} {e : Errno}

theorem Tree.walkTo_eq_error {follow : List String → List String → Except Errno (List String)}
    (hfollow : ∀ dir pending, follow dir pending = .error e → t.MayFail e)
    {dir pending : List String} (h : t.walkTo follow dir pending = .error e) : t.MayFail e := by
  induction pending generalizing dir with
  | nil => cases h
  | cons seg rest ih =>
    rw [walkTo] at h
    split at h
    · exact ih h
    · split at h
      · rename_i reason hreason
        cases h
        unfold refusalIn at hreason
        split at hreason
        · rename_i reason' hclosed
          cases hreason
          exact .inr (.inr ⟨dir, .inl hclosed⟩)
        · cases hreason
      · split at h
        · exact ih h
        split at h
        · exact ih h
        split at h
        · cases h
          exact .inr (.inl rfl)
        -- What stands under the segment is left.
        split at h
        · cases h
          exact .inl rfl
        · exact ih h
        · exact ih h
        · exact hfollow _ _ h
        · rename_i reason hhidden
          cases h
          exact .inr (.inr ⟨_, .inr hhidden⟩)
        · split at h
          · cases h
          · cases h
            exact .inl rfl

theorem Tree.walk_eq_error {links : Nat} {dir pending : List String}
    (h : t.walk links dir pending = .error e) : t.MayFail e := by
  induction links generalizing dir pending with
  | zero =>
    refine walkTo_eq_error (fun dir pending hlink => ?_) h
    cases hlink
    exact .inl rfl
  | succ links ih => exact walkTo_eq_error (fun dir pending hlink => ih hlink) h

theorem find_eq_error {h : Host} {path : String} (hfind : h.find path = .error e) :
    h.tree.MayFail e := by
  unfold find at hfind
  split at hfind
  · cases hfind
    exact .inl rfl
  split at hfind
  · cases hfind
    exact .inr (.inl rfl)
  rcases bind_eq_error.mp hfind with hwalk | ⟨place, -, hplace⟩
  · exact Tree.walk_eq_error hwalk
  · split at hplace
    · cases hplace
    · cases hplace
      exact .inl rfl

/-- **A question about a path is refused exactly if the path can be that of a file and the look-up
fails otherwise than by leading nowhere.** The refusal names the path and the reason. -/
theorem test_eq_error {h : Host} {p : Path} {holds : Entry → Bool} {e : Error} :
    h.test p holds = .error e ↔
      '\x00' ∉ p.toString.toList ∧ h.find p.toString = .error e.errno ∧
        e.errno.leadsNowhere = false ∧ e.path = p.toString := by
  obtain ⟨errno, path⟩ := e
  unfold test
  dsimp only
  split
  · rename_i hnul
    exact iff_of_false nofun fun h => h.1 (List.contains_iff_mem.mp hnul)
  · rename_i hnul
    rw [List.contains_iff_mem] at hnul
    rcases h.find p.toString with reason | ⟨place, entry⟩
    · by_cases hnowhere : reason.leadsNowhere = true
      · simp only [hnowhere, if_true, reduceCtorEq, false_iff, not_and]
        rintro - hreason hfurther
        cases hreason
        rw [hnowhere] at hfurther
        cases hfurther
      · simp only [hnowhere, Bool.false_eq_true, if_false, Except.error.injEq, Error.mk.injEq]
        constructor
        · rintro ⟨rfl, rfl⟩
          exact ⟨hnul, rfl, by simpa using hnowhere, rfl⟩
        · rintro ⟨-, rfl, -, rfl⟩
          exact ⟨rfl, rfl⟩
    · simp

/-- **Why a question about a path is refused**: the look-up finds something too long, or the system
goes no further than some place. -/
theorem cause_of_test_eq_error {h : Host} {p : Path} {holds : Entry → Bool} {e : Error}
    (hrefused : h.test p holds = .error e) :
    h.find e.path = .error e.errno ∧ e.errno.leadsNowhere = false ∧
      (e.errno = .nameTooLong ∨ h.tree.Refuses e.errno) := by
  obtain ⟨-, hfind, hfurther, hpath⟩ := test_eq_error.mp hrefused
  refine ⟨hpath ▸ hfind, hfurther, (find_eq_error hfind).resolve_left ?_⟩
  rw [hfurther]
  exact Bool.false_ne_true

end Refusals

end LintBridge.Host
