import LintBridge.Proofs.Linter.Selected
import LintBridge.Proofs.Matching.Spelling

/-!
# Targets that nobody can compare

A target is whatever the linter has printed, and some targets cannot be split into parts. Comparing
one of them with a document does not just find that they differ: it fails, and **the picking of the
groups that belong to the document fails with it**, whatever the other groups hold.

* `LintBridge.Matching.Refused` – the picking comes upon a name that cannot be split: that of the
  document, if there is anything to compare it with, or else the first such target;
* `LintBridge.Matching.select_fails_iff` – when the picking fails and in which way, what it comes to
  otherwise, and what that is to a pass. A path with something to see in its first segment is never
  to blame itself.
-/

namespace LintBridge.Matching

/-! ### One comparison -/

section Names

variable {target document : String} {e : Uri.Error}

/-- Only splitting a name can fail on the way to its comparable form. -/
theorem comparable_eq_error {name : String} :
    comparable name = .error e ↔ Uri.split name = .error e := by
  rw [comparable_eq, ← Uri.pathText_eq_error]
  exact map_eq_error

theorem exists_comparable_iff {name : String} :
    (∃ form, comparable name = .ok form) ↔ Uri.Readable name := by
  rw [← not_iff_not, ← Uri.split_fails_iff]
  simp only [← comparable_eq_error]
  cases comparable name <;> simp

/-- Comparing fails for the document, or else for the target. -/
theorem names_eq_error : names target document = .error e ↔
    Uri.split document = .error e ∨ Uri.Readable document ∧ Uri.split target = .error e := by
  unfold names
  simp only [bind_eq_error, comparable_eq_error, pure_ne_error, and_false, exists_false, or_false,
    exists_and_right, exists_comparable_iff]

theorem exists_names_iff : (∃ found, names target document = .ok found) ↔
    Uri.Readable document ∧ Uri.Readable target := by
  unfold names
  simp only [bind_eq_ok, ← exists_comparable_iff]
  constructor
  · rintro ⟨_, wanted, hwanted, candidate, hcandidate, -⟩
    exact ⟨⟨wanted, hwanted⟩, candidate, hcandidate⟩
  · rintro ⟨⟨wanted, hwanted⟩, candidate, hcandidate⟩
    exact ⟨_, wanted, hwanted, candidate, hcandidate, rfl⟩

end Names

/-! ### All groups -/

section Select

variable {document : String} {groups : List Group} {e : Uri.Error}

/-- **A name that cannot be split, among those that picking the groups of a document comes upon.**
-/
inductive Refused (document : String) (groups : List Group) (e : Uri.Error) : Prop where
  /-- It is that of the document, which there is something to compare with. -/
  | document (some : groups ≠ []) (split : Uri.split document = .error e)
  /-- It is the first such target. -/
  | target {before : List Group} {group : Group} {after : List Group}
    (parts : groups = before ++ group :: after) (readable : Uri.Readable document)
    (earlier : ∀ g ∈ before, Uri.Readable g.target.toString)
    (split : Uri.split group.target.toString = .error e)

/-- Picking comes upon such a name in the first group, or else in the others. -/
theorem refused_cons {group : Group} {rest : List Group} :
    Refused document (group :: rest) e ↔ belongs group.target document = .error e ∨
      (∃ found, belongs group.target document = .ok found) ∧ Refused document rest e := by
  rw [belongs_eq_error, exists_belongs_iff, names_eq_error, exists_names_iff]
  constructor
  · rintro (⟨-, hsplit⟩ | ⟨hparts, hreadable, hearlier, hsplit⟩)
    · exact .inl (.inl hsplit)
    · rcases List.cons_eq_append_iff.mp hparts with ⟨rfl, hparts⟩ | ⟨before, rfl, rfl⟩
      · obtain ⟨rfl, -⟩ := List.cons.inj hparts
        exact .inl (.inr ⟨hreadable, hsplit⟩)
      · obtain ⟨hgroup, hearlier⟩ := List.forall_mem_cons.mp hearlier
        exact .inr ⟨⟨hreadable, hgroup⟩, .target rfl hreadable hearlier hsplit⟩
  · rintro ((hsplit | ⟨hreadable, hsplit⟩) | ⟨⟨hreadable, hgroup⟩, hrest⟩)
    · exact .document (List.cons_ne_nil _ _) hsplit
    · exact .target (List.nil_append _).symm hreadable (List.forall_mem_nil _) hsplit
    · cases hrest with
      | document _ hsplit => exact .document (List.cons_ne_nil _ _) hsplit
      | @target before _ _ hparts _ hearlier hsplit =>
        have hall : ∀ g ∈ group :: before, Uri.Readable g.target.toString :=
          List.forall_mem_cons.mpr ⟨hgroup, hearlier⟩
        exact .target (by rw [hparts, List.cons_append]) hreadable hall hsplit

/-- Picking fails for that name and nothing else. -/
theorem select_eq_error : select document groups = .error e ↔ Refused document groups e := by
  induction groups with
  | nil =>
    constructor
    · rintro ⟨⟩
    · rintro (⟨hsome, -⟩ | ⟨hparts, -⟩)
      · exact absurd rfl hsome
      · cases List.append_eq_nil_iff.mp hparts.symm |>.2
  | cons group rest ih =>
    rw [refused_cons, ← ih, select]
    simp only [bind_eq_error, pure_ne_error, and_false, exists_false, or_false, exists_and_right]

/-- Picking that comes upon no such name loses nothing. -/
theorem select_of_not_refused (h : ∀ e, ¬ Refused document groups e) :
    select document groups = .ok ((groups.filter fun g =>
      (belongs g.target document).toOption == some true).flatMap (·.diagnostics)) := by
  cases hselect : select document groups with
  | ok records => exact congrArg Except.ok (select_eq_ok.mp hselect).2
  | error e => exact absurd (select_eq_error.mp hselect) (h e)

section Pass

variable {s : Settings} {uri : String} {file : Path} {out : ToolOutput}

/-- A pass comes upon something that nobody provides for in the numbers of an output, or else in its
targets. -/
theorem findings_eq_mishap {m : Mishap} :
    (Linter.findings s uri file out).result = .error (.mishap m) ↔ out.IsUsable ∧
      ((∃ k, m = .tooManyDigits k ∧
          Response.Trips { requestedUri := uri, source := s.source } out.stdout k) ∨
        ∃ e groups, m = .badTarget e ∧ (Response.parse Response.Shape.all
            { requestedUri := uri, source := s.source } out.stdout).result = .ok groups ∧
          Refused file.toString groups e) := by
  cases husable : out.usable with
  | error failure =>
    have hnot : ¬ out.IsUsable := fun h => by
      obtain ⟨ending, hending⟩ := h.usable
      cases husable.symm.trans hending
    rw [Linter.findings_of_unusable husable]
    simp [hnot]
  | ok ending =>
    have hout := ToolOutput.isUsable_of_usable husable
    rw [Linter.findings_of_usable hout, and_iff_right hout]
    simp only [bind_eq_error, Traced.mapError, mapError_eq_error, mapError_eq_ok,
      Response.parse_eq_error, select_eq_error, Failure.mishap.injEq]
    constructor
    · rintro (⟨_, hk, rfl⟩ | ⟨groups, hparse, ⟨e, hrefused, rfl⟩ | ⟨_, _, hnone⟩⟩)
      · exact .inl hk
      · exact .inr ⟨e, groups, rfl, hparse, hrefused⟩
      · cases hnone
    · rintro (hk | ⟨e, groups, rfl, hparse, hrefused⟩)
      · exact .inl ⟨_, hk, rfl⟩
      · exact .inr ⟨groups, hparse, .inl ⟨e, hrefused, rfl⟩⟩

/-- A pass fails for such a name exactly when its output can be used and is read, and has groups of
which it is a name. -/
theorem findings_eq_badTarget :
    (Linter.findings s uri file out).result = .error (.mishap (.badTarget e)) ↔
      out.IsUsable ∧ ∃ groups, (Response.parse Response.Shape.all
          { requestedUri := uri, source := s.source } out.stdout).result = .ok groups ∧
        Refused file.toString groups e := by
  simp [findings_eq_mishap]

end Pass

end Select

/-- **Picking the groups of a document fails exactly when it comes upon a name that cannot be
split**, in the way in which that name cannot. Otherwise it comes to the diagnostics of all groups
that name the document, in order. A pass with an output that has such groups collects nothing at
all. The document is not to blame for it if there is something to see in the first segment of its
path: then the name is the first target that cannot be split. -/
theorem select_fails_iff (document : String) (groups : List Group) :
    (∀ e, select document groups = .error e ↔ Refused document groups e) ∧
    ((∀ e, ¬ Refused document groups e) →
      select document groups = .ok ((groups.filter fun g =>
        (belongs g.target document).toOption == some true).flatMap (·.diagnostics))) ∧
    (∀ (s : Settings) (uri : String) (file : Path) (out : ToolOutput),
      file.toString = document → out.IsUsable →
      (Response.parse Response.Shape.all { requestedUri := uri, source := s.source }
        out.stdout).result = .ok groups →
      ∀ e, (Linter.findings s uri file out).result = .error (.mishap (.badTarget e)) ↔
        Refused document groups e) ∧
    ∀ text, document = (Path.ofString text).toString → (Path.ofString text).anchor = .root →
      (∃ segment ∈ (Path.ofString text).segments.head?,
        ∃ c ∈ segment.toList, c ≠ '\t' ∧ c ≠ '\r' ∧ c ≠ '\n') →
      ∀ e, Refused document groups e ↔
        ∃ before group after, groups = before ++ group :: after ∧
          (∀ g ∈ before, Uri.Readable g.target.toString) ∧
            Uri.split group.target.toString = .error e := by
  refine ⟨fun _ => select_eq_error, select_of_not_refused, fun s uri file out hfile hout hparse e =>
    ?_, fun text htext hroot hvisible e => ?_⟩
  · subst hfile
    refine findings_eq_badTarget.trans ⟨?_, fun hrefused => ⟨hout, groups, hparse, hrefused⟩⟩
    rintro ⟨-, groups', hparse', hrefused⟩
    obtain rfl : groups = groups' := Except.ok.inj (hparse.symm.trans hparse')
    exact hrefused
  · subst htext
    have hreadable := readable_of_visible hroot hvisible
    constructor
    · rintro (⟨-, hsplit⟩ | ⟨hparts, -, hearlier, hsplit⟩)
      · exact absurd hreadable (Uri.split_fails_iff.mp ⟨e, hsplit⟩)
      · exact ⟨_, _, _, hparts, hearlier, hsplit⟩
    · rintro ⟨before, group, after, hparts, hearlier, hsplit⟩
      exact .target hparts hreadable hearlier hsplit

/-- Something to say about the first character of a document. -/
def remark (message : String) : Record where
  range := default
  message := .ofString message
  severity := .warning

/-- A target with a bracket that nothing closes costs a document what another group has found in it.
-/
theorem not_select_ok : ¬ ∀ (document : String) (groups : List Group),
    Uri.IsRooted document.toList → ∃ records, select document groups = .ok records := by
  intro h
  have hrefused : select "/project/ok.py" [⟨.ofString "/project/ok.py", [remark "a"]⟩,
      ⟨.ofString "file://[x/ok.py", [remark "b"]⟩] = .error .badBrackets := by decide +kernel
  obtain ⟨records, hrecords⟩ := h "/project/ok.py" [⟨.ofString "/project/ok.py", [remark "a"]⟩,
    ⟨.ofString "file://[x/ok.py", [remark "b"]⟩] ⟨'p', _, rfl, by decide⟩
  cases hrefused.symm.trans hrecords

end LintBridge.Matching
