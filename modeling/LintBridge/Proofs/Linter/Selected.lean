import LintBridge.Proofs.Linter.Collected

/-!
# What a pass leaves out

A pass reads the output of the linter, picks the groups that name its file, drops what is not urgent
enough and cuts the rest off at a number. In which order it does so decides what is lost:
**diagnostics are counted last**, so that none is lost to one that is not shown anyway.

* `LintBridge.Linter.showable` – what there is to show of the groups of an output, without a limit
  to their number. It is said of the groups as a whole, and not by going through them one by one as
  `LintBridge.Matching.select` does, which may fail on the way;
* `LintBridge.Linter.collected_selection` – an output that must be discarded is reported as such,
  and of any other a pass collects the first of what there is to show. Neither what was run nor what
  was written to standard error makes a difference to that.
-/

namespace LintBridge

namespace Matching

/-- **The groups that belong to a document are picked without loss**, provided that each target can
be compared with the document. -/
theorem select_eq_ok {document : String} {groups : List Group} {records : List Record} :
    select document groups = .ok records ↔
      (∀ g ∈ groups, ∃ found, belongs g.target document = .ok found) ∧
        records = (groups.filter fun g =>
          (belongs g.target document).toOption == some true).flatMap (·.diagnostics) := by
  induction groups generalizing records with
  | nil =>
    constructor
    · intro h
      cases h
      exact ⟨by simp, rfl⟩
    · rintro ⟨-, rfl⟩
      rfl
  | cons group rest ih =>
    rw [select]
    simp only [bind_eq_ok, ih]
    constructor
    · rintro ⟨found, hfound, more, ⟨hall, rfl⟩, h⟩
      refine ⟨?_, ?_⟩
      · rintro g hg
        rcases List.mem_cons.mp hg with rfl | hg
        · exact ⟨found, hfound⟩
        · exact hall g hg
      · cases h
        rw [List.filter_cons, hfound]
        cases found <;> rfl
    · rintro ⟨hall, rfl⟩
      obtain ⟨found, hfound⟩ := hall group List.mem_cons_self
      refine ⟨found, hfound, _, ⟨fun g hg => hall g (List.mem_cons_of_mem _ hg), rfl⟩, ?_⟩
      rw [List.filter_cons, hfound]
      cases found <;> rfl

end Matching

/-! ### Outputs that can be used -/

namespace ToolOutput

/-- **An output that can be used**: the linter was started, and says that it has found nothing or
that it has found problems. -/
structure IsUsable (out : ToolOutput) : Prop where
  /-- The linter was started. -/
  started : out.spawnError = none
  /-- It ended with status zero, or with the one for problems. -/
  status : out.exitCode = some 0 ∨ out.exitCode = some 1

section Usable

variable {out : ToolOutput}

theorem usable_of_notStarted {reason : String} (h : out.spawnError = some reason) :
    out.usable = .error (.notStarted out.command reason) := by
  simp [usable, ending, h]

theorem usable_of_fatal (h : out.spawnError = none) (h₀ : out.exitCode ≠ some 0)
    (h₁ : out.exitCode ≠ some 1) :
    out.usable = .error (.fatalExit out.command out.exitCode out.stderr) := by
  have hfatal : out.ending = .fatal := by
    rw [ending, h]
    rcases hcode : out.exitCode with _ | code
    · rfl
    · have hne₀ : code ≠ 0 := fun heq => h₀ (by rw [hcode, heq])
      have hne₁ : code ≠ 1 := fun heq => h₁ (by rw [hcode, heq])
      simp [toleratedCodes, hne₀, hne₁]
  simp only [usable, hfatal, h]

theorem IsUsable.usable (h : out.IsUsable) : ∃ ending, out.usable = .ok ending := by
  rcases h.status with hcode | hcode
  · exact ⟨.success, by simp [ToolOutput.usable, ToolOutput.ending, h.started, hcode]⟩
  · exact ⟨.tolerated, by
      simp [ToolOutput.usable, ToolOutput.ending, h.started, hcode, toleratedCodes]⟩

/-- An output is of one of three kinds. -/
theorem usable_cases (out : ToolOutput) :
    out.IsUsable ∨ (∃ reason, out.spawnError = some reason) ∨
      (out.spawnError = none ∧ out.exitCode ≠ some 0 ∧ out.exitCode ≠ some 1) := by
  rcases hspawn : out.spawnError with _ | reason
  · by_cases h : out.exitCode = some 0 ∨ out.exitCode = some 1
    · exact .inl ⟨hspawn, h⟩
    · exact .inr (.inr ⟨rfl, fun h₀ => h (.inl h₀), fun h₁ => h (.inr h₁)⟩)
  · exact .inr (.inl ⟨reason, rfl⟩)

theorem isUsable_of_usable {ending : Ending} (h : out.usable = .ok ending) : out.IsUsable := by
  rcases out.usable_cases with husable | ⟨reason, hspawn⟩ | ⟨hspawn, h₀, h₁⟩
  · exact husable
  · rw [usable_of_notStarted hspawn] at h
    cases h
  · rw [usable_of_fatal hspawn h₀ h₁] at h
    cases h

theorem usable_eq_notStarted {command : List String} {reason : String} :
    out.usable = .error (.notStarted command reason) ↔
      out.spawnError = some reason ∧ command = out.command := by
  rcases out.usable_cases with husable | ⟨reason', hspawn⟩ | ⟨hspawn, h₀, h₁⟩
  · obtain ⟨ending, hending⟩ := husable.usable
    simp [hending, husable.started]
  · simp [usable_of_notStarted hspawn, hspawn, eq_comm, and_comm]
  · simp [usable_of_fatal hspawn h₀ h₁, hspawn]

theorem usable_eq_fatalExit {command : List String} {status : Option Int} {stderr : String} :
    out.usable = .error (.fatalExit command status stderr) ↔
      out.spawnError = none ∧ out.exitCode ≠ some 0 ∧ out.exitCode ≠ some 1 ∧
        command = out.command ∧ status = out.exitCode ∧ stderr = out.stderr := by
  rcases out.usable_cases with husable | ⟨reason', hspawn⟩ | ⟨hspawn, h₀, h₁⟩
  · obtain ⟨ending, hending⟩ := husable.usable
    rcases husable.status with hcode | hcode <;> simp [hending, hcode]
  · simp [usable_of_notStarted hspawn, hspawn]
  · simp [usable_of_fatal hspawn h₀ h₁, hspawn, h₀, h₁, eq_comm]

end Usable

end ToolOutput

/-! ### A pass over an output -/

namespace Linter

/-- What there is to show of the groups of an output: the diagnostics of those that name the file,
as far as they are urgent enough. -/
def showable (s : Settings) (file : Path) (groups : List Group) : List Record :=
  let named := groups.filter fun g =>
    (Matching.belongs g.target file.toString).toOption == some true
  (named.flatMap (·.diagnostics)).filter (·.severity.isAtLeast s.minimumSeverity)

section Findings

variable {s : Settings} {uri : String} {file : Path} {out : ToolOutput}

/-- The limit of the settings takes the first of what is urgent enough. -/
theorem limit_eq (records : List Record) :
    limit s records =
      (records.filter (·.severity.isAtLeast s.minimumSeverity)).take
        (s.maxProblems.getD
          (records.filter (·.severity.isAtLeast s.minimumSeverity)).length) := by
  rcases h : s.maxProblems with _ | n
  · simp [limit, h]
  · simp [limit, h]

/-- An output that must be discarded is not read. -/
theorem findings_of_unusable {e : LinterFailure} (h : out.usable = .error e) :
    (findings s uri file out).result = .error (.linter e) := by
  simp only [findings, Traced.result_bind, Traced.result_of, h]
  rfl

/-- An output that can be used is read, and nothing is read but what was written to standard output.
-/
theorem findings_of_usable (h : out.IsUsable) :
    (findings s uri file out).result = do
      let groups ← ((Response.parse Response.Shape.all { requestedUri := uri, source := s.source }
        out.stdout).mapError Failure.mishap).result
      let records ← (Matching.select file.toString groups).mapError fun e => .mishap (.badTarget e)
      return limit s records := by
  obtain ⟨ending, hending⟩ := h.usable
  have hreport : (reportStderr s out).result = .ok () := by
    rw [reportStderr]
    split <;> rfl
  simp only [findings, Traced.result_bind, Traced.result_of, Traced.result_pure, hending, hreport]
  rfl

/-- **A pass that comes to an end has picked the first of what there is to show.** -/
theorem findings_eq_ok_iff (h : out.IsUsable) {records : List Record} :
    (findings s uri file out).result = .ok records ↔
      ∃ groups, (Response.parse Response.Shape.all { requestedUri := uri, source := s.source }
          out.stdout).result = .ok groups ∧
        (∀ g ∈ groups, ∃ found, Matching.belongs g.target file.toString = .ok found) ∧
        records = (showable s file groups).take
          (s.maxProblems.getD (showable s file groups).length) := by
  simp only [findings_of_usable h, bind_eq_ok, Traced.mapError, mapError_eq_ok,
    Matching.select_eq_ok]
  constructor
  · rintro ⟨groups, hgroups, _, ⟨hnames, rfl⟩, hlimit⟩
    cases hlimit
    exact ⟨groups, hgroups, hnames, limit_eq _⟩
  · rintro ⟨groups, hgroups, hnames, rfl⟩
    exact ⟨groups, hgroups, _, ⟨hnames, rfl⟩, congrArg Except.ok (limit_eq _)⟩

/-- A failure of the linter is one that its output is discarded for. -/
theorem findings_eq_linter_iff {e : LinterFailure} :
    (findings s uri file out).result = .error (.linter e) ↔ out.usable = .error e := by
  rcases hout : out.usable with e' | ending
  · rw [findings_of_unusable hout]
    simp
  · have husable : out.IsUsable := ToolOutput.isUsable_of_usable hout
    -- Neither reading the output nor comparing its targets blames the linter.
    simp [findings_of_usable husable, bind_eq_error, Traced.mapError, mapError_eq_error,
      map_eq_error]

/-- A pass comes to an end only with an output that can be used. -/
theorem isUsable_of_findings {records : List Record}
    (h : (findings s uri file out).result = .ok records) : out.IsUsable := by
  rcases hout : out.usable with e | ending
  · rw [findings_of_unusable hout] at h
    cases h
  · exact ToolOutput.isUsable_of_usable hout

end Findings

/-- A pass in which the linter can be called and answers is the reading of its output. -/
theorem collect_eq_findings {host : Host} {run : Call → Except Mishap ToolOutput} {s : Settings}
    {workspace : Option Path} {uri : String} {file : Path} {call : Call} {out : ToolOutput}
    (hcall : callFor host s workspace file = .ok call) (hout : run call = .ok out) :
    (collect host run s workspace uri file).result = (findings s uri file out).result := by
  simp only [collect, Traced.result_bind, Traced.result_of, hcall]
  change ((run call).mapError Failure.mishap >>= fun out => (findings s uri file out).result) = _
  rw [hout]
  rfl

/-- **A pass shows the first of what there is to show.** Let the linter be called and answer. Then

* the pass reports that the linter could not be started exactly if the output says so, whatever else
  it says, and that the linter has failed exactly if it was started and ended with no status or with
  one other than zero and one;
* of any other output it collects, once the output has been read and the target of each group in it
  compared with the file, the diagnostics of the groups that name the file, in order, without those
  that are not urgent enough: all of them if there is no limit to their number or not more of them,
  and else the first of them up to the limit. It fails only if the reading or a comparison does;
* of two outputs that can be used it comes to the same if they have the same standard output. -/
theorem collected_selection {host : Host} {run : Call → Except Mishap ToolOutput} {s : Settings}
    {workspace : Option Path} {uri : String} {file : Path} {call : Call} {out : ToolOutput}
    (hcall : callFor host s workspace file = .ok call) (hout : run call = .ok out) :
    (∀ command reason,
      (collect host run s workspace uri file).result =
          .error (.linter (.notStarted command reason)) ↔
        out.spawnError = some reason ∧ command = out.command) ∧
    (∀ command status stderr,
      (collect host run s workspace uri file).result =
          .error (.linter (.fatalExit command status stderr)) ↔
        out.spawnError = none ∧ out.exitCode ≠ some 0 ∧ out.exitCode ≠ some 1 ∧
          command = out.command ∧ status = out.exitCode ∧ stderr = out.stderr) ∧
    (∀ records, (collect host run s workspace uri file).result = .ok records ↔
      out.IsUsable ∧
        ∃ groups, (Response.parse Response.Shape.all { requestedUri := uri, source := s.source }
            out.stdout).result = .ok groups ∧
          (∀ g ∈ groups, ∃ found, Matching.belongs g.target file.toString = .ok found) ∧
          records = (showable s file groups).take
            (s.maxProblems.getD (showable s file groups).length)) ∧
    ∀ run' out', run' call = .ok out' → out.IsUsable → out'.IsUsable → out'.stdout = out.stdout →
      (collect host run' s workspace uri file).result =
        (collect host run s workspace uri file).result := by
  simp only [collect_eq_findings hcall hout]
  refine ⟨fun command reason => ?_, fun command status stderr => ?_, fun records => ?_, ?_⟩
  · rw [findings_eq_linter_iff, ToolOutput.usable_eq_notStarted]
  · rw [findings_eq_linter_iff, ToolOutput.usable_eq_fatalExit]
  · constructor
    · intro h
      have husable : out.IsUsable := isUsable_of_findings h
      exact ⟨husable, (findings_eq_ok_iff husable).mp h⟩
    · rintro ⟨husable, h⟩
      exact (findings_eq_ok_iff husable).mpr h
  · intro run' out' hout' husable husable' hstdout
    rw [collect_eq_findings hcall hout', findings_of_usable husable, findings_of_usable husable',
      hstdout]

/-! ### More than is wanted -/

/-- The linter finds a hint and two other things. -/
def threeFindings : ToolOutput where
  stdout := "\x7b\"errors\":[\x7b\"message\":\"h\",\"severity\":4\x7d," ++
    "\x7b\"message\":\"m\"\x7d,\x7b\"message\":\"n\"\x7d]\x7d"
  exitCode := some 1

/-- What is found first among what is urgent enough. -/
def firstShown : Record where
  range := default
  message := .ofString "m"
  severity := .warning
  source := .ofString "lint"

/-- How the linter is called. -/
def strictCall : Call where
  args := ["chalk", "lint", "--format=lsp", "/app.py"].map .ofString
  directory := ⟨.root, []⟩
  timeout := strict.timeoutSeconds

/-- Of the two others one is shown, and the hint does not count. What was written to standard error
makes no difference, and neither does the status. -/
theorem collected_selection_capped :
    callFor {} strict none (Path.ofString "/app.py") = .ok strictCall ∧
      (collect {} (fun _ => .ok threeFindings) strict none "file:///app.py"
        (Path.ofString "/app.py")).result = .ok [firstShown] ∧
      (collect {} (fun _ => .ok { threeFindings with exitCode := some 0, stderr := "noise" })
        strict none "file:///app.py" (Path.ofString "/app.py")).result = .ok [firstShown] := by
  have hcall : callFor {} strict none (Path.ofString "/app.py") = .ok strictCall :=
    eq_ok_of_toOption (by decide +kernel)
  have hcollect : (collect {} (fun _ => .ok threeFindings) strict none "file:///app.py"
      (Path.ofString "/app.py")).result = .ok [firstShown] := eq_ok_of_toOption (by decide +kernel)
  obtain ⟨-, -, -, hsame⟩ :=
    @collected_selection {} (fun _ => .ok threeFindings) strict none "file:///app.py" _ _ _ hcall
      rfl
  refine ⟨hcall, hcollect, ?_⟩
  exact (hsame (fun _ => .ok { threeFindings with exitCode := some 0, stderr := "noise" }) _ rfl
    ⟨rfl, .inr rfl⟩ ⟨rfl, .inl rfl⟩ rfl).trans hcollect

end Linter

end LintBridge
