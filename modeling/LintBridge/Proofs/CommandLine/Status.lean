import LintBridge.Proofs.Matching.Refused
import LintBridge.Proofs.Report.Json
import LintBridge.Proofs.Settings.Callers

/-!
# What the exit status tells

A file that is linted has one of three ends. The linter is not to be had: the settings are refused,
or it could not be run. Diagnostics are found, be they none. Or the command **breaks off**: it comes
upon something that nobody provides for, and then it ends as it does when errors are found.

* `LintBridge.CommandLine.Declines`, `LintBridge.CommandLine.Finds`,
  `LintBridge.CommandLine.Breaks` – the three ends, each told from the files, the options and the
  output of the linter;
* `LintBridge.CommandLine.lint_cases` – there are no others;
* `LintBridge.CommandLine.status_tells` – which status stands for which, and what is printed.
-/

namespace LintBridge

open Json (CodePoints)
open Settings (Unforeseen)

/-! ### The three ends -/

namespace CommandLine

variable {h : Host} {out : Linter.Call → ToolOutput} {draw : Report.Table → Option String}
  {o : LintOptions}

/-- There are a root of the workspace, and settings. -/
structure Configured (h : Host) (o : LintOptions) (root : Path) (settings : Settings) : Prop where
  /-- The root of the workspace. -/
  rooted : rootFor h o = .ok root
  /-- The settings, with those that the options ask for. -/
  loaded : Settings.load h (some root) (overrides o) = .ok settings

/-- **The linter is called**: besides, the file has a URI, and there is a directory to start in. -/
structure Calls (h : Host) (o : LintOptions) (root : Path) (settings : Settings) (uri : String)
    (call : Linter.Call) : Prop extends Configured h o root settings where
  /-- The URI of the file. -/
  named : Uri.ofPathText o.file.toString = .ok uri
  /-- The call, with the directory. -/
  placed : Linter.callFor h settings (some root) o.file = .ok call

/-- **The linter is not to be had.** -/
inductive Declines (h : Host) (out : Linter.Call → ToolOutput) (o : LintOptions) : Prop where
  /-- The settings are refused. -/
  | settings {root : Path} {refusal : Settings.Error} (rooted : rootFor h o = .ok root)
    (refused : Settings.load h (some root) (overrides o) = .error (.settings refusal))
  /-- The linter could not be run, or has failed. -/
  | linter {root : Path} {settings : Settings} {uri : String} {call : Linter.Call}
    (calls : Calls h o root settings uri call) (unusable : ¬ (out call).IsUsable)

/-- **Diagnostics are found**, be they none. -/
inductive Finds (h : Host) (out : Linter.Call → ToolOutput) (o : LintOptions)
    (records : List Record) : Prop where
  /-- They are what a pass makes of the output. -/
  | pass {root : Path} {settings : Settings} {uri : String} {call : Linter.Call}
    (calls : Calls h o root settings uri call)
    (found : (Linter.findings settings uri o.file (out call)).result = .ok records)

/-- **The command breaks off.** -/
inductive Breaks (h : Host) (out : Linter.Call → ToolOutput) (draw : Report.Table → Option String)
    (o : LintOptions) : Crash → Prop where
  /-- The root of the workspace cannot be had. -/
  | root {crash : Crash} (failed : rootFor h o = .error crash) : Breaks h out draw o crash
  /-- The loading of the settings ends as nobody provides for. -/
  | settings {root : Path} {e : Settings.LoadError} (rooted : rootFor h o = .ok root)
    (unforeseen : Unforeseen h root e) : Breaks h out draw o (.load e)
  /-- The file has no URI. -/
  | name {root : Path} {settings : Settings} {e : Uri.Error}
    (configured : Configured h o root settings)
    (failed : Uri.ofPathText o.file.toString = .error e) :
    Breaks h out draw o (.mishap (.badTarget e))
  /-- The directory to start in cannot be found. -/
  | directory {root : Path} {settings : Settings} {uri : String} {e : Host.Error}
    (configured : Configured h o root settings) (named : Uri.ofPathText o.file.toString = .ok uri)
    (failed : Linter.callFor h settings (some root) o.file = .error e) :
    Breaks h out draw o (.mishap (.system e))
  /-- The output has an integer with too many digits. -/
  | number {root : Path} {settings : Settings} {uri : String} {call : Linter.Call} {k : Nat}
    (calls : Calls h o root settings uri call) (usable : (out call).IsUsable)
    (trips :
      Response.Trips { requestedUri := uri, source := settings.source } (out call).stdout k) :
    Breaks h out draw o (.mishap (.tooManyDigits k))
  /-- The output has a target that nothing can be compared with. -/
  | target {root : Path} {settings : Settings} {uri : String} {call : Linter.Call} {e : Uri.Error}
    {groups : List Group} (calls : Calls h o root settings uri call) (usable : (out call).IsUsable)
    (parsed : (Response.parse Response.Shape.all
      { requestedUri := uri, source := settings.source } (out call).stdout).result = .ok groups)
    (refused : Matching.Refused o.file.toString groups e) :
    Breaks h out draw o (.mishap (.badTarget e))
  /-- The place of a diagnostic cannot be written in a table. -/
  | place {records : List Record} (finds : Finds h out o records) (table : o.asJson = false)
    (far : ∃ r ∈ records, isWritable r = false) : Breaks h out draw o .unwritable
  /-- The table cannot be drawn. -/
  | drawing {records : List Record} {reason : String} (finds : Finds h out o records)
    (table : o.asJson = false) (nonempty : records ≠ [])
    (near : ∀ r ∈ records, isWritable r = true)
    (refused : draw (Report.table o.file.toString records) = some reason) :
    Breaks h out draw o (.undrawn reason)

/-! ### What can be seen of an end -/

/-- What can be seen of how a command ends. -/
def Result.ending (r : Result) : Nat × List Printed × Option Crash :=
  (r.status, r.printed, r.crash)

theorem Result.ending_eq_iff {r r' : Result} : r.ending = r'.ending ↔
    r.status = r'.status ∧ r.printed = r'.printed ∧ r.crash = r'.crash := by
  simp [ending]

theorem lint_of_configured {linter : Linter.Call → Except Mishap ToolOutput} {root : Path}
    {settings : Settings} (hconfigured : Configured h o root settings) :
    lint h linter draw o = lintWith h linter draw o root settings := by
  unfold lint
  rw [hconfigured.rooted]
  dsimp only
  rw [hconfigured.loaded]

/-- Once the linter is called, the end depends on what a pass makes of the output. -/
theorem ending_lint_of_calls {root : Path} {settings : Settings} {uri : String} {call : Linter.Call}
    (hcalls : Calls h o root settings uri call) :
    (lint h (fun c => .ok (out c)) draw o).ending =
      match (Linter.findings settings uri o.file (out call)).result with
      | .ok records => (reporting draw o records).ending
      | .error (.linter e) => (failing o e.message).ending
      | .error (.mishap m) => (crashed (.mishap m)).ending := by
  have hcollect := @Linter.collect_eq_findings h (fun c => .ok (out c)) settings (some root) uri
    o.file call (out call) hcalls.placed rfl
  rw [lint_of_configured hcalls.toConfigured]
  unfold lintWith
  rw [hcalls.named]
  dsimp only
  rw [hcollect]
  cases (Linter.findings settings uri o.file (out call)).result with
  | ok records => rfl
  | error failure => cases failure <;> rfl

theorem ending_lint_of_unnamed {root : Path} {settings : Settings} {e : Uri.Error}
    (hconfigured : Configured h o root settings)
    (hfailed : Uri.ofPathText o.file.toString = .error e) :
    (lint h (fun c => .ok (out c)) draw o).ending = (crashed (.mishap (.badTarget e))).ending := by
  rw [lint_of_configured hconfigured]
  unfold lintWith
  rw [hfailed]

theorem ending_lint_of_unplaced {root : Path} {settings : Settings} {uri : String} {e : Host.Error}
    (hconfigured : Configured h o root settings)
    (hnamed : Uri.ofPathText o.file.toString = .ok uri)
    (hfailed : Linter.callFor h settings (some root) o.file = .error e) :
    (lint h (fun c => .ok (out c)) draw o).ending = (crashed (.mishap (.system e))).ending := by
  have hcollect : (Linter.collect h (fun c => .ok (out c)) settings (some root) uri o.file).result =
      .error (.mishap (.system e)) := by
    simp only [Linter.collect, Traced.result_bind, Traced.result_of, hfailed]
    rfl
  rw [lint_of_configured hconfigured]
  unfold lintWith
  rw [hnamed]
  dsimp only
  rw [hcollect]
  rfl

/-- A table cannot be had if a place cannot be written in it, or else if it cannot be drawn. -/
theorem tableFor_eq_error {file : Path} {records : List Record} {crash : Crash} :
    tableFor draw file records = .error crash ↔
      (crash = .unwritable ∧ ∃ r ∈ records, isWritable r = false) ∨
        ∃ reason, crash = .undrawn reason ∧ records ≠ [] ∧ (∀ r ∈ records, isWritable r = true) ∧
          draw (Report.table file.toString records) = some reason := by
  unfold tableFor
  by_cases hempty : records = []
  · simp [hempty]
  by_cases hnear : ∀ r ∈ records, isWritable r = true
  · have hall : records.all isWritable = true := List.all_eq_true.mpr hnear
    have hnone : ¬ ∃ r ∈ records, isWritable r = false := fun ⟨r, hr, hfar⟩ => by
      rw [hnear r hr] at hfar
      cases hfar
    cases hdraw : draw (Report.table file.toString records) with
    | none => simp [hempty, hall, hnone, hdraw]
    | some reason =>
      simp only [List.isEmpty_iff, hempty, if_false, hall, hdraw, hnone, and_false, false_or]
      exact ⟨fun h => ⟨reason, (Except.error.inj h).symm, hempty, hnear, rfl⟩,
        fun ⟨_, hcrash, _, _, hreason⟩ => by rw [hcrash, Option.some.inj hreason]; rfl⟩
  · have hall : records.all isWritable = false :=
      Bool.eq_false_iff.mpr fun hall => hnear (List.all_eq_true.mp hall)
    have hfar : ∃ r ∈ records, isWritable r = false := by simpa using hnear
    simp [hempty, hall, hfar, hnear, @eq_comm _ _ crash]

/-- A report cannot be printed if it has a table that cannot be had. -/
theorem printedFor_eq_error {records : List Record} {crash : Crash} :
    printedFor draw o records = .error crash ↔
      o.asJson = false ∧ tableFor draw o.file records = .error crash := by
  unfold printedFor
  cases o.asJson with
  | true => simp
  | false => exact map_eq_error.trans (and_iff_right rfl).symm

theorem Finds.ending {records : List Record} (hfinds : Finds h out o records) :
    (lint h (fun c => .ok (out c)) draw o).ending = (reporting draw o records).ending := by
  obtain ⟨hcalls, hfound⟩ := hfinds
  rw [ending_lint_of_calls hcalls, hfound]

theorem Declines.ending (hdeclines : Declines h out o) :
    ∃ text, (lint h (fun c => .ok (out c)) draw o).ending = (failing o text).ending := by
  cases hdeclines with
  | settings rooted refused => exact ⟨_, congrArg Result.ending (lint_of_refused rooted refused)⟩
  | @linter root settings uri call calls unusable =>
    cases husable : (out call).usable with
    | error failure =>
      exact ⟨_, by rw [ending_lint_of_calls calls, Linter.findings_of_unusable husable]⟩
    | ok ending => exact absurd (ToolOutput.isUsable_of_usable husable) unusable

theorem Breaks.ending {crash : Crash} (hbreaks : Breaks h out draw o crash) :
    (lint h (fun c => .ok (out c)) draw o).ending = (crashed crash).ending := by
  -- A table that cannot be had is one of what was found.
  have hprinted : ∀ {records : List Record}, Finds h out o records →
      tableFor draw o.file records = .error crash → o.asJson = false →
      (lint h (fun c => .ok (out c)) draw o).ending = (crashed crash).ending := by
    intro records hfinds hfailed htable
    rw [hfinds.ending, reporting, printedFor_eq_error.mpr ⟨htable, hfailed⟩]
  cases hbreaks with
  | root failed =>
    unfold lint
    rw [failed]
  | settings rooted unforeseen =>
    exact congrArg Result.ending (lint_of_breaks rooted (breaks_iff_unforeseen.mpr unforeseen))
  | name configured failed => exact ending_lint_of_unnamed configured failed
  | directory configured named failed => exact ending_lint_of_unplaced configured named failed
  | number calls usable trips =>
    rw [ending_lint_of_calls calls, Matching.findings_eq_mishap.mpr ⟨usable, .inl ⟨_, rfl, trips⟩⟩]
  | target calls usable parsed refused =>
    rw [ending_lint_of_calls calls,
      Matching.findings_eq_mishap.mpr ⟨usable, .inr ⟨_, _, rfl, parsed, refused⟩⟩]
  | place finds table far =>
    exact hprinted finds (tableFor_eq_error.mpr (.inl ⟨rfl, far⟩)) table
  | drawing finds table nonempty near refused =>
    exact hprinted finds (tableFor_eq_error.mpr (.inr ⟨_, rfl, nonempty, near, refused⟩)) table

/-- **A file that is linted has one of the three ends.** -/
theorem lint_cases (h : Host) (out : Linter.Call → ToolOutput) (draw : Report.Table → Option String)
    (o : LintOptions) : (∃ crash, Breaks h out draw o crash) ∨ Declines h out o ∨
      ∃ records printed, Finds h out o records ∧ printedFor draw o records = .ok printed := by
  cases hroot : rootFor h o with
  | error crash => exact .inl ⟨crash, .root hroot⟩
  | ok root =>
  cases hload : Settings.load h (some root) (overrides o) with
  | error e =>
    rcases Settings.foreseen_or_breaks_of_load hload with ⟨refusal, rfl⟩ | hbreaks
    · exact .inr (.inl (.settings hroot hload))
    · exact .inl ⟨_, .settings hroot (breaks_iff_unforeseen.mp hbreaks)⟩
  | ok settings =>
  have hconfigured : Configured h o root settings := ⟨hroot, hload⟩
  cases hname : Uri.ofPathText o.file.toString with
  | error e => exact .inl ⟨_, .name hconfigured hname⟩
  | ok uri =>
  cases hcall : Linter.callFor h settings (some root) o.file with
  | error e => exact .inl ⟨_, .directory hconfigured hname hcall⟩
  | ok call =>
  have hcalls : Calls h o root settings uri call := ⟨hconfigured, hname, hcall⟩
  by_cases husable : (out call).IsUsable
  · cases hfound : (Linter.findings settings uri o.file (out call)).result with
    | error failure =>
      cases failure with
      | linter e =>
        obtain ⟨ending, hending⟩ := husable.usable
        cases (Linter.findings_eq_linter_iff.mp hfound).symm.trans hending
      | mishap m =>
        obtain ⟨-, ⟨k, rfl, htrips⟩ | ⟨e, groups, rfl, hparsed, hrefused⟩⟩ :=
          Matching.findings_eq_mishap.mp hfound
        · exact .inl ⟨_, .number hcalls husable htrips⟩
        · exact .inl ⟨_, .target hcalls husable hparsed hrefused⟩
    | ok records =>
      have hfinds : Finds h out o records := .pass hcalls hfound
      cases hprinted : printedFor draw o records with
      | ok printed => exact .inr (.inr ⟨records, printed, hfinds, hprinted⟩)
      | error crash =>
        obtain ⟨htable, hfailed⟩ := printedFor_eq_error.mp hprinted
        obtain ⟨rfl, hfar⟩ | ⟨reason, rfl, hnonempty, hnear, hrefused⟩ :=
          tableFor_eq_error.mp hfailed
        · exact .inl ⟨_, .place hfinds htable hfar⟩
        · exact .inl ⟨_, .drawing hfinds htable hnonempty hnear hrefused⟩
  · exact .inr (.inl (.linter hcalls husable))

/-! ### The exit status -/

section Status

variable {records : List Record} {args : List String}

theorem hasErrors_iff : hasErrors records = true ↔ ∃ r ∈ records, r.severity = .error := by
  simp [hasErrors]

theorem hasErrors_eq_false_iff :
    hasErrors records = false ↔ ∀ r ∈ records, r.severity ≠ .error := by
  simp [hasErrors]

variable {r : Result} (hr : r.ending = (lint h (fun c => .ok (out c)) draw o).ending)

include hr

theorem Breaks.seen {crash : Crash} (hbreaks : Breaks h out draw o crash) :
    r.status = errorsFound ∧ r.printed = [] ∧ r.crash = some crash :=
  Result.ending_eq_iff.mp (hr.trans hbreaks.ending)

theorem Declines.seen (hdeclines : Declines h out o) :
    r.status = unavailable ∧ r.crash = none := by
  obtain ⟨text, htext⟩ := @Declines.ending h out draw o hdeclines
  obtain ⟨hstatus, -, hcrash⟩ := Result.ending_eq_iff.mp (hr.trans htext)
  exact ⟨hstatus, hcrash⟩

theorem Finds.seen (hfinds : Finds h out o records) {printed : List Printed}
    (hprinted : printedFor draw o records = .ok printed) :
    r.status = (if hasErrors records then errorsFound else 0) ∧ r.printed = printed ∧
      r.crash = none := by
  have hending := hr.trans hfinds.ending
  rw [reporting, hprinted] at hending
  exact Result.ending_eq_iff.mp hending

/-- What is found can be printed unless the command breaks off. -/
theorem Finds.exists_printedFor (hfinds : Finds h out o records) (hcrash : r.crash = none) :
    ∃ printed, printedFor draw o records = .ok printed := by
  have hending := hr.trans hfinds.ending
  cases hprinted : printedFor draw o records with
  | ok printed => exact ⟨printed, rfl⟩
  | error crash =>
    rw [reporting, hprinted] at hending
    cases hcrash.symm.trans (Result.ending_eq_iff.mp hending).2.2

theorem crash_eq_some_iff {crash : Crash} : r.crash = some crash ↔ Breaks h out draw o crash := by
  refine ⟨fun hcrash => ?_, fun hbreaks => (hbreaks.seen hr).2.2⟩
  rcases lint_cases h out draw o with ⟨crash', hbreaks⟩ | hdeclines | ⟨records, _, hfinds, hprinted⟩
  · obtain rfl : crash' = crash := Option.some.inj ((hbreaks.seen hr).2.2.symm.trans hcrash)
    exact hbreaks
  · cases hcrash.symm.trans (hdeclines.seen hr).2
  · cases hcrash.symm.trans (hfinds.seen hr hprinted).2.2

theorem status_eq_unavailable_iff : r.status = unavailable ↔ Declines h out o := by
  refine ⟨fun hstatus => ?_, fun hdeclines => (hdeclines.seen hr).1⟩
  rcases lint_cases h out draw o with ⟨crash, hbreaks⟩ | hdeclines | ⟨records, _, hfinds, hprinted⟩
  · cases hstatus.symm.trans (hbreaks.seen hr).1
  · exact hdeclines
  · rw [(hfinds.seen hr hprinted).1] at hstatus
    split at hstatus <;> cases hstatus

theorem status_mem : r.status ∈ [0, errorsFound, unavailable] := by
  rcases lint_cases h out draw o with ⟨crash, hbreaks⟩ | hdeclines | ⟨records, _, hfinds, hprinted⟩
  · simp [(hbreaks.seen hr).1]
  · simp [(hdeclines.seen hr).1]
  · rw [(hfinds.seen hr hprinted).1]
    split <;> simp

/-- Unless the command breaks off, its status tells whether errors were found. -/
theorem status_eq_iff (hcrash : r.crash = none) (errors : Bool) :
    r.status = (if errors then errorsFound else 0) ↔
      ∃ records, Finds h out o records ∧ hasErrors records = errors := by
  constructor
  · intro hstatus
    rcases lint_cases h out draw o with
      ⟨crash, hbreaks⟩ | hdeclines | ⟨records, _, hfinds, hprinted⟩
    · cases hcrash.symm.trans (hbreaks.seen hr).2.2
    · rw [(hdeclines.seen hr).1] at hstatus
      cases errors <;> cases hstatus
    · have hstatuses : ∀ a b : Bool,
          (if a then errorsFound else 0) = (if b then errorsFound else 0) → a = b := by decide
      exact ⟨records, hfinds, hstatuses _ _ ((hfinds.seen hr hprinted).1.symm.trans hstatus)⟩
  · rintro ⟨records, hfinds, rfl⟩
    obtain ⟨printed, hprinted⟩ := hfinds.exists_printedFor hr hcrash
    exact (hfinds.seen hr hprinted).1

/-- JSON can always be printed, and read. -/
theorem Finds.json (hjson : o.asJson = true) (hfinds : Finds h out o records) :
    r.crash = none ∧
    (∀ inColour, String.join (r.printed.map (·.toStdout inColour)) = Report.json records ++ "\n") ∧
      Json.read (Report.json records) = .ok (Report.toJson records).joined := by
  have hprinted : printedFor draw o records = .ok [.json (Report.json records)] := by
    rw [printedFor, if_pos hjson]
  obtain ⟨-, hseen, hcrash⟩ := hfinds.seen hr hprinted
  obtain ⟨-, hfound⟩ := hfinds
  refine ⟨hcrash, fun inColour => ?_, Report.read_json (Linter.isShort_of_findings hfound)⟩
  rw [hseen]
  simp [Printed.toStdout, String.join]

omit hr

/-- A command line that says to lint a file comes to the end that linting it does. -/
theorem ending_run (hread : read h args = .ok (.lint o)) :
    (run h (fun c => .ok (out c)) args draw).ending =
      (lint h (fun c => .ok (out c)) draw o).ending := by
  unfold run
  rw [hread]
  rfl

/-- **The exit status tells how a command that lints a file ends, unless it breaks off.** Then the
status says that there are errors, whatever there is, and nothing is printed; and it breaks off
exactly if it comes upon one of the things that nobody provides for. It never says that the linter
could not be run unless that is so, or the settings are refused. Otherwise it tells whether errors
were found, and if JSON is asked for, the output is the array of what was found. -/
theorem status_tells (hread : read h args = .ok (.lint o)) (draw : Report.Table → Option String) :
    let r := run h (fun c => .ok (out c)) args draw
    r.status ∈ [0, errorsFound, unavailable] ∧
    (∀ crash, r.crash = some crash ↔ Breaks h out draw o crash) ∧
    (r.crash ≠ none → r.status = errorsFound ∧ r.printed = []) ∧
    (r.status = unavailable ↔ Declines h out o) ∧
    (r.crash = none →
      (r.status = errorsFound ↔
        ∃ records, Finds h out o records ∧ ∃ d ∈ records, d.severity = .error) ∧
      (r.status = 0 ↔
        ∃ records, Finds h out o records ∧ ∀ d ∈ records, d.severity ≠ .error)) ∧
    (o.asJson = true → ∀ records, Finds h out o records → r.crash = none ∧
      (∀ inColour, String.join (r.printed.map (·.toStdout inColour)) =
        Report.json records ++ "\n") ∧
      Json.read (Report.json records) = .ok (Report.toJson records).joined) := by
  intro r
  have hr : r.ending = (lint h (fun c => .ok (out c)) draw o).ending := ending_run hread
  refine ⟨?_, fun crash => crash_eq_some_iff hr, fun hcrash => ?_, status_eq_unavailable_iff hr,
    fun hcrash => ⟨?_, ?_⟩, fun hjson records hfinds => hfinds.json hr hjson⟩
  · exact status_mem hr
  · obtain ⟨crash, hcrash⟩ := Option.ne_none_iff_exists'.mp hcrash
    obtain ⟨hstatus, hprinted, -⟩ := ((crash_eq_some_iff hr).mp hcrash).seen hr
    exact ⟨hstatus, hprinted⟩
  · simp only [← hasErrors_iff]
    exact status_eq_iff hr hcrash true
  · simp only [← hasErrors_eq_false_iff]
    exact status_eq_iff hr hcrash false

end Status

/-! ### A file at the root -/

section Shop

/-- A host with a single file. -/
def shop : Host where
  tree := { entries := [(["app.py"], .file [] false)] }

/-- What linting it asks for. -/
def shopOptions : LintOptions where
  file := ⟨.root, ["app.py"]⟩
  asJson := true

/-- An output that reports an error. -/
def failed : ToolOutput where
  stdout := "\x7b\"errors\":[\x7b\"message\":\"m\",\"severity\":1\x7d]\x7d"
  exitCode := some 1

theorem isName_app : Host.Tree.IsName "app.py" := by
  decide +kernel

theorem find_app {h : Host} {octets : List UInt8}
    (hfile : h.tree.entry? ["app.py"] = some (.file octets false)) :
    h.find (Path.mk .root ["app.py"]).toString = .ok (["app.py"], .file octets false) :=
  Host.find_atRoot isName_app hfile ⟨nofun, nofun⟩

theorem read_shop {h : Host} {octets : List UInt8}
    (hfile : h.tree.entry? ["app.py"] = some (.file octets false)) :
    read h ["lint", "/app.py", "--json"] = .ok (.lint shopOptions) := by
  have hpath : Path.ofString "/app.py" = ⟨.root, ["app.py"]⟩ := by decide +kernel
  have hcommand : readArguments [helpOption] false ["lint", "/app.py", "--json"] =
      .ok { positional := ["lint", "/app.py", "--json"] } := eq_ok_of_toOption (by decide +kernel)
  have hoptions : readArguments lintSpecs true ["/app.py", "--json"] =
      .ok { options := [("json", .flag true)], positional := ["/app.py"] } :=
    eq_ok_of_toOption (by decide +kernel)
  have hexisting : existingFile h "/app.py" = .ok ⟨.root, ["app.py"]⟩ := by
    unfold existingFile
    rw [hpath, Host.realPath_atRoot isName_app (by simp [hfile])]
    dsimp only
    rw [find_app hfile]
    rfl
  simp only [read, readLint, hcommand, hoptions, hexisting, bind, Except.bind]
  rfl

/-- There is no project file beside the file. -/
theorem load_shop : Settings.load shop (some ⟨.root, []⟩) [] = .ok {} :=
  eq_ok_of_toOption (by decide +kernel)

/-- What the linter is called with. -/
def shopCall : Linter.Call where
  args := ["chalk", "lint", "--format=lsp", "/app.py"].map CodePoints.ofString
  directory := ⟨.root, []⟩
  timeout := some (Binary64.ofInt 60)

theorem callFor_shop :
    Linter.callFor shop {} (some ⟨.root, []⟩) ⟨.root, ["app.py"]⟩ = .ok shopCall :=
  eq_ok_of_toOption (by decide +kernel)

/-- What is found in the output. -/
def wrong : Record where
  range := Response.spanFrom {} {}
  message := .ofString "m"
  severity := .error
  source := .ofString "chalk"

theorem finds_shop : Finds shop (fun _ => failed) shopOptions [wrong] := by
  have hnamed : Uri.ofPathText shopOptions.file.toString = .ok "file:///app.py" :=
    eq_ok_of_toOption (by decide +kernel)
  have hfound :
      (Linter.findings {} "file:///app.py" shopOptions.file failed).result = .ok [wrong] :=
    eq_ok_of_toOption (by decide +kernel)
  exact .pass ⟨⟨rfl, load_shop⟩, hnamed, callFor_shop⟩ hfound

/-- The file is wrong, and this is what the status and the output say. -/
theorem status_tells_shop :
    read shop ["lint", "/app.py", "--json"] = .ok (.lint shopOptions) ∧
    ∀ draw, ∃ r, run shop (fun _ => .ok failed) ["lint", "/app.py", "--json"] draw = r ∧
      r.crash = none ∧ r.status = errorsFound ∧
      (∀ inColour, String.join (r.printed.map (·.toStdout inColour)) =
        Report.json [wrong] ++ "\n") ∧
      Json.read (Report.json [wrong]) = .ok (Report.toJson [wrong]) := by
  have hread := @read_shop shop [] rfl
  refine ⟨hread, fun draw => ⟨_, rfl, ?_⟩⟩
  obtain ⟨-, -, -, -, hstatus, hjson⟩ := @status_tells shop (fun _ => failed) _ _ hread draw
  obtain ⟨hcrash, hprinted, hreading⟩ := hjson rfl _ finds_shop
  exact ⟨hcrash, (hstatus hcrash).1.mpr ⟨_, finds_shop, wrong, by simp, rfl⟩, hprinted, hreading⟩

/-- The host with a project file that is no text beside the file. -/
def spoilt : Host where
  tree := { entries := [(["app.py"], .file [] false),
    ([Settings.projectFile], .file [0xFF] false)] }

/-- The status may not say that the linter could not be run although there are no settings. -/
theorem not_status_tells : ¬ ∀ (h : Host) (out : Linter.Call → ToolOutput)
    (draw : Report.Table → Option String) (args : List String) (o : LintOptions) (root : Path),
    read h args = .ok (.lint o) → rootFor h o = .ok root →
    (∀ settings, Settings.load h (some root) (overrides o) ≠ .ok settings) →
    (run h (fun c => .ok (out c)) args draw).status = unavailable := by
  intro h
  have hunforeseen := @Settings.unforeseen_strayOctet spoilt rfl
  have hread := @read_shop spoilt [] rfl
  have hrooted : rootFor spoilt shopOptions = .ok ⟨.root, []⟩ := rfl
  have hunavailable := h spoilt (fun _ => failed) (fun _ => none) _ _ _ hread hrooted <| by
    intro settings
    rw [(Settings.Breaks.project rfl hunforeseen).load_eq]
    nofun
  have hbreaks : Breaks spoilt (fun _ => failed) (fun _ => none) shopOptions
      (.load (.notUtf8 Settings.strayOctet)) := .settings hrooted hunforeseen
  cases hunavailable.symm.trans (hbreaks.seen (ending_run hread)).1

end Shop

end CommandLine

end LintBridge
