import LintBridge.Proofs.Publication.Presentable
import LintBridge.Proofs.Response.Normal
import LintBridge.Proofs.Response.Validated

/-!
# What a pass collects

Nothing is known about what the linter writes, and much about what a pass makes of it: **whatever a
pass has collected is well formed and as the settings want it**. Each diagnostic is in normal form,
names the tool of the settings and is as urgent as they ask for at least, and there are not more of
them than are wanted.

* `LintBridge.Linter.Wanted` – a diagnostic as the settings want it;
* `LintBridge.Linter.collected_wanted` – a pass collects nothing else, and in reading the entries no
  check of a place or of a span has anything to refuse.
-/

namespace LintBridge.Linter

variable {s : Settings}

/-- **A diagnostic as the settings want it.** -/
structure Wanted (s : Settings) (r : Record) : Prop where
  /-- It is in normal form. -/
  normal : r.IsNormal
  /-- It is urgent enough. -/
  severity : r.severity.isAtLeast s.minimumSeverity = true
  /-- It names the tool of the settings. -/
  source : r.source = s.source

theorem isAtLeast_of_mem_limit {records : List Record} {r : Record} (h : r ∈ limit s records) :
    r.severity.isAtLeast s.minimumSeverity = true := by
  unfold limit at h
  dsimp only at h
  split at h
  · exact (List.mem_filter.mp (List.mem_of_mem_take h)).2
  · exact (List.mem_filter.mp h).2

theorem length_limit_le {records : List Record} {n : Nat} (h : s.maxProblems = some n) :
    (limit s records).length ≤ n := by
  unfold limit
  rw [h]
  exact List.length_take_le n _

/-- The last step of a pass is to keep what the settings let through. -/
theorem findings_eq_limit {uri : String} {file : Path} {out : ToolOutput} {records : List Record}
    (h : (findings s uri file out).result = .ok records) :
    ∃ selected, records = limit s selected := by
  unfold findings at h
  simp only [Traced.result_bind, Traced.result_of, Traced.result_pure, bind_eq_ok] at h
  obtain ⟨_, -, _, -, groups, -, selected, -, h⟩ := h
  exact ⟨selected, (Except.ok.inj h).symm⟩

theorem findings_wanted {uri : String} {file : Path} {out : ToolOutput} {records : List Record}
    (h : (findings s uri file out).result = .ok records) :
    (∀ r ∈ records, Wanted s r) ∧ ∀ n, s.maxProblems = some n → records.length ≤ n := by
  obtain ⟨selected, rfl⟩ := findings_eq_limit h
  refine ⟨fun r hr => ?_, fun n hn => length_limit_le hn⟩
  obtain ⟨entry, horigin⟩ := findings_origin h r hr
  obtain ⟨severity, hdecoded⟩ := horigin.decoded
  obtain ⟨hnormal, hsource⟩ := Response.recordOf_isNormal hdecoded
  exact ⟨hnormal, isAtLeast_of_mem_limit hr, hsource⟩

/-- **Whatever a pass has collected is as the settings want it**: all of it is in normal form,
urgent enough and of the right tool, and it is not too much. The diagnostics are well formed by the
way they are read: of all entries, whatever they hold, there is none that a check of a place or of a
span refuses. -/
theorem collected_wanted :
    (∀ (host : Host) (run : Call → Except Mishap ToolOutput) (s : Settings)
      (workspace : Option Path) (uri : String) (file : Path) (records : List Record),
      (collect host run s workspace uri file).result = .ok records →
      (∀ r ∈ records, Wanted s r) ∧ ∀ n, s.maxProblems = some n → records.length ≤ n) ∧
    ∀ (ctx : Response.Context) (entry : Response.Fields),
      Response.checkedRecord? ctx entry = (Response.recordOf? ctx entry).map .valid := by
  refine ⟨fun host run s workspace uri file records h => ?_, Response.checkedRecord_eq⟩
  obtain ⟨call, out, -, -, hfindings⟩ := collect_eq_ok.mp h
  exact findings_wanted hfindings

/-! ### An untidy output -/

/-- Warnings and worse, of which one is shown. -/
def strict : Settings where
  projectMarkers := []
  source := .ofString "lint"
  minimumSeverity := .warning
  maxProblems := some 1

/-- The linter finds two things: a hint, and something with blanks around its code that ends before
it starts. -/
def untidy : ToolOutput where
  stdout := "\x7b\"errors\":[\x7b\"message\":\"h\",\"severity\":4\x7d,\x7b\"message\":\" m\"," ++
    "\"range\":\x7b\"start\":\x7b\"line\":7\x7d,\"end\":\x7b\"line\":-1\x7d\x7d," ++
    "\"code\":\x7b\"value\":\" E \"\x7d\x7d]\x7d"
  exitCode := some 1

/-- What becomes of the second. -/
def tidied : Record where
  range := Response.spanFrom { line := 7 } { line := 7 }
  message := .ofString " m"
  severity := .warning
  code := some (.ofString "E")
  source := .ofString "lint"

theorem collect_untidy : (collect {} (fun _ => .ok untidy) strict none "file:///app.py"
    (Path.ofString "/app.py")).result = .ok [tidied] :=
  eq_ok_of_toOption (by decide +kernel)

/-- Of the two findings one is shown, and it is tidy. -/
theorem collected_wanted_untidy :
    (collect {} (fun _ => .ok untidy) strict none "file:///app.py"
        (Path.ofString "/app.py")).result = .ok [tidied] ∧
      (∀ r ∈ [tidied], Wanted strict r) ∧ [tidied].length ≤ 1 := by
  obtain ⟨hwanted, hlength⟩ := collected_wanted.1 _ _ _ _ _ _ _ collect_untidy
  exact ⟨collect_untidy, hwanted, hlength 1 rfl⟩

end LintBridge.Linter
