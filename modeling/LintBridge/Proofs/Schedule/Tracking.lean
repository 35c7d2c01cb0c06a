import LintBridge.Proofs.Schedule.Quiescence

/-!
# Which documents are followed

A document is followed from the time it is named until it is closed. It is named where a validation
of it is scheduled, and where one that was asked for directly begins, provided that its URI names a
file (`LintBridge.Schedule.Event.names`). Nothing else begins to follow a document. In particular a
task that was scheduled does not, at whatever point of its course the document is closed: **what is
closed stays closed** until it is named again.

* `LintBridge.Schedule.mem_trackedUris_step` – what one step does to the documents that are
  followed;
* `LintBridge.Schedule.publicationsOf_step_of_untracked` – what is published with one step of a
  document that is not;
* `LintBridge.Schedule.closed_until_named` – both along a run.

A validation that was asked for directly counts from where it begins, not from where it was asked
for: it may begin when the document has been closed in the meantime, and follows it then.
-/

namespace LintBridge

namespace Schedule

/-! ### Naming and closing -/

/-- Whether a URI names a file. -/
def namesFile (uri : String) : Bool :=
  match Uri.toPath? uri with
  | .ok (some _) => true
  | _ => false

/-- Whether a task, when it runs next, begins a validation that was asked for directly. -/
def Task.isDirectStart (t : Task) : Bool :=
  !t.isScheduled && t.isDue && !t.cancelRequested && namesFile t.document.uri

/-- **Whether a document is named with an event**: a validation of it is scheduled, or one that was
asked for directly begins. -/
def Event.names (s : Schedule) (uri : String) : Event → Bool
  | .schedule document _ => document.uri == uri
  | .resume n => (s.task? n).any fun t => t.isDirectStart && t.document.uri == uri
  | _ => false

/-- Whether a document is closed with an event. -/
def Event.closes (uri : String) : Event → Bool
  | .close u => u == uri
  | _ => false

/-- Whether a document is named in a run. -/
def isNamed (around : Surroundings) (uri : String) (s : Schedule) : List Event → Bool
  | [] => false
  | e :: rest => e.names s uri || isNamed around uri (step around s e).1 rest

/-- The empty set that clears a document when it is closed. -/
def clearing (uri : String) : Publication where
  uri := uri
  records := []
  version := none

theorem namesFile_iff {uri : String} :
    namesFile uri = true ↔ ∃ file, Uri.toPath? uri = .ok (some file) := by
  unfold namesFile
  rcases Uri.toPath? uri with e | _ | file <;> simp

theorem Task.isDirectStart_iff {t : Task} :
    t.isDirectStart = true ↔ t.isScheduled = false ∧ t.isDue = true ∧
      t.cancelRequested = false ∧ ∃ file, Uri.toPath? t.document.uri = .ok (some file) := by
  simp [Task.isDirectStart, namesFile_iff, and_assoc]

theorem untracked_iff {s : Schedule} {uri : String} :
    uri ∉ s.trackedUris ↔ s.tracked? uri = none := by
  rw [mem_trackedUris, ← Option.isSome_iff_exists, Option.not_isSome_iff_eq_none]

/-! ### One step -/

section Step

variable (around : Surroundings) {s : Schedule} {uri : String}

theorem mem_trackedUris_follow {v : String} :
    v ∈ (s.follow uri).1.trackedUris ↔ v = uri ∨ v ∈ s.trackedUris := by
  rw [trackedUris_follow]
  by_cases h : s.tracked? uri = none
  · rw [if_pos h, List.mem_append, List.mem_singleton, or_comm]
  · rw [if_neg h]
    refine ⟨.inr, ?_⟩
    rintro (rfl | hv)
    · exact not_not.mp (mt untracked_iff.mp h)
    · exact hv

/-- Beginning a validation follows its document, and no other. -/
theorem mem_trackedUris_enroll (n : Nat) (t : Task) :
    uri ∈ ((s.release n t.document.uri).enroll t).trackedUris ↔
      uri = t.document.uri ∨ uri ∈ s.trackedUris := by
  rw [trackedUris_enroll, mem_trackedUris_follow, release, trackedUris_modify]

/-- **A task that runs names a document only if it was asked for directly**: one that was scheduled
and goes on to its validation is what a document waits for that is followed already. -/
theorem mem_trackedUris_resume (hc : Consistent s) {n : Nat} {t : Task}
    (ht : s.task? n = some t) :
    uri ∈ (resume around s n).1.trackedUris ↔
      (t.isDirectStart = true ∧ t.document.uri = uri) ∨ uri ∈ s.trackedUris := by
  have hstill : t.isDirectStart = false → (uri ∈ s.trackedUris ↔
      (t.isDirectStart = true ∧ t.document.uri = uri) ∨ uri ∈ s.trackedUris) := by
    intro h
    simp [h]
  have hbegun : t.isDue = true → t.cancelRequested = false →
      (∃ file, Uri.toPath? t.document.uri = .ok (some file)) →
        ((uri = t.document.uri ∨ uri ∈ s.trackedUris) ↔
          (t.isDirectStart = true ∧ t.document.uri = uri) ∨ uri ∈ s.trackedUris) := by
    intro due kept hfile
    cases hs : t.isScheduled with
    | false => simp [Task.isDirectStart_iff, hs, due, kept, hfile, @eq_comm _ uri]
    | true =>
      have hdirect : t.isDirectStart = false := by simp [Task.isDirectStart, hs]
      have hexpected : t.isExpected = true :=
        Task.isExpected_iff.mpr ⟨hs, Task.isWaiting_of_isDue due, kept⟩
      obtain ⟨d, hd, -⟩ := hc.expected_pending n t ht hexpected
      rw [← hstill hdirect, or_iff_right_iff_imp]
      rintro rfl
      exact mem_trackedUris.mpr ⟨d, hd⟩
  generalize hx : resume around s n = x
  have hcases := resume_cases around ht
  rw [hx] at hcases
  cases hcases with
  | idle notWaiting =>
    refine hstill (Bool.eq_false_iff.mpr fun h => ?_)
    rw [Task.isWaiting_of_isDue (Task.isDirectStart_iff.mp h).2.1] at notWaiting
    cases notWaiting
  | cancelled _ cancelled => exact hstill (by simp [Task.isDirectStart, cancelled])
  | slept _ stage _ positive =>
    exact hstill (by simp [Task.isDirectStart, Task.isDue, stage, positive])
  | unreadable _ _ _ file | skipped _ _ file =>
    rw [finish, trackedUris_setStage, release, trackedUris_modify]
    exact hstill (by simp [Task.isDirectStart, namesFile, file])
  | stuck file _ due kept named =>
    rw [finish, trackedUris_setStage, trackedUris_leave, mem_trackedUris_enroll]
    exact hbegun due kept ⟨file, named⟩
  | called file _ due kept named =>
    rw [trackedUris_setStage, mem_trackedUris_enroll]
    exact hbegun due kept ⟨file, named⟩

/-- An answer of the linter neither begins nor ceases to follow a document. -/
theorem trackedUris_complete (n : Nat) (answer : Except Mishap ToolOutput) :
    (complete around s n answer).1.trackedUris = s.trackedUris := by
  by_cases hlint : ∃ t pass, s.task? n = some t ∧ t.stage = .linting pass
  · obtain ⟨t, pass, ht, hs⟩ := hlint
    generalize hx : complete around s n answer = x
    have hcases := complete_cases around answer ht hs
    rw [hx] at hcases
    cases hcases with
    | cancelled | failed | outdated => exact trackedUris_leave s _ _
    | published | undelivered =>
      rw [finish, trackedUris_setStage, record, trackedUris_modify, trackedUris_leave]
  · rw [complete_of_not_linting around answer fun t pass ht hs => hlint ⟨t, pass, ht, hs⟩]

/-- **After a step those documents are followed that are named with it, and those that were followed
before and are not closed with it.** -/
theorem mem_trackedUris_step (hc : Consistent s) (e : Event) :
    uri ∈ (step around s e).1.trackedUris ↔
      e.names s uri = true ∨ (uri ∈ s.trackedUris ∧ e.closes uri = false) := by
  cases e with
  | schedule document delay =>
    rw [step, trackedUris_schedule, mem_trackedUris_follow]
    simp [Event.names, Event.closes, @eq_comm _ uri]
  | close u =>
    rw [step, trackedUris_close, List.mem_filter]
    simp [Event.names, Event.closes, @eq_comm _ uri]
  | shutdown => simp [step, Event.names, Event.closes]
  | validate | configure | moveTo =>
    simp [step, validate, create, trackedUris, Event.names, Event.closes]
  | resume n =>
    cases ht : s.task? n with
    | none => simp [step, resume_of_absent around ht, Event.names, Event.closes, ht]
    | some t =>
      rw [step, mem_trackedUris_resume around hc ht]
      simp [Event.names, Event.closes, ht]
  | complete n answer =>
    rw [step, trackedUris_complete]
    simp [Event.names, Event.closes]

/-- **Of a document that is not followed nothing is published with a step**, except that it is
cleared when it is closed. -/
theorem publicationsOf_step_of_untracked (h : uri ∉ s.trackedUris) (e : Event) :
    publicationsOf uri (step around s e).2 = if e.closes uri then [clearing uri] else [] := by
  cases e with
  | close u =>
    rw [step, publicationsOf, publications_close]
    by_cases hu : u = uri
    · simp [Event.closes, hu, clearing]
    · simp [Event.closes, hu]
  | complete n answer =>
    rw [publicationsOf, publications_eq_marks]
    rcases marks_complete_cases around s n answer with
      hnil | ⟨t, pass, records, ht, -, hcurrent, hmarks⟩
    · rw [hnil]
      rfl
    · obtain ⟨d, hd, -⟩ := isCurrent_iff.mp hcurrent
      have hne : t.document.uri ≠ uri := by
        rintro rfl
        exact h (mem_trackedUris.mpr ⟨d, hd⟩)
      simp [hmarks, Mark.publication?, publicationOf, Event.closes, hne]
  | schedule | shutdown | resume =>
    simp [step, shutdown, publicationsOf, Event.closes]
  | validate | configure | moveTo => rfl

end Step

/-! ### Every run -/

section Run

variable (around : Surroundings) {s : Schedule} {uri : String}

/-- Splitting a list that was extended at its end: the part in the middle is the last one, or the
shorter list is split. -/
theorem exists_split_snoc {α : Type} {xs : List α} {x : α} {P : List α → α → List α → Prop} :
    (∃ before y after, xs ++ [x] = before ++ y :: after ∧ P before y after) ↔
      P xs x [] ∨ ∃ before y after, xs = before ++ y :: after ∧ P before y (after ++ [x]) := by
  constructor
  · rintro ⟨before, y, after, heq, h⟩
    rcases List.eq_nil_or_concat after with rfl | ⟨after, last, rfl⟩
    · obtain ⟨rfl, hlast⟩ := List.append_inj' heq rfl
      cases hlast
      exact .inl h
    · rw [List.concat_eq_append, ← List.cons_append, ← List.append_assoc] at heq
      obtain ⟨rfl, hlast⟩ := List.append_inj' heq rfl
      cases hlast
      exact .inr ⟨before, y, after, rfl, by simpa using h⟩
  · rintro (h | ⟨before, y, after, rfl, h⟩)
    · exact ⟨xs, x, [], rfl, h⟩
    · exact ⟨before, y, after ++ [x], by simp, h⟩

/-- **A document is followed exactly if it has been named and not been closed since.** -/
theorem mem_trackedUris_run (settings : Settings) (workspace : Option Path) (es : List Event) :
    uri ∈ (run around { settings, workspace } es).1.trackedUris ↔
      ∃ before e after, es = before ++ e :: after ∧
        e.names (run around { settings, workspace } before).1 uri = true ∧
          ∀ e' ∈ after, e'.closes uri = false := by
  induction es using List.reverseRecOn with
  | nil => simp [run, trackedUris]
  | append_singleton es e ih =>
    have hc := (consistent_empty settings workspace).run around es
    rw [run_snoc, mem_trackedUris_step around hc, ih, exists_split_snoc]
    simp only [List.not_mem_nil, false_implies, implies_true, and_true, List.mem_append,
      List.mem_singleton, or_imp, forall_and, forall_eq]
    refine or_congr_right ⟨?_, ?_⟩
    · rintro ⟨⟨before, e', after, heq, hnames, hafter⟩, hcloses⟩
      exact ⟨before, e', after, heq, hnames, hafter, hcloses⟩
    · rintro ⟨before, e', after, heq, hnames, hafter, hcloses⟩
      exact ⟨⟨before, e', after, heq, hnames, hafter⟩, hcloses⟩

/-- **What is not followed stays so until it is named**, and nothing is published of it but that it
is cleared whenever it is closed. -/
theorem untracked_run (hc : Consistent s) (h : uri ∉ s.trackedUris) {es : List Event}
    (hes : isNamed around uri s es = false) :
    uri ∉ (run around s es).1.trackedUris ∧
      publicationsOf uri (run around s es).2 =
        List.replicate (es.countP (·.closes uri)) (clearing uri) := by
  induction es generalizing s with
  | nil => exact ⟨h, rfl⟩
  | cons e rest ih =>
    obtain ⟨hnames, hrest⟩ : e.names s uri = false ∧ isNamed around uri (step around s e).1 rest =
        false := by simpa [isNamed] using hes
    have hstep : uri ∉ (step around s e).1.trackedUris := by
      rw [mem_trackedUris_step around hc]
      simp [hnames, h]
    obtain ⟨huntracked, hpublications⟩ := ih (hc.step around e) hstep hrest
    refine ⟨huntracked, ?_⟩
    rw [run, publicationsOf_append, publicationsOf_step_of_untracked around h, hpublications,
      List.countP_cons]
    by_cases hcloses : e.closes uri = true
    · simp [hcloses, List.replicate_succ]
    · simp [hcloses]

/-- **What is closed stays closed until it is named again.** In every run,

* each document is followed once at most, and those are followed that have been named and not been
  closed since;
* from where a document is closed until it is named again, it is not followed, it is idle, no set of
  it counts as published, and nothing is published of it but the empty set that clears it, once for
  every time that it is closed. -/
theorem closed_until_named (settings : Settings) (workspace : Option Path) :
    (∀ es, (run around { settings, workspace } es).1.trackedUris.Nodup ∧
      ∀ uri, uri ∈ (run around { settings, workspace } es).1.trackedUris ↔
        ∃ before e after, es = before ++ e :: after ∧
          e.names (run around { settings, workspace } before).1 uri = true ∧
            ∀ e' ∈ after, e'.closes uri = false) ∧
    ∀ before uri after,
      isNamed around uri (run around { settings, workspace } (before ++ [.close uri])).1 after =
          false →
        uri ∉ (run around { settings, workspace } (before ++ .close uri :: after)).1.trackedUris ∧
        (run around { settings, workspace } (before ++ .close uri :: after)).1.phase uri = .idle ∧
        (run around { settings, workspace } (before ++ .close uri :: after)).1.published uri =
          none ∧
        publicationsOf uri (run around (run around { settings, workspace } before).1
            (.close uri :: after)).2 =
          clearing uri :: List.replicate (after.countP (·.closes uri)) (clearing uri) := by
  have hc := fun es => (consistent_empty settings workspace).run around es
  refine ⟨fun es => ⟨(hc es).uris_nodup, fun uri => ?_⟩, fun before uri after hafter => ?_⟩
  · exact mem_trackedUris_run around settings workspace es
  · have hsplit : before ++ .close uri :: after = (before ++ [.close uri]) ++ after := by simp
    have hclosed :
        uri ∉ (run around { settings, workspace } (before ++ [.close uri])).1.trackedUris := by
      rw [run_snoc, mem_trackedUris_step around (hc before)]
      simp [Event.names, Event.closes]
    obtain ⟨huntracked, hpublications⟩ := untracked_run around (hc _) hclosed hafter
    have hnone := untracked_iff.mp huntracked
    rw [hsplit, run_append]
    refine ⟨huntracked, by simp only [phase, hnone], ?_, ?_⟩
    · simp only [published, hnone, Option.bind_none]
    · rw [run_snoc] at hpublications
      rw [run, publicationsOf_append, hpublications, step, publicationsOf, publications_close]
      simp [clearing]

end Run

/-! ### A document that is closed with work left -/

/-- A validation of a document is under way, and another one has slept and is about to go on. -/
def lingering : List Event :=
  [.schedule (app 1) (some (.ofInt 0)), .resume 0, .schedule (app 2) none, .resume 1]

/-- Both come to their ends late, and the document is closed once more. -/
def late : List Event :=
  [.resume 1, .close "file:///app.py", .complete 0 (.ok { exitCode := some 0 })]

/-- Neither of the two has an effect once the document has been closed. -/
theorem closed_until_named_lingering :
    isNamed .calm "file:///app.py" (run .calm { settings := { projectMarkers := [] } }
        (lingering ++ [.close "file:///app.py"])).1 late = false ∧
      (run .calm { settings := { projectMarkers := [] } } lingering).1.trackedUris =
        ["file:///app.py"] ∧
      (run .calm { settings := { projectMarkers := [] } } lingering).1.phase "file:///app.py" =
        .validating ∧
      (run .calm { settings := { projectMarkers := [] } }
        (lingering ++ .close "file:///app.py" :: late)).1.phase "file:///app.py" = .idle ∧
      publicationsOf "file:///app.py" (run .calm
          (run .calm { settings := { projectMarkers := [] } } lingering).1
          (.close "file:///app.py" :: late)).2 =
        [clearing "file:///app.py", clearing "file:///app.py"] := by
  have hlate : isNamed .calm "file:///app.py" (run .calm { settings := { projectMarkers := [] } }
      (lingering ++ [.close "file:///app.py"])).1 late = false := by decide +kernel
  obtain ⟨-, hphase, -, hpublications⟩ :=
    (closed_until_named .calm { projectMarkers := [] } none).2 lingering _ late hlate
  have hclosed : late.countP (·.closes "file:///app.py") = 1 := by decide
  rw [hclosed] at hpublications
  exact ⟨hlate, by decide +kernel, by decide +kernel, hphase, hpublications⟩

/-- Whether with an event a validation of a document is asked for, where a document that is no file
does not count. -/
def Event.asksFor (uri : String) : Event → Bool
  | .schedule document _ => document.uri == uri
  | .validate document _ => document.uri == uri && (Uri.isFile uri).toOption == some true
  | _ => false

/-- **What is asked for is not what is followed**, and closing is not silent: a document that is
closed again is cleared again, a validation that was asked for directly follows its document where
it begins late, and one whose URI spells no path never begins. -/
theorem not_closed_until_asked :
    (¬ ∀ settings before uri after, (∀ e ∈ after, e.asksFor uri = false) →
      publicationsOf uri (run .calm (run .calm { settings } before).1 (.close uri :: after)).2 =
        [clearing uri]) ∧
    (¬ ∀ settings before uri after, (∀ e ∈ after, e.asksFor uri = false) →
      uri ∉ (run .calm { settings } (before ++ .close uri :: after)).1.trackedUris) ∧
    ¬ ∀ settings before uri e after, e.asksFor uri = true →
      (∀ e' ∈ after, e'.closes uri = false) →
        uri ∈ (run .calm { settings } (before ++ e :: after)).1.trackedUris := by
  refine ⟨fun h => ?_, fun h => ?_, fun h => ?_⟩
  · have htwice := h {} [.schedule (app 1) none] "file:///app.py" [.close "file:///app.py"]
      (by decide +kernel)
    revert htwice
    decide +kernel
  · have hlate := h { projectMarkers := [] } [.validate (app 1) none] "file:///app.py" [.resume 0]
      (by decide +kernel)
    revert hlate
    decide +kernel
  · have hpathless := h {} [] "file:" (.validate { uri := "file:" } none) [.resume 0]
      (by decide +kernel) (by decide +kernel)
    revert hpathless
    decide +kernel

end Schedule

end LintBridge
