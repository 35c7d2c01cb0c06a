import LintBridge.Proofs.Session.Course

/-!
# Settings that are replaced

A validation that is under way goes on with the settings that were in force when it called the
linter (`LintBridge.Session.Called`). When others are put in force, all documents that are followed
are therefore validated again, which outdates whatever is under way.

There are two ways in which a document is left out of that (`LintBridge.Session.Overlooks`):

* the editor starts although it has started before, which puts settings in force without any
  validation;
* the new settings are in force already when the documents are gone through, and that **ends at the
  first document that is not to be had**. Such a document is there if it was closed before the
  message was handled by which it was opened: a message of the first kind is dealt with on its
  arrival and overtakes one of the second.

What is under way for a document that was left out publishes what it has found under settings that
are no longer in force. The main result, `LintBridge.Session.published_under`, says that nothing
else does.
-/

namespace LintBridge

namespace Session

open Json (Value)
open Schedule (Surroundings)

/-! ### Settings in force -/

/-- The settings that an event puts in force. -/
def Event.adopted? (around : Surroundings) (s : Session) : Event → Option Settings
  | .receive (.started _ rootUri rootPath options) =>
    if s.stopping then none
    else
      match rootOf rootUri rootPath >>= rootPathOf with
      | .error _ => none
      | .ok root => startSettings? around s root options
  | .handle =>
    match s.pending with
    | .configured settings :: _ => s.newSettings? settings
    | _ => none
  | _ => none

/-- **An event overlooks a document** that is followed when it puts settings in force. -/
inductive Overlooks (around : Surroundings) (s : Session) (uri : String) : Event → Prop where
  /-- The editor starts, and has started before. -/
  | restarted (id : Value) (rootUri rootPath : Option String) (options : Value)
      (again : s.workspace ≠ none) :
      Overlooks around s uri (.receive (.started id rootUri rootPath options))
  /-- Among the documents that are followed is one that is not to be had. It is the document itself
  or comes before it. -/
  | stopped {settings : Value} {rest : List Pending} {before after : List String} {v : String}
      (waiting : s.pending = .configured settings :: rest)
      (followed : s.schedule.trackedUris = before ++ v :: after)
      (missing : snapshot around s v = none) (mem : uri ∈ v :: after) :
      Overlooks around s uri .handle

section Settings

variable (around : Surroundings) (s : Session)

theorem settings_of_renewals (uris : List String) :
    (renewals around s uris).filterMap Schedule.Event.settings? = [] := by
  rw [List.filterMap_eq_nil_iff]
  intro e he
  obtain ⟨d, rfl⟩ := exists_of_mem_renewals around he
  rfl

/-- What is put in force is what is asked of the schedule to be put in force. -/
theorem settings_of_demands (e : Event) :
    (e.demands around s).filterMap Schedule.Event.settings? = (e.adopted? around s).toList := by
  cases e with
  | receive m =>
    simp only [Event.demands]
    cases m with
    | started id rootUri rootPath options =>
      simp only [Event.adopted?, Message.demands]
      cases s.stopping with
      | true => rfl
      | false =>
        cases rootOf rootUri rootPath >>= rootPathOf with
        | error e => rfl
        | ok root =>
          cases h : startSettings? around s root options with
          | none => simp [h, Schedule.Event.settings?]
          | some settings => simp only [h]; rfl
    | closed uri =>
      simp only [Message.demands]
      split
      · rfl
      · split <;> rfl
    | _ => split <;> rfl
  | handle =>
    simp only [Event.demands, Event.adopted?]
    cases s.pending with
    | nil => rfl
    | cons p rest =>
      cases p with
      | opened d => rfl
      | changed uri | saved uri =>
        simp only [Pending.demands]
        cases snapshot around s uri <;> rfl
      | configured settings =>
        simp only [Pending.demands]
        cases s.newSettings? settings with
        | none => rfl
        | some settings => exact congrArg (settings :: ·) (settings_of_renewals around s _)
  | resume | complete => rfl

/-- Settings are in force until others are put in force. -/
theorem settings_step (e : Event) :
    (step around s e).1.schedule.settings = (e.adopted? around s).getD s.schedule.settings := by
  rw [(step_performs around s e).schedule, Schedule.settings_run, settings_of_demands]
  cases e.adopted? around s <;> rfl

/-- Without others put in force the settings stay in force. -/
theorem settings_run {s : Session} {es : List Event}
    (h : Throughout around (fun s e => e.adopted? around s = none) s es) :
    (run around s es).1.schedule.settings = s.schedule.settings := by
  induction es generalizing s with
  | nil => rfl
  | cons e rest ih =>
    refine (ih h.2).trans ?_
    rw [settings_step, h.1, Option.getD_none]

end Settings

/-! ### Validations that are under way -/

/-- **The linter is called for a task that is resumed**, under the settings in force. -/
structure Called (around : Surroundings) (s : Session) (n : Nat) (uri : String)
    (pass : Schedule.Pass) : Prop where
  /-- The file is the one of the document. -/
  file : Uri.toPath? uri = .ok (some pass.file)
  /-- The settings are those in force. -/
  settings : pass.settings = s.schedule.settings
  /-- The command line, the directory and the time are those that the settings ask for. -/
  call : Linter.callFor around.host s.schedule.settings s.schedule.workspace pass.file =
    .ok pass.call
  /-- The linter is called when the task is resumed. -/
  called : .scheduled (.called n pass.call) ∈ (step around s (.resume n)).2

section Underway

variable {around : Surroundings} {s : Session} {n : Nat} {pass : Schedule.Pass}

/-- A task that waits for the linter has done so before, or calls it now. -/
theorem linting_step (e : Event) {t' : Schedule.Task}
    (ht' : (step around s e).1.schedule.task? n = some t') (hs : t'.stage = .linting pass) :
    (∃ t, s.schedule.task? n = some t ∧ t.document = t'.document ∧ t.stage = .linting pass) ∨
      (e = .resume n ∧ Called around s n t'.document.uri pass) := by
  cases e with
  | receive | handle =>
    rw [(step_performs around s _).schedule] at ht'
    exact .inl (Schedule.linting_run_of_isRequest around
      (fun e' he' => isRequest_of_mem_demands he' (by simp) (by simp)) ht' hs)
  | resume m =>
    rcases Schedule.linting_step around (.resume m) ht' hs with
      h | ⟨t, file, call, hm, -, hdoc, hfile, hcall, hpass, hcalled⟩
    · exact .inl h
    · obtain rfl : m = n := by simpa using hm
      subst hpass
      refine .inr ⟨rfl, ?_⟩
      exact
        { file := hdoc ▸ hfile
          settings := rfl
          call := hcall
          called := List.mem_map_of_mem hcalled }
  | complete m answer =>
    rcases Schedule.linting_step around (.complete m answer) ht' hs with
      h | ⟨_, _, _, hm, -⟩
    · exact .inl h
    · cases hm

/-- **Settings that are put in force outdate what is under way**, unless its document is
overlooked. -/
theorem overlooks_or_outdated {e : Event} {t : Schedule.Task} {settings : Settings}
    (hreached : Schedule.Reached around s.schedule) (hunbegun : Unbegun s)
    (ht : s.schedule.task? n = some t) (hs : t.stage = .linting pass)
    (hadopted : e.adopted? around s = some settings) :
    Overlooks around s t.document.uri e ∨
      (step around s e).1.schedule.Outdated t.document.uri pass.life pass.sequence := by
  cases e with
  | receive m =>
    cases m with
    | started id rootUri rootPath options =>
      refine .inl (.restarted id rootUri rootPath options fun hw => ?_)
      cases (hunbegun.tasks hw n).symm.trans ht
    | _ => cases hadopted
  | handle =>
    rw [(step_performs around s .handle).schedule]
    cases hp : s.pending with
    | nil => simp [Event.adopted?, hp] at hadopted
    | cons p rest =>
      cases p with
      | opened | changed | saved => simp [Event.adopted?, hp] at hadopted
      | configured payload =>
        have hnew : s.newSettings? payload = some settings := by
          simpa only [Event.adopted?, hp] using hadopted
        have hdemands : Event.handle.demands around s =
            .configure settings :: renewals around s s.schedule.trackedUris := by
          simp only [Event.demands, hp, Pending.demands, hnew]
        -- A document that is followed is validated anew, unless one before it is not to be had.
        by_cases hmem : t.document.uri ∈ s.schedule.trackedUris
        · rcases renewals_cases around s hmem with
            ⟨d, hd, hu⟩ | ⟨before, v, after, hfollowed, hmissing, hmem⟩
          · refine .inr (hreached.outdated_requests ht hs (fun e he => ?_)
              (hdemands ▸ List.mem_cons_of_mem _ hd) hu)
            exact ⟨isRequest_of_mem_demands he (by simp) (by simp), isUnnumbered_of_mem_demands he⟩
          · exact .inl (.stopped hp hfollowed hmissing hmem)
        · exact .inr ((hreached.outdated_of_untracked ht hs
            (Schedule.untracked_iff.mp hmem)).run around _)
  | resume | complete => cases hadopted

/-- **What is under way was begun at some time**, and is outdated unless its document has been
overlooked whenever settings have been put in force since. -/
theorem underway_run (around : Surroundings) (base : Settings) (es : List Event)
    {t : Schedule.Task} (ht : (run around (ofSettings base) es).1.schedule.task? n = some t)
    (hs : t.stage = .linting pass) :
    ∃ before since, es = before ++ .resume n :: since ∧
      Called around (run around (ofSettings base) before).1 n t.document.uri pass ∧
      ((run around (ofSettings base) es).1.schedule.Outdated t.document.uri pass.life
          pass.sequence ∨
        Throughout around
          (fun s e => e.adopted? around s ≠ none → Overlooks around s t.document.uri e)
          (run around (ofSettings base) (before ++ [.resume n])).1 since) := by
  induction es using List.reverseRecOn generalizing t with
  | nil => cases ht
  | append_singleton es e ih =>
    rw [run_snoc] at ht ⊢
    rcases linting_step e ht hs with ⟨t₀, ht₀, hdoc, hs₀⟩ | ⟨rfl, hcalled⟩
    · obtain ⟨before, since, rfl, hcalled, hsince⟩ := ih ht₀ hs₀
      rw [hdoc] at hcalled hsince
      refine ⟨before, since ++ [e], by simp, hcalled, ?_⟩
      rcases hsince with hout | hsince
      · rw [(step_performs around _ e).schedule]
        exact .inl (hout.run around _)
      · -- Only the last event has to be looked at: it overlooks the document or outdates the pass.
        rw [throughout_snoc, ← run_split]
        cases hadopted : e.adopted? around
            (run around (ofSettings base) (before ++ .resume n :: since)).1 with
        | none => exact .inr ⟨hsince, fun h => absurd rfl h⟩
        | some settings =>
          rcases overlooks_or_outdated (reached_run around base _) (unbegun_run around base _) ht₀
            hs₀ hadopted with hover | hout
          · exact .inr ⟨hsince, fun _ => hdoc ▸ hover⟩
          · exact .inl (hdoc ▸ hout)
    · exact ⟨es, [], rfl, hcalled, .inr trivial⟩

end Underway

/-! ### What is published -/

section Published

variable (around : Surroundings)

/-- A message that arrives publishes nothing, but that a document which is closed is cleared. -/
theorem of_mem_publications_receive {s : Session} {m : Message} {p : Publication}
    (hp : p ∈ publications (step around s (.receive m)).2) :
    m = .closed p.uri ∧ p = Schedule.clearing p.uri := by
  rw [(step_performs around s (.receive m)).published] at hp
  obtain ⟨hmem, hclear⟩ := Schedule.of_mem_publications_requests
    (fun e he => isRequest_of_mem_demands he (by simp) (by simp)) hp
  refine ⟨?_, hclear⟩
  rcases of_mem_message_demands (of_mem_receive_demands hmem) with
    ⟨_, h⟩ | ⟨_, h⟩ | ⟨uri, rfl, h⟩ | h <;> cases h
  rfl

/-- The handling of a message publishes nothing. -/
theorem not_mem_publications_handle {s : Session} {p : Publication} :
    p ∉ publications (step around s .handle).2 := by
  intro hp
  rw [(step_performs around s .handle).published] at hp
  obtain ⟨hmem, -⟩ := Schedule.of_mem_publications_requests
    (fun e he => isRequest_of_mem_demands he (by simp) (by simp)) hp
  obtain ⟨_, -, hmem⟩ := of_mem_handle_demands hmem
  rcases of_mem_pending_demands hmem with ⟨_, _, h⟩ | ⟨_, h⟩ <;> cases h

/-- **What a validation publishes was found under the settings in force when the linter was called,
and they are in force still unless its document has been overlooked.** In every run of a session,
whatever is published is either the empty set that clears a document which is closed, or comes with
an answer of the linter. Then

* the linter was called for the document in the course of the run, with the command line, in the
  directory and for the time that the settings in force at that moment ask for;
* what is published is what these settings make of the answer;
* the document was overlooked each time that settings have been put in force since;
* so if it was not overlooked since, then the settings are those in force. -/
theorem published_under (base : Settings) (es : List Event) (e : Event) (p : Publication)
    (hp : p ∈ publications (step around (run around (ofSettings base) es).1 e).2) :
    (e = .receive (.closed p.uri) ∧ p = Schedule.clearing p.uri) ∨
      ∃ n out pass before since, e = .complete n (.ok out) ∧ es = before ++ .resume n :: since ∧
        Called around (run around (ofSettings base) before).1 n p.uri pass ∧
        (Linter.findings pass.settings p.uri pass.file out).result = .ok p.records ∧
        Throughout around (fun s e => e.adopted? around s ≠ none → Overlooks around s p.uri e)
          (run around (ofSettings base) (before ++ [.resume n])).1 since ∧
        (Throughout around (fun s e => ¬ Overlooks around s p.uri e)
            (run around (ofSettings base) (before ++ [.resume n])).1 since →
          pass.settings = (run around (ofSettings base) es).1.schedule.settings) := by
  cases e with
  | receive m =>
    obtain ⟨rfl, hclear⟩ := of_mem_publications_receive around hp
    exact .inl ⟨rfl, hclear⟩
  | handle => exact absurd hp (not_mem_publications_handle around)
  | resume n =>
    rw [step, withSchedule, publications_scheduled, Schedule.publications_resume] at hp
    cases hp
  | complete n answer =>
    rw [step, withSchedule, publications_scheduled] at hp
    obtain ⟨t, pass, out, ht, hs, rfl, hcurrent, hu, -, hread⟩ :=
      Schedule.of_mem_publications_complete hp
    obtain ⟨before, since, rfl, hcalled, hsince⟩ := underway_run around base es ht hs
    rw [← hu] at hcalled hsince hcurrent
    -- What is published is current, so that nothing has outdated it.
    have hover := hsince.resolve_left fun hout => by
      rw [hout.isCurrent_eq_false] at hcurrent
      cases hcurrent
    refine .inr ⟨n, out, pass, before, since, rfl, rfl, hcalled, hread, hover, fun hkept => ?_⟩
    have hnone : Throughout around (fun s e => e.adopted? around s = none)
        (run around (ofSettings base) (before ++ [.resume n])).1 since :=
      hover.both hkept fun s e hadopted hnot => by_contra fun h => hnot (hadopted h)
    calc pass.settings
        = (run around (ofSettings base) before).1.schedule.settings := hcalled.settings
      _ = (run around (ofSettings base) (before ++ [.resume n])).1.schedule.settings := by
          rw [run_snoc, settings_step]
          rfl
      _ = (run around (ofSettings base) (before ++ .resume n :: since)).1.schedule.settings := by
          rw [run_split around _ before (.resume n) since, settings_run around hnone]

end Published

/-! ### A document that is opened and closed at once -/

/-- Whether the editor has a document open. -/
def isOpen (s : Session) (uri : String) : Bool :=
  match s.workspace with
  | none => false
  | some w => (w.lookup (keyOf uri)).isSome

/-- Whether the editor keeps to its part: it starts once, opens what it does not have open, and
changes, saves and closes what it has open. -/
def Event.isOrderly (s : Session) : Event → Bool
  | .receive (.started ..) => s.workspace.isNone
  | .receive (.opened uri _ _) => !s.isOpen uri
  | .receive (.changed uri _ _) => s.isOpen uri
  | .receive (.saved uri) => s.isOpen uri
  | .receive (.closed uri) => s.isOpen uri
  | _ => true

/-- A document without a file is opened and closed again before the first of the two messages is
handled. Another one is opened, and while the linter is at work for it the editor has a new name for
the source of diagnostics. -/
def hasty : List Event :=
  [.receive (.started .null none none .null), .receive (.opened "untitled:a" (some 1) ""),
    .receive (.closed "untitled:a"), .handle, .receive (.opened "file:///app.py" (some 1) ""),
    .handle, .resume 1,
    .receive (.configured (.ofFields [("source", .ofString "second")])), .handle]

/-- The linter has found something in the document that it was called for. -/
def oldFinding : ToolOutput where
  exitCode := some 1
  stdout := "\x7b\"errors\": [\x7b\"message\": \"old\"\x7d]\x7d"

/-- What was found under the first settings is published under the second. -/
theorem published_under_hasty :
    ∃ p ∈ publications (step .calm (run .calm (ofSettings { projectMarkers := [] }) hasty).1
        (.complete 1 (.ok oldFinding))).2,
      p.records.map (·.source) = [.ofString "chalk"] ∧
        (run .calm (ofSettings { projectMarkers := [] }) hasty).1.schedule.settings.source =
          .ofString "second" ∧
        ∃ n out pass before since, Event.complete 1 (.ok oldFinding) = .complete n (.ok out) ∧
          hasty = before ++ .resume n :: since ∧
          Called .calm (run .calm (ofSettings { projectMarkers := [] }) before).1 n p.uri pass ∧
          (Linter.findings pass.settings p.uri pass.file out).result = .ok p.records ∧
          Throughout .calm (fun s e => e.adopted? .calm s ≠ none → Overlooks .calm s p.uri e)
            (run .calm (ofSettings { projectMarkers := [] }) (before ++ [.resume n])).1 since := by
  obtain ⟨p, hp, hsource⟩ :
      ∃ p ∈ publications (step .calm (run .calm (ofSettings { projectMarkers := [] }) hasty).1
        (.complete 1 (.ok oldFinding))).2, p.records.map (·.source) = [.ofString "chalk"] := by
    decide +kernel
  refine ⟨p, hp, hsource, by decide +kernel, ?_⟩
  rcases published_under .calm { projectMarkers := [] } hasty _ p hp with
    ⟨h, -⟩ | ⟨n, out, pass, before, since, hcomplete, hrun, hcalled, hread, hover, -⟩
  · cases h
  · exact ⟨n, out, pass, before, since, hcomplete, hrun, hcalled, hread, hover⟩

/-- The settings that the linter is at work under. -/
def settingsAt? : Schedule.Stage → Option Settings
  | .linting pass => some pass.settings
  | _ => none

/-- The editor keeps to its part, and yet what was found under settings that are no longer in force
is published. -/
theorem not_published_under_settings_in_force :
    ¬ ∀ (around : Surroundings) (base : Settings) (es : List Event) (n : Nat) (out : ToolOutput)
        (t : Schedule.Task) (pass : Schedule.Pass),
      Throughout around (fun s e => e.isOrderly s = true) (ofSettings base) es →
      (run around (ofSettings base) es).1.schedule.task? n = some t → t.stage = .linting pass →
      publications (step around (run around (ofSettings base) es).1 (.complete n (.ok out))).2 ≠ [] →
        pass.settings = (run around (ofSettings base) es).1.schedule.settings := by
  intro h
  have hpass : ((run .calm (ofSettings { projectMarkers := [] }) hasty).1.schedule.task? 1).any
      (fun t => (settingsAt? t.stage).any (·.source == .ofString "chalk")) = true := by
    decide +kernel
  obtain ⟨t, ht, hsource⟩ := (Option.any_eq_true _ _).mp hpass
  cases hs : t.stage with
  | linting pass =>
    have hnew := h .calm { projectMarkers := [] } hasty 1 oldFinding t pass (by decide +kernel) ht
      hs (by decide +kernel)
    have hold : pass.settings.source = .ofString "chalk" := by
      simpa [hs, settingsAt?] using hsource
    have hforce :
        (run .calm (ofSettings { projectMarkers := [] }) hasty).1.schedule.settings.source =
          .ofString "second" := by
      decide +kernel
    rw [← hnew, hold] at hforce
    exact absurd hforce (by decide)
  | _ => simp [hs, settingsAt?] at hsource

end Session

end LintBridge
