import LintBridge.Proofs.Schedule.Separation
import LintBridge.Proofs.Session.Reconfiguration

/-!
# New settings from the editor

The editor may send new settings at any time, in whatever shape. They are put in force as a whole or
not at all: **what is no section of settings, or an empty one, changes nothing; what is refused, or
cannot even be refused, is logged and changes nothing; and everything else is put on top of the
settings in force, and each document that is followed gets one more number and one validation at
once**, in the place of the one that still waits for it.

* `LintBridge.Schedule.scheduleAll` – several documents validated at once;
  `LintBridge.Schedule.Renewed` – what that does to a schedule;
* `LintBridge.Schedule.renewed_scheduleAll` – for documents that are followed, each once;
* `LintBridge.Session.configured_whole` – what becomes of a session that is sent new settings.
-/

namespace LintBridge

namespace Schedule

/-! ### Several documents validated at once -/

/-- Several documents are validated at once, one after the other. -/
def scheduleAll (s : Schedule) : List Document → Schedule
  | [] => s
  | document :: rest => (s.schedule document (some (.ofInt 0))).1.scheduleAll rest

/-- **What becomes of a schedule in which several documents are validated at once.** -/
structure Renewed (s t : Schedule) (documents : List Document) : Prop where
  /-- The settings stay in force. -/
  settings : t.settings = s.settings
  /-- The root of the workspace stays. -/
  workspace : t.workspace = s.workspace
  /-- No new life begins. -/
  nextLife : t.nextLife = s.nextLife
  /-- The documents that are followed are the same. -/
  uris : t.trackedUris = s.trackedUris
  /-- There is one more task for each of the documents. -/
  length : t.tasks.length = s.tasks.length + documents.length
  /-- Other documents stay as they are. -/
  others : ∀ v, v ∉ documents.map (·.uri) → t.tracked? v = s.tracked? v
  /-- A document takes one more number, and waits for its new task. Of what was known of it nothing
  else changes. -/
  tracked : ∀ i document d, documents[i]? = some document → s.tracked? document.uri = some d →
    t.tracked? document.uri =
      some { d with sequence := d.sequence + 1, pending := some (s.tasks.length + i) }
  /-- The task validates the document as it is, under the new number, without waiting. -/
  task : ∀ i document d, documents[i]? = some document → s.tracked? document.uri = some d →
    t.task? (s.tasks.length + i) =
      some { document, origin := .scheduled (d.sequence + 1), stage := .fresh (.ofInt 0) }
  /-- The cancellation of the tasks that waited for one of the documents is asked for, and the other
  tasks stay as they are. -/
  earlier : ∀ m < s.tasks.length, t.task? m = (s.task? m).map fun task =>
    if task.document.uri ∈ documents.map (·.uri) ∧ s.pendingOf task.document.uri = some m then
      task.requestCancel
    else task

section Renewed

variable {s t : Schedule} {document : Document} {documents : List Document}

theorem Renewed.refl (s : Schedule) : Renewed s s [] where
  settings := rfl
  workspace := rfl
  nextLife := rfl
  uris := rfl
  length := rfl
  others _ _ := rfl
  tracked _ _ _ h := by cases h
  task _ _ _ h := by cases h
  earlier m _ := by simp

theorem trackedUris_schedule_of_tracked {d : Tracked} (hd : s.tracked? document.uri = some d)
    (delay : Option Binary64) : (s.schedule document delay).1.trackedUris = s.trackedUris := by
  rw [trackedUris_schedule, follow_of_tracked hd]

/-- One document is validated, and then the others. -/
theorem Renewed.cons (hs : Consistent s) {d : Tracked} (hd : s.tracked? document.uri = some d)
    (hfresh : document.uri ∉ documents.map (·.uri))
    (h : Renewed (s.schedule document (some (.ofInt 0))).1 t documents) :
    Renewed s t (document :: documents) := by
  have hentry : s.entry document.uri = d := entry_of_tracked hd
  have hlength := length_tasks_schedule s document (some (.ofInt 0))
  have hother : ∀ v, v ≠ document.uri →
      (s.schedule document (some (.ofInt 0))).1.tracked? v = s.tracked? v := fun v hv => by
    rw [tracked?_schedule, if_neg hv]
  refine
    { settings := h.settings.trans (settings_schedule s document _)
      workspace := h.workspace.trans (workspace_schedule s document _)
      nextLife := ?_
      uris := h.uris.trans (trackedUris_schedule_of_tracked hd _)
      length := ?_
      others := fun v hv => ?_
      tracked := ?_
      task := ?_
      earlier := ?_ }
  · rw [h.nextLife, nextLife_schedule, follow_of_tracked hd]
  · rw [h.length, hlength, List.length_cons]
    omega
  · rw [List.map_cons, List.mem_cons, not_or] at hv
    rw [h.others v hv.2, hother v hv.1]
  · rintro (_ | i) document' d' hdocument hd'
    · obtain rfl : document = document' := Option.some.inj hdocument
      obtain rfl : d = d' := Option.some.inj (hd.symm.trans hd')
      rw [h.others _ hfresh, tracked?_schedule, if_pos rfl, scheduledEntry, hentry]
      rfl
    · have hmem : document'.uri ∈ documents.map (·.uri) :=
        List.mem_map_of_mem (List.mem_of_getElem? hdocument)
      have hne : document'.uri ≠ document.uri := fun heq => hfresh (heq ▸ hmem)
      rw [h.tracked i document' d' hdocument ((hother _ hne).trans hd'), hlength]
      simp only [Nat.add_assoc, Nat.add_comm 1]
  · rintro (_ | i) document' d' hdocument hd'
    · obtain rfl : document = document' := Option.some.inj hdocument
      obtain rfl : d = d' := Option.some.inj (hd.symm.trans hd')
      have hlt : s.tasks.length < (s.schedule document (some (.ofInt 0))).1.tasks.length := by
        omega
      rw [Nat.add_zero, h.earlier _ hlt, task?_schedule, if_pos rfl, Option.map_some]
      have hnot : ¬ (document.uri ∈ documents.map (·.uri) ∧
        (s.schedule document (some (.ofInt 0))).1.pendingOf document.uri = some s.tasks.length) :=
        fun h => hfresh h.1
      simp only [scheduledTask, hnot, if_false, hentry, Option.getD_some]
    · have hmem : document'.uri ∈ documents.map (·.uri) :=
        List.mem_map_of_mem (List.mem_of_getElem? hdocument)
      have hne : document'.uri ≠ document.uri := fun heq => hfresh (heq ▸ hmem)
      have htask := h.task i document' d' hdocument ((hother _ hne).trans hd')
      rw [hlength, Nat.add_right_comm] at htask
      exact htask
  · intro m hm
    have hlt : m < (s.schedule document (some (.ofInt 0))).1.tasks.length := by omega
    rw [h.earlier m hlt, task?_schedule, if_neg (Nat.ne_of_lt hm), hentry]
    cases htask : s.task? m with
    | none => split <;> rfl
    | some task =>
      by_cases hu : task.document.uri = document.uri
      · -- A task of the document itself is looked at only now.
        have hpendingOf : s.pendingOf document.uri = d.pending := by
          rw [pendingOf, hd, Option.bind_some]
        by_cases hp : d.pending = some m
        · simp only [hp, hpendingOf, hu, hfresh, Option.map_some, Task.requestCancel_document,
            List.map_cons, List.mem_cons, true_or, and_self, false_and, if_true, if_false]
        · simp only [hp, hpendingOf, hu, hfresh, Option.map_some, and_false, false_and, if_false]
      · -- A task of another document is not the one that the document waits for.
        have hp : d.pending ≠ some m := fun hp => by
          obtain ⟨task', -, htask', hu', -⟩ := hs.pending_waits _ d m hd hp
          obtain rfl : task = task' := Option.some.inj (htask.symm.trans htask')
          exact hu hu'
        have hpendingOf : (s.schedule document (some (.ofInt 0))).1.pendingOf task.document.uri =
            s.pendingOf task.document.uri := by
          rw [pendingOf, hother _ hu, pendingOf]
        rw [if_neg hp]
        simp only [Option.map_some, hpendingOf, List.map_cons, List.mem_cons, hu, false_or]

/-- **Documents that are followed, each of them once, are validated at once.** -/
theorem renewed_scheduleAll (hs : Consistent s) (hnodup : (documents.map (·.uri)).Nodup)
    (htracked : ∀ document ∈ documents, document.uri ∈ s.trackedUris) :
    Renewed s (s.scheduleAll documents) documents := by
  induction documents generalizing s with
  | nil => exact .refl s
  | cons document rest ih =>
    obtain ⟨hfresh, hnodup⟩ := List.nodup_cons.mp hnodup
    obtain ⟨hdocument, hrest⟩ := List.forall_mem_cons.mp htracked
    obtain ⟨d, hd⟩ := mem_trackedUris.mp hdocument
    refine Renewed.cons hs hd hfresh (ih (hs.schedule document _) hnodup fun document' h => ?_)
    rw [trackedUris_schedule_of_tracked hd]
    exact hrest document' h

theorem consistent_scheduleAll (hs : Consistent s) (documents : List Document) :
    Consistent (s.scheduleAll documents) := by
  induction documents generalizing s with
  | nil => exact hs
  | cons document rest ih => exact ih (hs.schedule document _)

/-- Scheduling a validation creates a task and may ask for the cancellation of another. -/
theorem of_mem_effects_schedule {delay : Option Binary64} {e : Effect}
    (h : e ∈ (s.schedule document delay).2) : ∃ n, e = .created n ∨ e = .cancelled n := by
  have hcancel : ∀ (s : Schedule) (n : Nat), ∀ e ∈ (s.cancel n).2, e = .cancelled n := by
    intro s n e he
    unfold cancel at he
    split at he
    · exact List.mem_singleton.mp he
    · cases he
  simp only [schedule, create] at h
  rcases List.mem_append.mp h with h | h
  · split at h
    · exact ⟨_, .inr (hcancel _ _ e h)⟩
    · cases h
  · exact ⟨_, .inl (List.mem_singleton.mp h)⟩

/-- **Nothing that was asked for before goes on**, if all documents that are followed are validated
at once. -/
theorem Renewed.replaced (h : Renewed s t documents) (ht : Consistent t)
    (hall : documents.map (·.uri) = s.trackedUris) {m : Nat} (hm : m < s.tasks.length) {task : Task}
    (htask : t.task? m = some task) : task.isExpected = false := by
  by_contra hexpected
  obtain ⟨d', hd', hp⟩ := ht.expected_pending m task htask (by simpa using hexpected)
  have hmem : task.document.uri ∈ s.trackedUris := h.uris ▸ mem_trackedUris.mpr ⟨d', hd'⟩
  obtain ⟨d, hd⟩ := mem_trackedUris.mp hmem
  obtain ⟨document, hdocument, hu⟩ := List.mem_map.mp (hall ▸ hmem)
  obtain ⟨i, hi⟩ := List.getElem?_of_mem hdocument
  have htracked := h.tracked i document d hi (hu ▸ hd)
  rw [hu, hd'] at htracked
  obtain rfl := Option.some.inj htracked
  obtain hlater : s.tasks.length + i = m := Option.some.inj hp
  omega

end Renewed

end Schedule

namespace Session

open Json (Value)
open Schedule (Surroundings)

/-! ### All documents of a session -/

section Snapshots

variable {around : Surroundings} {s : Session}

/-- A document that the editor has open is to be had. -/
theorem exists_snapshot_of_isOpen (around : Surroundings) {uri : String} (h : s.isOpen uri = true) :
    ∃ document, snapshot around s uri = some document := by
  cases hw : s.workspace with
  | none => simp [isOpen, hw] at h
  | some w =>
    simp only [isOpen, hw] at h
    obtain ⟨d, hd⟩ := Option.isSome_iff_exists.mp h
    simp only [snapshot, hw, hd]
    exact ⟨_, rfl⟩

/-- Documents that are to be had, each as it is. -/
theorem exists_snapshots {uris : List String}
    (h : ∀ uri ∈ uris, ∃ document, snapshot around s uri = some document) :
    ∃ documents : List Document, documents.map (·.uri) = uris ∧
      ∀ document ∈ documents, snapshot around s document.uri = some document := by
  induction uris with
  | nil => exact ⟨[], rfl, nofun⟩
  | cons uri rest ih =>
    obtain ⟨⟨document, hdocument⟩, hrest⟩ := List.forall_mem_cons.mp h
    obtain ⟨documents, hdocuments, hall⟩ := ih hrest
    have hu : document.uri = uri := uri_of_snapshot around hdocument
    refine ⟨document :: documents, by rw [List.map_cons, hu, hdocuments], ?_⟩
    exact List.forall_mem_cons.mpr ⟨hu ▸ hdocument, hall⟩

/-- Documents that are to be had are validated at once. -/
theorem validateAll_eq {documents : List Document}
    (h : ∀ document ∈ documents, snapshot around s document.uri = some document) :
    (validateAll around s (documents.map (·.uri))).1 =
      { s with schedule := s.schedule.scheduleAll documents } := by
  induction documents generalizing s with
  | nil => rfl
  | cons document rest ih =>
    obtain ⟨hdocument, hrest⟩ := List.forall_mem_cons.mp h
    simp only [List.map_cons, validateAll, hdocument]
    refine (ih fun document' hmem => ?_).trans rfl
    exact (snapshot_congr around rfl document'.uri).trans (hrest document' hmem)

/-- Tasks are created and cancelled, and nothing else is seen of it. -/
theorem of_mem_effects_validateAll {documents : List Document}
    (h : ∀ document ∈ documents, snapshot around s document.uri = some document) {e : Effect}
    (he : e ∈ (validateAll around s (documents.map (·.uri))).2) :
    ∃ n, e = .scheduled (.created n) ∨ e = .scheduled (.cancelled n) := by
  induction documents generalizing s with
  | nil => cases he
  | cons document rest ih =>
    obtain ⟨hdocument, hrest⟩ := List.forall_mem_cons.mp h
    simp only [List.map_cons, validateAll, hdocument] at he
    rcases List.mem_append.mp he with he | he
    · obtain ⟨effect, heffect, rfl⟩ := List.mem_map.mp he
      obtain ⟨n, rfl | rfl⟩ := Schedule.of_mem_effects_schedule heffect
      · exact ⟨n, .inl rfl⟩
      · exact ⟨n, .inr rfl⟩
    · refine ih (fun document' hmem => ?_) he
      exact (snapshot_congr around rfl document'.uri).trans (hrest document' hmem)

end Snapshots

/-! ### New settings -/

section Configured

variable {around : Surroundings} {base : Settings} {es : List Event} {s : Session} {payload : Value}
  {rest : List Pending}

theorem handle_configured (h : s.pending = .configured payload :: rest) :
    step around s .handle = configure around { s with pending := rest } payload := by
  simp only [step, handle, h]

/-- What is seen of settings that do not come about. -/
def complaintOf : Settings.MergeError → Effect
  | .refused e => refusal e
  | .broken _ => .failed

/-- Of settings that do not come about nothing is left but that. -/
theorem configure_of_error {options : Response.Fields} {e : Settings.MergeError}
    (hsection : Settings.sectionOf payload = some options)
    (hmerge : s.schedule.settings.merge options = .error e) :
    configure around s payload = (s, [complaintOf e]) := by
  cases options with
  | nil => cases hmerge
  | cons option more =>
    simp only [configure, hsection, hmerge]
    cases e <;> rfl

/-- **New settings are put in force as a whole or not at all**, in every state that a session comes
into. The section of what the editor sends is the object under the first of the names that has one,
or else all that is sent.

* If the editor sends no section of settings, or an empty one, nothing changes.
* If the settings in force with the section on top of them are refused, that is logged and nothing
  else happens. If the refusal cannot be put into words, the message fails, and nothing else happens
  either.
* Otherwise they are put in force, and if the editor has all documents open that are followed, each
  of these takes one more number and is validated once, as it is and without waiting. Of what has
  been asked for before nothing waits to go on, and nothing else is touched. -/
theorem configured_whole (hrun : (run around (ofSettings base) es).1 = s)
    (hpending : s.pending = .configured payload :: rest) :
    (Settings.sectionOf payload = none ∨ Settings.sectionOf payload = some [] →
      step around s .handle = ({ s with pending := rest }, [])) ∧
    (∀ (options : Response.Fields) (e : Settings.Error),
      Settings.sectionOf payload = some options →
      s.schedule.settings.merge options = .error (.refused e) →
        step around s .handle = ({ s with pending := rest }, [refusal e])) ∧
    (∀ (options : Response.Fields) (fault : Json.Unencodable),
      Settings.sectionOf payload = some options →
      s.schedule.settings.merge options = .error (.broken fault) →
        step around s .handle = ({ s with pending := rest }, [.failed])) ∧
    ∀ (options : Response.Fields) (settings : Settings),
      Settings.sectionOf payload = some options → options ≠ [] →
      s.schedule.settings.merge options = .ok settings →
      (∀ uri ∈ s.schedule.trackedUris, s.isOpen uri = true) →
        ∃ (documents : List Document) (t : Schedule),
          documents.map (·.uri) = s.schedule.trackedUris ∧
          (∀ document ∈ documents, snapshot around s document.uri = some document) ∧
          (step around s .handle).1 = { s with pending := rest, schedule := t } ∧
          Schedule.Renewed { s.schedule with settings } t documents ∧
          (∀ m < s.schedule.tasks.length, ∀ task, t.task? m = some task → task.isExpected = false) ∧
          ∀ e ∈ (step around s .handle).2,
            ∃ n, e = .scheduled (.created n) ∨ e = .scheduled (.cancelled n) := by
  have hconsistent : s.schedule.Consistent := hrun ▸ (reached_run around base es).consistent
  rw [handle_configured hpending]
  refine ⟨fun hnone => ?_, fun options e hsection hmerge => ?_,
    fun options fault hsection hmerge => ?_, fun options settings hsection hne hmerge hopen => ?_⟩
  · rcases hnone with hnone | hnone
    · simp only [configure, hnone]
    · simp only [configure, hnone]
  · exact configure_of_error (s := { s with pending := rest }) hsection hmerge
  · exact configure_of_error (s := { s with pending := rest }) hsection hmerge
  · obtain ⟨documents, huris, hsnapshots⟩ :=
      exists_snapshots fun uri huri => exists_snapshot_of_isOpen around (hopen uri huri)
    -- The new settings are in force before the first document is looked at.
    have hadopted : Schedule.Consistent { s.schedule with settings } :=
      hconsistent.configure settings
    have hnodup : (documents.map (·.uri)).Nodup := huris ▸ hconsistent.uris_nodup
    have hrenewed : Schedule.Renewed { s.schedule with settings } _ documents :=
      Schedule.renewed_scheduleAll hadopted hnodup fun document hmem =>
        huris ▸ List.mem_map_of_mem hmem
    have hsnapshots' : ∀ document ∈ documents,
        snapshot around { s with pending := rest, schedule := { s.schedule with settings } }
          document.uri = some document := fun document hmem =>
      (snapshot_congr around rfl document.uri).trans (hsnapshots document hmem)
    have hconfigure : configure around { s with pending := rest } payload =
        validateAll around { s with pending := rest, schedule := { s.schedule with settings } }
          (documents.map (·.uri)) := by
      cases options with
      | nil => exact absurd rfl hne
      | cons option more =>
        simp only [configure, hsection, hmerge, huris]
        rfl
    refine ⟨documents, _, huris, hsnapshots, ?_, hrenewed, fun m hm task htask => ?_,
      fun e he => ?_⟩
    · rw [hconfigure, validateAll_eq hsnapshots']
    · exact hrenewed.replaced (Schedule.consistent_scheduleAll hadopted documents) huris hm htask
    · exact of_mem_effects_validateAll hsnapshots' (hconfigure ▸ he)

end Configured

/-- A new name for the source of diagnostics, under one of the names of the section. -/
def newSource : Value :=
  .ofFields [("chalk", .ofFields [("source", .ofString "second")])]

/-- A document is opened, and new settings are sent before its validation has begun. -/
def interrupted : List Event :=
  [.receive (.started .null none none .null), .receive (.opened "untitled:a" (some 1) "text"),
    .handle, .receive (.configured newSource)]

/-- The document is validated again, under the new settings, and its first validation does not go
on. -/
theorem configured_whole_interrupted :
    ∃ s t, (run .calm (ofSettings {}) interrupted).1 = s ∧ s.pending = [.configured newSource] ∧
      (∀ uri ∈ s.schedule.trackedUris, s.isOpen uri = true) ∧
      s.schedule.trackedUris = ["untitled:a"] ∧ s.schedule.tasks.length = 1 ∧
      (step .calm s .handle).1 = { s with pending := [], schedule := t } ∧
      t.settings = { source := .ofString "second" } ∧ t.trackedUris = ["untitled:a"] ∧
      t.tasks.length = 2 ∧
      ∀ task, t.task? 0 = some task → task.isExpected = false := by
  have hpending : (run .calm (ofSettings {}) interrupted).1.pending = [.configured newSource] := rfl
  have hmerge : (run .calm (ofSettings {}) interrupted).1.schedule.settings.merge
      [(Json.CodePoints.ofString "source", .ofString "second")] =
        .ok { source := .ofString "second" } := by
    decide +kernel
  have hopen : ∀ uri ∈ (run .calm (ofSettings {}) interrupted).1.schedule.trackedUris,
      (run .calm (ofSettings {}) interrupted).1.isOpen uri = true := by
    decide +kernel
  have hfollowed : (run .calm (ofSettings {}) interrupted).1.schedule.trackedUris =
      ["untitled:a"] := by
    decide +kernel
  have htasks : (run .calm (ofSettings {}) interrupted).1.schedule.tasks.length = 1 := by
    decide +kernel
  obtain ⟨-, -, -, hforce⟩ := configured_whole rfl hpending
  obtain ⟨documents, t, huris, -, hstep, hrenewed, hreplaced, -⟩ :=
    hforce [(Json.CodePoints.ofString "source", .ofString "second")]
      { source := .ofString "second" } rfl (List.cons_ne_nil _ _) hmerge hopen
  have hlength : documents.length = 1 := by
    rw [← List.length_map (·.uri), huris, hfollowed, List.length_singleton]
  refine ⟨_, t, rfl, hpending, hopen, hfollowed, htasks, hstep, hrenewed.settings,
    hrenewed.uris.trans hfollowed, ?_, hreplaced 0 (htasks ▸ Nat.one_pos)⟩
  rw [hrenewed.length, hlength, htasks]

end Session

end LintBridge
