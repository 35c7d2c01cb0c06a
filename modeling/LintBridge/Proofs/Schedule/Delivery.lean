import LintBridge.Proofs.Schedule.Escape
import LintBridge.Proofs.Schedule.Tracking

/-!
# The set that counts as published

The set of a document that counts as published (`LintBridge.Schedule.published`) is written down
before it is handed over, and the receiver may refuse it. So **it is the set that was handed over
last, delivered or not**, since the document began to be followed, and where the receiver has
refused that one, the set that was delivered last may be another.

* `LintBridge.Schedule.deliveriesOf` – the publications of a document that were delivered, next to
  all that were handed over (`LintBridge.Schedule.publicationsOf`);
* `LintBridge.Schedule.published_step` – the set that counts as published changes only with what is
  handed over: a failure, a cancellation and an outdated result leave it as it is;
* `LintBridge.Schedule.published_last_handed` – the same along a run, with the exact condition under
  which the set that counts as published is the one delivered last.
-/

namespace LintBridge

namespace Schedule

/-! ### What is delivered -/

/-- The publication that is delivered with an effect. -/
def Effect.delivery? : Effect → Option Publication
  | .published p => some p
  | _ => none

/-- The publications among several effects that were delivered. -/
def deliveries (effects : List Effect) : List Publication :=
  effects.filterMap Effect.delivery?

/-- The publications of a document that were delivered. -/
def deliveriesOf (uri : String) (effects : List Effect) : List Publication :=
  (deliveries effects).filter (·.uri == uri)

/-- Whether a publication can be delivered. -/
def Surroundings.delivers (around : Surroundings) (p : Publication) : Bool :=
  (around.deliver p).isOk

section Delivery

variable (around : Surroundings) (s : Schedule)

@[simp] theorem deliveries_append (effects effects' : List Effect) :
    deliveries (effects ++ effects') = deliveries effects ++ deliveries effects' :=
  List.filterMap_append

/-- Where nothing is handed over, nothing is delivered. -/
theorem deliveries_of_silent {effects : List Effect} (h : publications effects = []) :
    deliveries effects = [] := by
  refine List.filterMap_eq_nil_iff.mpr fun effect hmem => ?_
  have hnone := List.filterMap_eq_nil_iff.mp h effect hmem
  cases effect with
  | published p => cases hnone
  | _ => rfl

/-- A publication that is sent is delivered if it can be. -/
theorem deliveries_send (p : Publication) :
    deliveries (send around p) = [p].filter around.delivers := by
  unfold send
  cases h : around.deliver p with
  | ok _ =>
    simp [deliveries, Effect.delivery?, Surroundings.delivers, h, Except.isOk, Except.toBool]
  | error m =>
    simp [deliveries, Effect.delivery?, Surroundings.delivers, h, Except.isOk, Except.toBool]

theorem deliveries_close (uri : String) :
    deliveries (close around s uri).2 = [clearing uri].filter around.delivers := by
  have hsend := deliveries_send around (clearing uri)
  simp only [close]
  cases (s.tracked? uri).bind (·.pending) with
  | none => exact hsend
  | some n =>
    rw [deliveries_append, deliveries_of_silent (publications_cancel _ n)]
    exact hsend

theorem deliveries_complete (n : Nat) (answer : Except Mishap ToolOutput) :
    deliveries (complete around s n answer).2 =
      (publications (complete around s n answer).2).filter around.delivers := by
  have hlog : ∀ log : List LogEntry, deliveries (log.map Effect.logged) = [] := fun log =>
    deliveries_of_silent (publications_logged log)
  by_cases hlint : ∃ t pass, s.task? n = some t ∧ t.stage = .linting pass
  · obtain ⟨t, pass, ht, hs⟩ := hlint
    generalize hx : complete around s n answer = x
    have hcases := complete_cases around answer ht hs
    rw [hx] at hcases
    cases hcases with
    | cancelled => rfl
    | failed =>
      rw [deliveries_append, hlog, publications_append, publications_logged]
      rfl
    | outdated =>
      rw [hlog, publications_logged]
      rfl
    | published _ _ _ _ outcome | undelivered _ _ _ _ _ outcome =>
      rw [deliveries_append, hlog, publications_append, publications_logged]
      simp [deliveries, Effect.delivery?, publications, Effect.publication?,
        Surroundings.delivers, outcome, Except.isOk, Except.toBool]
  · rw [complete_of_not_linting around answer fun t pass ht hs => hlint ⟨t, pass, ht, hs⟩]
    rfl

/-- **What is handed over with a step is delivered if it can be.** -/
theorem deliveries_step (e : Event) :
    deliveries (step around s e).2 = (publications (step around s e).2).filter around.delivers := by
  have hsilent : publications (step around s e).2 = [] → deliveries (step around s e).2 =
      (publications (step around s e).2).filter around.delivers := by
    intro h
    rw [deliveries_of_silent h, h, List.filter_nil]
  cases e with
  | schedule document delay => exact hsilent (publications_schedule s document delay)
  | validate | configure | moveTo => exact hsilent rfl
  | close uri =>
    rw [step, deliveries_close, publications_close]
    rfl
  | shutdown => exact hsilent (publications_cancelAll s _)
  | resume n => exact hsilent (publications_resume around s n)
  | complete n answer => exact deliveries_complete around s n answer

/-- **What is handed over in a run is delivered if it can be.** -/
theorem deliveries_run (es : List Event) :
    deliveries (run around s es).2 = (publications (run around s es).2).filter around.delivers := by
  induction es generalizing s with
  | nil => rfl
  | cons e rest ih =>
    simp only [run, deliveries_append, publications_append, List.filter_append]
    rw [deliveries_step, ih]

theorem deliveriesOf_run (uri : String) (es : List Event) :
    deliveriesOf uri (run around s es).2 =
      (publicationsOf uri (run around s es).2).filter around.delivers := by
  simp only [deliveriesOf, publicationsOf, deliveries_run, List.filter_filter, Bool.and_comm]

end Delivery

/-! ### What counts as published -/

section Published

variable (around : Surroundings) (s : Schedule)

theorem published_of_untracked {s : Schedule} {uri : String} (h : uri ∉ s.trackedUris) :
    s.published uri = none := by
  rw [published, untracked_iff.mp h, Option.bind_none]

@[simp] theorem published_schedule (document : Document) (delay : Option Binary64) (v : String) :
    (s.schedule document delay).1.published v = s.published v := by
  unfold published
  rw [tracked?_schedule]
  by_cases hv : v = document.uri
  · subst hv
    rw [if_pos rfl]
    cases hd : s.tracked? document.uri with
    | none => simp [scheduledEntry, entry_of_untracked hd]
    | some d => simp [scheduledEntry, entry_of_tracked hd]
  · rw [if_neg hv]

@[simp] theorem published_resume (n : Nat) (v : String) :
    (resume around s n).1.published v = s.published v := by
  cases ht : s.task? n with
  | none => rw [resume_of_absent around ht]
  | some t =>
    generalize hx : resume around s n = x
    have hcases := resume_cases around ht
    rw [hx] at hcases
    cases hcases <;> simp [finish]

theorem published_record {s : Schedule} {uri : String} {d : Tracked}
    (hd : s.tracked? uri = some d) (records : List Record) :
    (s.record uri records).published uri = some records := by
  rw [published, tracked?_record, if_pos rfl, hd]
  rfl

theorem published_record_of_ne (uri : String) {v : String} (hv : v ≠ uri)
    (records : List Record) : (s.record uri records).published v = s.published v := by
  rw [published, tracked?_record, if_neg hv]
  rfl

/-- A validation that hands a set over writes it down, whatever becomes of it. -/
theorem published_complete (n : Nat) (answer : Except Mishap ToolOutput) (uri : String) :
    (complete around s n answer).1.published uri =
      ((publicationsOf uri (complete around s n answer).2).getLast?.map (·.records)).or
        (s.published uri) := by
  by_cases hlint : ∃ t pass, s.task? n = some t ∧ t.stage = .linting pass
  · obtain ⟨t, pass, ht, hs⟩ := hlint
    -- The one publication that may be there is one of the document, or of another one.
    have hrecorded : ∀ records, s.isCurrent t.document.uri pass.life pass.sequence = true →
        ((s.leave t.document.uri pass.life).record t.document.uri records).published uri =
          (([publicationOf t.document records].filter (·.uri == uri)).getLast?.map (·.records)).or
            (s.published uri) := by
      intro records current
      by_cases hu : t.document.uri = uri
      · subst hu
        obtain ⟨d, hd, -⟩ := isCurrent_iff.mp current
        have hd' := tracked?_leave s t.document.uri t.document.uri pass.life
        rw [if_pos rfl, hd] at hd'
        rw [published_record hd']
        simp [publicationOf]
      · rw [published_record_of_ne _ _ (Ne.symm hu), published_leave]
        simp [publicationOf, hu]
    generalize hx : complete around s n answer = x
    have hcases := complete_cases around answer ht hs
    rw [hx] at hcases
    cases hcases with
    | cancelled => exact published_leave s _ _ _
    | failed =>
      rw [publicationsOf, publications_append, publications_logged]
      exact published_leave s _ _ _
    | outdated =>
      rw [publicationsOf, publications_logged]
      exact published_leave s _ _ _
    | published records _ _ current | undelivered records _ _ _ current =>
      rw [publicationsOf, publications_append, publications_logged]
      exact hrecorded records current
  · rw [complete_of_not_linting around answer fun t pass ht hs => hlint ⟨t, pass, ht, hs⟩]
    rfl

/-- **The set that counts as published changes only with what is handed over**, unless the document
is closed. -/
theorem published_step {e : Event} {uri : String} (hcloses : e.closes uri = false) :
    (step around s e).1.published uri =
      ((publicationsOf uri (step around s e).2).getLast?.map (·.records)).or (s.published uri) := by
  cases e with
  | schedule document delay => simp [step, publicationsOf]
  | validate | configure | moveTo => rfl
  | close u =>
    have hu : u ≠ uri := by simpa [Event.closes] using hcloses
    rw [step, published, tracked?_close, if_neg (Ne.symm hu), publicationsOf, publications_close]
    simp [hu, published]
  | shutdown =>
    have hsilent : publications s.shutdown.2 = [] := publications_cancelAll s _
    rw [step, published, tracked?_shutdown, publicationsOf, hsilent]
    rfl
  | resume n => simp [step, publicationsOf]
  | complete n answer => exact published_complete around s n answer uri

/-- **As long as a document is not closed, the set that was handed over last counts as published.**
-/
theorem published_run {es : List Event} {uri : String} (hes : ∀ e ∈ es, e.closes uri = false) :
    (run around s es).1.published uri =
      ((publicationsOf uri (run around s es).2).getLast?.map (·.records)).or (s.published uri) := by
  induction es generalizing s with
  | nil => rfl
  | cons e rest ih =>
    obtain ⟨he, hrest⟩ := List.forall_mem_cons.mp hes
    rw [run, ih _ hrest, published_step around s he, publicationsOf_append, List.getLast?_append,
      Option.map_or, Option.or_assoc]

end Published

/-! ### Since a document is followed -/

section Since

variable (around : Surroundings)

theorem Event.names_of_closes {s : Schedule} {uri : String} {e : Event}
    (h : e.closes uri = true) : e.names s uri = false := by
  cases e with
  | close u => rfl
  | _ => cases h

/-- **A document that is followed began to be so with an event**, and has not been closed since. -/
theorem exists_begun (settings : Settings) (workspace : Option Path) {es : List Event}
    {uri : String} (h : uri ∈ (run around { settings, workspace } es).1.trackedUris) :
    ∃ before e after, es = before ++ e :: after ∧
      uri ∉ (run around { settings, workspace } before).1.trackedUris ∧
      e.names (run around { settings, workspace } before).1 uri = true ∧
      ∀ e' ∈ after, e'.closes uri = false := by
  induction es using List.reverseRecOn with
  | nil => simp [run, trackedUris] at h
  | append_singleton es e ih =>
    have hc := (consistent_empty settings workspace).run around es
    rw [run_snoc] at h
    have hstep := (mem_trackedUris_step around hc e).mp h
    rw [exists_split_snoc]
    -- It was followed before the last event, or is so since it.
    by_cases hbefore : uri ∈ (run around { settings, workspace } es).1.trackedUris
    · have hcloses : e.closes uri = false := by
        refine hstep.elim (fun hnames => Bool.eq_false_iff.mpr fun hcloses => ?_) (·.2)
        rw [Event.names_of_closes hcloses] at hnames
        cases hnames
      obtain ⟨before, e', after, heq, hnot, hnames, hafter⟩ := ih hbefore
      refine .inr ⟨before, e', after, heq, hnot, hnames, fun e'' he'' => ?_⟩
      rcases List.mem_append.mp he'' with he'' | he''
      · exact hafter e'' he''
      · rw [List.mem_singleton.mp he'']
        exact hcloses
    · refine .inl ⟨hbefore, ?_, by simp⟩
      exact hstep.resolve_right fun hstill => hbefore hstill.1

/-- The last of several publications is the last one that can be delivered, or it cannot be. -/
theorem getLast?_filter_eq_iff {α β : Type} (f : α → β) (keep : α → Bool) (xs : List α) :
    xs.getLast?.map f = (xs.filter keep).getLast?.map f ↔
      ∀ x, xs.getLast? = some x →
        keep x = true ∨ (xs.filter keep).getLast?.map f = some (f x) := by
  rcases List.eq_nil_or_concat xs with rfl | ⟨init, last, rfl⟩
  · simp
  · rw [List.concat_eq_append, List.filter_append, List.getLast?_concat]
    by_cases hlast : keep last = true
    · simp [hlast]
    · constructor
      · rintro h x ⟨⟩
        exact .inr h.symm
      · intro h
        exact ((h last rfl).resolve_left hlast).symm

/-- **The set that counts as published is the one that was handed over last**, delivered or not.
Let a document be followed at the end of a run. It began to be followed with one of the events and
has not been closed since, and

* the set that counts as published is that of the last publication of it that was handed over from
  then on; there is none if none was;
* that is the set of the last publication which was delivered exactly if the last one that was
  handed over could be delivered, or holds the same records;
* a step with which nothing of the document is handed over, and which does not close it, leaves the
  set that counts as published as it is. -/
theorem published_last_handed (settings : Settings) (workspace : Option Path) {es : List Event}
    {uri : String} (h : uri ∈ (run around { settings, workspace } es).1.trackedUris) :
    (∃ before e after, es = before ++ e :: after ∧
      uri ∉ (run around { settings, workspace } before).1.trackedUris ∧
      e.names (run around { settings, workspace } before).1 uri = true ∧
      (∀ e' ∈ after, e'.closes uri = false) ∧
      (run around { settings, workspace } es).1.published uri =
        (publicationsOf uri (run around (run around { settings, workspace } before).1
          (e :: after)).2).getLast?.map (·.records) ∧
      ((run around { settings, workspace } es).1.published uri =
          (deliveriesOf uri (run around (run around { settings, workspace } before).1
            (e :: after)).2).getLast?.map (·.records) ↔
        ∀ p, (publicationsOf uri (run around (run around { settings, workspace } before).1
            (e :: after)).2).getLast? = some p →
          around.delivers p = true ∨
            (deliveriesOf uri (run around (run around { settings, workspace } before).1
              (e :: after)).2).getLast?.map (·.records) = some p.records)) ∧
    ∀ s e, e.closes uri = false → publicationsOf uri (step around s e).2 = [] →
      (step around s e).1.published uri = s.published uri := by
  refine ⟨?_, fun s e hcloses hsilent => ?_⟩
  · obtain ⟨before, e, after, rfl, hnot, hnames, hafter⟩ := exists_begun around settings workspace h
    have hcloses : ∀ e' ∈ e :: after, e'.closes uri = false := by
      refine List.forall_mem_cons.mpr ⟨Bool.eq_false_iff.mpr fun he => ?_, hafter⟩
      rw [Event.names_of_closes he] at hnames
      cases hnames
    have hpublished : (run around { settings, workspace } (before ++ e :: after)).1.published uri =
        (publicationsOf uri (run around (run around { settings, workspace } before).1
          (e :: after)).2).getLast?.map (·.records) := by
      rw [run_append, published_run around _ hcloses, published_of_untracked hnot, Option.or_none]
    refine ⟨before, e, after, rfl, hnot, hnames, hafter, hpublished, ?_⟩
    rw [hpublished, deliveriesOf_run]
    exact getLast?_filter_eq_iff _ _ _
  · rw [published_step around s hcloses, hsilent]
    rfl

end Since

/-! ### A set that the editor cannot be told -/

/-- The linter finds something on a line that has no number in the protocol. -/
def remoteFinding : ToolOutput where
  stdout := "\x7b\"errors\":[\x7b\"message\":\"m\",\"range\":\x7b\"start\":" ++
    "\x7b\"line\":2147483648\x7d\x7d\x7d]\x7d"
  exitCode := some 1

/-- A document is validated twice, and what is found the second time cannot be delivered. -/
def undelivering : List Event :=
  [.schedule (app 1) (some (.ofInt 0)), .resume 0, .complete 0 (.ok { exitCode := some 0 }),
    .schedule (app 2) (some (.ofInt 0)), .resume 1, .complete 1 (.ok remoteFinding)]

/-- The set that cannot be delivered counts as published. -/
theorem published_last_handed_undelivering :
    "file:///app.py" ∈ (run (.editor {}) { settings := { projectMarkers := [] } }
        undelivering).1.trackedUris ∧
      ((run (.editor {}) { settings := { projectMarkers := [] } } undelivering).1.published
        "file:///app.py").map List.length = some 1 ∧
      (deliveriesOf "file:///app.py" (run (.editor {}) { settings := { projectMarkers := [] } }
        undelivering).2).map (·.records) = [[]] ∧
      ∃ before e after, undelivering = before ++ e :: after ∧
        (run (.editor {}) { settings := { projectMarkers := [] } } undelivering).1.published
            "file:///app.py" =
          (publicationsOf "file:///app.py" (run (.editor {})
            (run (.editor {}) { settings := { projectMarkers := [] } } before).1
            (e :: after)).2).getLast?.map (·.records) := by
  have htracked : "file:///app.py" ∈ (run (.editor {}) { settings := { projectMarkers := [] } }
      undelivering).1.trackedUris := by decide +kernel
  obtain ⟨⟨before, e, after, heq, -, -, -, hpublished, -⟩, -⟩ :=
    published_last_handed (.editor {}) { projectMarkers := [] } none htracked
  exact ⟨htracked, by decide +kernel, by decide +kernel, before, e, after, heq, hpublished⟩

/-- **The set that counts as published need not be the one that was delivered last.** -/
theorem not_published_last_delivered : ¬ ∀ (host : Host) (settings : Settings)
    (workspace : Option Path) (before : List Event) (e : Event) (after : List Event) (uri : String),
    uri ∉ (run (.editor host) { settings, workspace } before).1.trackedUris →
    e.names (run (.editor host) { settings, workspace } before).1 uri = true →
    (∀ e' ∈ after, e'.closes uri = false) →
      (run (.editor host) { settings, workspace } (before ++ e :: after)).1.published uri =
        (deliveriesOf uri (run (.editor host) (run (.editor host) { settings, workspace } before).1
          (e :: after)).2).getLast?.map (·.records) := by
  intro h
  have hlast := h {} { projectMarkers := [] } none [] (.schedule (app 1) (some (.ofInt 0)))
    undelivering.tail "file:///app.py" (by decide +kernel) (by decide +kernel) (by decide +kernel)
  revert hlast
  decide +kernel

end Schedule

end LintBridge
