import LintBridge.Proofs.Schedule.Latest

/-!
# Publications in the order of issue

What the numbers of a schedule are worth shows in the chronicle of a run. Two things hold between
the two (`LintBridge.Schedule.Attributed`, `LintBridge.Schedule.Numbered`), and as long as they do,
every mark that is added to the chronicle fits those before it (`LintBridge.Schedule.Mark.Fits`):

* a number is issued for a task that had none;
* a set is handed over by the task with the standing number of its document, which has handed over
  nothing before, and it carries the URI and the version of the document that the task was asked to
  validate.

Of a chronicle in which all marks fit (`LintBridge.Schedule.InOrder`) the rest is read off: the
tasks that publish a document are among those that numbers were issued for, each at most once and
in the same order. `LintBridge.Schedule.publications_latest` puts it together for every run.
-/

namespace LintBridge

namespace Schedule

/-! ### Tasks and marks -/

/-- **What the chronicle has to do with the tasks.** -/
structure Attributed (s : Schedule) (H : List Mark) : Prop where
  /-- The documents asked for are those of the tasks. -/
  asked : ∀ n document, .asked n document ∈ H ↔ ∃ t, s.task? n = some t ∧ t.document = document
  /-- No task has a number that was not issued for it. -/
  unnumbered : ∀ n t, s.task? n = some t → t.isScheduled = false → t.sequence? = none
  /-- A number is issued for a task when it is scheduled, or else when it begins. -/
  issued : ∀ n uri k, .issued n uri k ∈ H →
    ∃ t, s.task? n = some t ∧ (t.isScheduled = true ∨ t.isWaiting = false)
  /-- A task that has handed over a set is over. -/
  handed : ∀ n k p, .handed n k p ∈ H → ∃ t, s.task? n = some t ∧ t.isDone = true

section Attributed

variable (around : Surroundings) {s : Schedule} {H : List Mark}

theorem Attributed.empty (settings : Settings) (workspace : Option Path) :
    Attributed { settings, workspace } [] where
  asked n document := by
    constructor
    · intro h
      cases h
    · rintro ⟨t, ht, -⟩
      cases ht
  unnumbered _ _ h := by cases h
  issued _ _ _ h := by cases h
  handed _ _ _ h := by cases h

/-- A task that is asked for is there after the step. -/
theorem task?_of_asked {e : Event} {n : Nat} {document : Document}
    (h : .asked n document ∈ marks around s e) :
    ∃ t, (step around s e).1.task? n = some t ∧ t.document = document := by
  cases e with
  | schedule document' delay =>
    rw [marks_schedule] at h
    obtain ⟨rfl, rfl⟩ : n = s.tasks.length ∧ document = document' := by simpa using h
    exact ⟨_, (task?_schedule s document delay _).trans (if_pos rfl), rfl⟩
  | validate document' sequence =>
    rw [marks_validate] at h
    obtain ⟨rfl, rfl⟩ : n = s.tasks.length ∧ document = document' := by simpa using h
    exact ⟨_, (task?_validate s document _ sequence).trans (if_pos rfl), rfl⟩
  | close uri => simp [marks_close] at h
  | shutdown => simp [marks_shutdown] at h
  | configure settings => simp [marks_configure] at h
  | moveTo workspace => simp [marks_moveTo] at h
  | resume m =>
    cases ht : s.task? m with
    | none => simp [marks_resume_of_absent around s ht] at h
    | some t =>
      rw [marks_resume around ht] at h
      unfold issues at h
      split at h
      · split at h <;> simp at h
      · cases h
  | complete m answer =>
    rcases marks_complete_cases around s m answer with hnil | ⟨_, _, _, -, -, -, hmarks⟩
    · rw [hnil] at h
      cases h
    · rw [hmarks] at h
      simp at h

/-- A task that a number is issued for was scheduled or has begun. -/
theorem task?_of_issued (hc : Consistent s)
    (hun : ∀ n t, s.task? n = some t → t.isScheduled = false → t.sequence? = none) {e : Event}
    {n : Nat} {uri : String} {k : Int} (h : .issued n uri k ∈ marks around s e) :
    (∀ t, s.task? n = some t → t.isScheduled = false ∧ t.isWaiting = true) ∧
      ∃ t', (step around s e).1.task? n = some t' ∧
        (t'.isScheduled = true ∨ t'.isWaiting = false) := by
  cases e with
  | schedule document delay =>
    rw [marks_schedule] at h
    obtain ⟨rfl, -, -⟩ : n = s.tasks.length ∧ _ := by simpa using h
    refine ⟨fun t ht => absurd (task?_lt ht) (Nat.lt_irrefl _), s.scheduledTask document delay,
      ?_, .inl rfl⟩
    exact (task?_schedule s document delay _).trans (if_pos rfl)
  | validate document sequence => simp [marks_validate] at h
  | close uri => simp [marks_close] at h
  | shutdown => simp [marks_shutdown] at h
  | configure settings => simp [marks_configure] at h
  | moveTo workspace => simp [marks_moveTo] at h
  | resume m =>
    cases ht : s.task? m with
    | none => simp [marks_resume_of_absent around s ht] at h
    | some t =>
      rw [marks_resume around ht] at h
      rcases resume_numbers around hc ht (hun m t ht) with
        ⟨hkeeps, -⟩ | ⟨hsch, hw, d', t', hd', -, hnext, ht', hw', -⟩
      · rw [issues_of_keeps hkeeps] at h
        cases h
      · rw [issues_of_lt m hd' (by omega)] at h
        obtain ⟨rfl, -, -⟩ : n = m ∧ _ := by simpa using h
        refine ⟨fun t₀ ht₀ => ?_, t', ht', .inr hw'⟩
        obtain rfl : t = t₀ := Option.some.inj (ht.symm.trans ht₀)
        exact ⟨hsch, hw⟩
  | complete m answer =>
    rcases marks_complete_cases around s m answer with hnil | ⟨_, _, _, -, -, -, hmarks⟩
    · rw [hnil] at h
      cases h
    · rw [hmarks] at h
      simp at h

/-- A set is handed over by a task that has called the linter, for the document that it was asked
to validate. -/
theorem task?_of_handed {e : Event} {n : Nat} {k : Int} {p : Publication}
    (h : .handed n k p ∈ marks around s e) :
    ∃ answer t pass records, e = .complete n answer ∧ s.task? n = some t ∧
      t.stage = .linting pass ∧ s.isCurrent t.document.uri pass.life pass.sequence = true ∧
      k = pass.sequence ∧ p = publicationOf t.document records := by
  cases e with
  | schedule document delay => simp [marks_schedule] at h
  | validate document sequence => simp [marks_validate] at h
  | close uri => simp [marks_close] at h
  | shutdown => simp [marks_shutdown] at h
  | configure settings => simp [marks_configure] at h
  | moveTo workspace => simp [marks_moveTo] at h
  | resume m =>
    cases ht : s.task? m with
    | none => simp [marks_resume_of_absent around s ht] at h
    | some t =>
      rw [marks_resume around ht] at h
      unfold issues at h
      split at h
      · split at h <;> simp at h
      · cases h
  | complete m answer =>
    rcases marks_complete_cases around s m answer with
      hnil | ⟨t, pass, records, ht, hs, hcur, hmarks⟩
    · rw [hnil] at h
      cases h
    · rw [hmarks] at h
      obtain ⟨rfl, rfl, rfl⟩ :
          n = m ∧ k = pass.sequence ∧ p = publicationOf t.document records := by simpa using h
      exact ⟨answer, t, pass, records, rfl, ht, hs, hcur, rfl, rfl⟩

/-- **Every step keeps tasks and marks together**, if it brings no number from outside. -/
theorem Attributed.step (h : Attributed s H) (hc : Consistent s) {e : Event}
    (he : e.isUnnumbered = true) :
    Attributed (Schedule.step around s e).1 (H ++ marks around s e) where
  asked n document := by
    rw [List.mem_append]
    constructor
    · rintro (hold | hnew)
      · obtain ⟨t, ht, hdoc⟩ := (h.asked n document).mp hold
        obtain ⟨t', ht', hp⟩ := step_progress around e ht
        exact ⟨t', ht', hp.document.trans hdoc⟩
      · exact task?_of_asked around hnew
    · rintro ⟨t', ht', rfl⟩
      rcases step_task_before around e ht' with
        ⟨t, ht, hp⟩ | ⟨rfl, ⟨document, delay, rfl, rfl⟩ | ⟨document, sequence, rfl, rfl⟩⟩
      · exact .inl ((h.asked n _).mpr ⟨t, ht, hp.document.symm⟩)
      · rw [marks_schedule]
        exact .inr List.mem_cons_self
      · rw [marks_validate]
        exact .inr List.mem_cons_self
  unnumbered n t' ht' hsch := by
    rcases step_task_before around e ht' with
      ⟨t, ht, hp⟩ | ⟨rfl, ⟨document, delay, rfl, rfl⟩ | ⟨document, sequence, rfl, rfl⟩⟩
    · rw [hp.sequence?]
      exact h.unnumbered n t ht (hp.isScheduled ▸ hsch)
    · cases hsch
    · cases sequence with
      | none => rfl
      | some k => cases he
  issued n uri k hmem := by
    rcases List.mem_append.mp hmem with hold | hnew
    · obtain ⟨t, ht, hor⟩ := h.issued n uri k hold
      obtain ⟨t', ht', hp⟩ := step_progress around e ht
      refine ⟨t', ht', hor.imp (fun hsch => hp.isScheduled.trans hsch) fun hw => ?_⟩
      rw [← Bool.not_eq_true] at hw ⊢
      exact fun hw' => hw (hp.waiting hw')
    · exact (task?_of_issued around hc h.unnumbered hnew).2
  handed n k p hmem := by
    rcases List.mem_append.mp hmem with hold | hnew
    · obtain ⟨t, ht, hd⟩ := h.handed n k p hold
      obtain ⟨t', ht', hp⟩ := step_progress around e ht
      exact ⟨t', ht', hp.done hd⟩
    · obtain ⟨answer, t, pass, -, rfl, ht, hs, -⟩ := task?_of_handed around hnew
      obtain ⟨outcome, hdone⟩ := done_complete around answer ht hs
      exact ⟨_, hdone, rfl⟩

end Attributed

/-! ### Marks that fit -/

/-- **Whether a mark fits those before it.** -/
def Mark.Fits (H : List Mark) : Mark → Prop
  | .issued n uri _ => n ∉ issuedTasks uri H
  | .handed n k p =>
    standing p.uri H = some (n, k) ∧ (∀ k' p', .handed n k' p' ∉ H) ∧
      ∃ document, (∀ d, .asked n d ∈ H ↔ d = document) ∧
        p.uri = document.uri ∧ p.version = document.version
  | _ => True

/-- A chronicle in which every mark fits those before it. -/
inductive InOrder : List Mark → Prop where
  /-- Nothing has happened. -/
  | nil : InOrder []
  /-- A mark is added. -/
  | snoc {H : List Mark} {m : Mark} (h : InOrder H) (fits : m.Fits H) : InOrder (H ++ [m])

namespace InOrder

variable {H : List Mark}

/-- Each mark fits those before it. -/
theorem fits (h : InOrder H) {before after : List Mark} {m : Mark}
    (heq : H = before ++ m :: after) : m.Fits before := by
  induction h generalizing before after with
  | nil => simp at heq
  | @snoc H' m' h' hfits ih =>
    rcases List.eq_nil_or_concat after with rfl | ⟨rest, last, rfl⟩
    · obtain ⟨rfl, rfl⟩ : H' = before ∧ m' = m := by simpa using heq
      exact hfits
    · have hinit : H' ++ [m'] = (before ++ m :: rest) ++ [last] := by simpa using heq
      exact ih (List.append_inj_left' hinit rfl)

/-- No task is issued two numbers. -/
theorem issued_nodup (h : InOrder H) (uri : String) : (issuedTasks uri H).Nodup := by
  induction h with
  | nil => exact List.nodup_nil
  | @snoc H' m h' hfits ih =>
    have hsame : ∀ hnone : m.issuedTask? uri = none, (issuedTasks uri (H' ++ [m])).Nodup := by
      intro hnone
      have heq : issuedTasks uri (H' ++ [m]) = issuedTasks uri H' := by
        simp [issuedTasks, hnone]
      exact heq ▸ ih
    cases m with
    | issued n u k =>
      by_cases hu : u = uri
      · subst hu
        have hissued : issuedTasks u (H' ++ [.issued n u k]) = issuedTasks u H' ++ [n] := by
          simp [issuedTasks, Mark.issuedTask?]
        rw [hissued]
        refine List.nodup_append.mpr ⟨ih, by simp, fun a ha b hb hab => hfits ?_⟩
        obtain rfl : b = n := List.mem_singleton.mp hb
        exact hab ▸ ha
      · exact hsame (if_neg hu)
    | asked | closed | handed => exact hsame rfl

/-- **The tasks that hand over sets of a document come in the order of issue.** -/
theorem handed_sublist (h : InOrder H) (uri : String) :
    (handedTasks uri H).Sublist (issuedTasks uri H) := by
  induction h with
  | nil => exact List.Sublist.refl _
  | @snoc H' m h' hfits ih =>
    have hmono : (issuedTasks uri H').Sublist (issuedTasks uri (H' ++ [m])) :=
      (List.sublist_append_left H' [m]).filterMap _
    have hsame : ∀ hnone : m.handedTask? uri = none,
        (handedTasks uri (H' ++ [m])).Sublist (issuedTasks uri (H' ++ [m])) := by
      intro hnone
      have heq : handedTasks uri (H' ++ [m]) = handedTasks uri H' := by
        simp [handedTasks, hnone]
      exact heq ▸ ih.trans hmono
    cases m with
    | handed n k p =>
      by_cases hu : p.uri = uri
      · subst hu
        obtain ⟨hstanding, hfresh, -⟩ := hfits
        have hnot : n ∉ handedTasks p.uri H' := by
          intro hmem
          obtain ⟨k', p', hmem, -⟩ := mem_handedTasks.mp hmem
          exact hfresh k' p' hmem
        obtain ⟨earlier, hearlier⟩ := issuedTasks_of_standing hstanding
        have hhanded : handedTasks p.uri (H' ++ [.handed n k p]) = handedTasks p.uri H' ++ [n] := by
          simp [handedTasks, Mark.handedTask?]
        refine List.Sublist.trans ?_ hmono
        rw [hhanded, hearlier]
        -- The task is the last that a number was issued for, and it has handed over nothing yet.
        rw [hearlier] at ih
        obtain ⟨l₁, l₂, hl, h₁, h₂⟩ := List.sublist_append_iff.mp ih
        have hnil : l₂ = [] := by
          rcases List.sublist_singleton.mp h₂ with rfl | rfl
          · rfl
          · exact absurd (hl ▸ List.mem_append_right _ List.mem_cons_self) hnot
        rw [hl, hnil, List.append_nil]
        exact h₁.append (List.Sublist.refl [n])
      · exact hsame (if_neg hu)
    | asked | issued | closed => exact hsame rfl

end InOrder

/-! ### Every run -/

section Runs

variable (around : Surroundings) {s : Schedule} {H : List Mark}

/-- **Every step adds marks that fit.** -/
theorem InOrder.step (h : InOrder H) (hc : Consistent s) (hnum : Numbered s H)
    (hatt : Attributed s H) (e : Event) : InOrder (H ++ marks around s e) := by
  cases e with
  | schedule document delay =>
    rw [marks_schedule, List.append_cons]
    refine (h.snoc (m := .asked _ _) trivial).snoc fun hmem => ?_
    -- No number has been issued for the new task, as it was none before.
    obtain ⟨k, hmem⟩ := mem_issuedTasks.mp hmem
    have hold : .issued s.tasks.length document.uri k ∈ H := by simpa using hmem
    obtain ⟨t, ht, -⟩ := hatt.issued _ _ _ hold
    exact Nat.lt_irrefl _ (task?_lt ht)
  | validate document sequence =>
    rw [marks_validate]
    exact h.snoc trivial
  | close uri =>
    rw [marks_close]
    exact h.snoc trivial
  | shutdown =>
    rw [marks_shutdown, List.append_nil]
    exact h
  | configure settings =>
    rw [marks_configure, List.append_nil]
    exact h
  | moveTo workspace =>
    rw [marks_moveTo, List.append_nil]
    exact h
  | resume n =>
    -- A task that is resumed is issued a number only if it has none and has not begun.
    have hissued : ∀ m ∈ marks around s (.resume n), m.Fits H := by
      intro m hm
      cases m with
      | issued n' uri k =>
        have hfree := (task?_of_issued around hc hatt.unnumbered hm).1
        intro hmem
        obtain ⟨k', hmem⟩ := mem_issuedTasks.mp hmem
        obtain ⟨t, ht, hor⟩ := hatt.issued n' uri k' hmem
        obtain ⟨hsch, hw⟩ := hfree t ht
        rcases hor with hsch' | hw'
        · rw [hsch] at hsch'
          cases hsch'
        · rw [hw] at hw'
          cases hw'
      | handed n' k p =>
        obtain ⟨answer, _, _, _, he, -⟩ := task?_of_handed around hm
        cases he
      | asked | closed => trivial
    cases ht : s.task? n with
    | none =>
      rw [marks_resume_of_absent around s ht, List.append_nil]
      exact h
    | some t =>
      rw [marks_resume around ht] at hissued ⊢
      unfold issues at hissued ⊢
      split
      · rename_i d' hd'
        rw [hd'] at hissued
        split
        · rename_i hlt
          simp only [if_pos hlt] at hissued
          exact h.snoc (hissued _ List.mem_cons_self)
        · rw [List.append_nil]
          exact h
      · rw [List.append_nil]
        exact h
  | complete n answer =>
    rcases marks_complete_cases around s n answer with
      hnil | ⟨t, pass, records, ht, hs, hcur, hmarks⟩
    · rw [hnil, List.append_nil]
      exact h
    · rw [hmarks]
      obtain ⟨d, hd, hl, hq⟩ := isCurrent_iff.mp hcur
      -- The number is the standing one, the task has handed over nothing and keeps its document.
      refine h.snoc ⟨?_, ?_, t.document, ?_, rfl, rfl⟩
      · have hcont : t.Contends d.life pass.sequence := .inl ⟨pass, hs, hl.symm, rfl⟩
        exact (hnum.contends n t d pass.sequence ht hd hcont).2 hq
      · intro k' p' hmem
        obtain ⟨t', ht', hdone⟩ := hatt.handed n k' p' hmem
        obtain rfl : t = t' := Option.some.inj (ht.symm.trans ht')
        simp [Task.isDone, hs] at hdone
      · intro d'
        rw [hatt.asked]
        constructor
        · rintro ⟨t', ht', rfl⟩
          obtain rfl : t = t' := Option.some.inj (ht.symm.trans ht')
          rfl
        · rintro rfl
          exact ⟨t, ht, rfl⟩

/-- What holds at the end of every run that brings no number from outside. -/
theorem run_inOrder (settings : Settings) (workspace : Option Path) {es : List Event}
    (hes : ∀ e ∈ es, e.isUnnumbered = true) :
    Consistent (run around { settings, workspace } es).1 ∧
      Numbered (run around { settings, workspace } es).1
        (chronicle around { settings, workspace } es) ∧
      Attributed (run around { settings, workspace } es).1
        (chronicle around { settings, workspace } es) ∧
      InOrder (chronicle around { settings, workspace } es) := by
  induction es using List.reverseRecOn with
  | nil =>
    exact ⟨consistent_empty settings workspace, .empty settings workspace,
      .empty settings workspace, .nil⟩
  | append_singleton rest e ih =>
    obtain ⟨hc, hnum, hatt, hord⟩ := ih fun e' he' => hes e' (List.mem_append_left _ he')
    have he := hes e (List.mem_append_right _ List.mem_cons_self)
    rw [run_snoc, chronicle_snoc]
    exact ⟨hc.step around e, hnum.step around hc hatt.unnumbered e, hatt.step around hc he,
      hord.step around hc hnum hatt e⟩

/-- **Outdated validations publish nothing.** In a run that brings no number from outside,
whatever is published is either the empty set that clears a document which is closed, or it is
handed over by a validation. At that time

* the number of the validation is the latest that was issued for the document, and the document has
  not been closed since;
* the validation has handed over nothing before;
* what it hands over has the URI and the version of the one document that it was asked to validate.

The validations of a document that publish it come in the order in which they were issued, and none
comes twice. -/
theorem publications_latest (settings : Settings) (workspace : Option Path) {es : List Event}
    (hes : ∀ e ∈ es, e.isUnnumbered = true) :
    publications (run around { settings, workspace } es).2 =
        (chronicle around { settings, workspace } es).filterMap Mark.publication? ∧
      (∀ before after n k p,
        chronicle around { settings, workspace } es = before ++ .handed n k p :: after →
          (∃ earlier between, before = earlier ++ .issued n p.uri k :: between ∧
            (∀ n' k', .issued n' p.uri k' ∉ between) ∧ .closed p.uri ∉ between) ∧
          (∀ k' p', .handed n k' p' ∉ before) ∧
          ∃ document, (∀ d, .asked n d ∈ before ↔ d = document) ∧
            p.uri = document.uri ∧ p.version = document.version) ∧
      ∀ uri,
        (handedTasks uri (chronicle around { settings, workspace } es)).Sublist
            (issuedTasks uri (chronicle around { settings, workspace } es)) ∧
          (issuedTasks uri (chronicle around { settings, workspace } es)).Nodup := by
  obtain ⟨-, -, -, hord⟩ := run_inOrder around settings workspace hes
  refine ⟨publications_eq_chronicle around _ es, ?_, fun uri =>
    ⟨hord.handed_sublist uri, hord.issued_nodup uri⟩⟩
  intro before after n k p heq
  obtain ⟨hstanding, hfresh, hdocument⟩ := hord.fits heq
  obtain ⟨earlier, between, hbefore, hbetween⟩ := standing_eq_some.mp hstanding
  refine ⟨⟨earlier, between, hbefore, ?_, ?_⟩, hfresh, hdocument⟩
  · intro n' k' hmem
    simpa [Mark.renumbers] using hbetween _ hmem
  · intro hmem
    simpa [Mark.renumbers] using hbetween _ hmem

end Runs

/-! ### A document that is closed and opened again -/

/-- A world without files, in which everything is delivered. -/
def Surroundings.calm : Surroundings where
  host := {}
  deliver _ := .ok ()

/-- A document in some version of it. -/
def app (version : Int) : Document where
  uri := "file:///app.py"
  version := some version

/-- A document is closed and opened again while a validation of its first life is under way, so that
two validations of it run under the same number. The older one is answered first. -/
def reopening : List Event :=
  [.schedule (app 1) (some (.ofInt 0)), .resume 0, .close "file:///app.py",
    .schedule (app 2) (some (.ofInt 0)), .resume 1,
    .complete 0 (.ok { exitCode := some 0 }), .complete 1 (.ok { exitCode := some 0 })]

/-- The validation of the first life publishes nothing, and that of the second does. -/
theorem publications_latest_reopening :
    (∀ e ∈ reopening, e.isUnnumbered = true) ∧
      handedTasks "file:///app.py"
        (chronicle .calm { settings := { projectMarkers := [] } } reopening) = [1] ∧
      issuedTasks "file:///app.py"
        (chronicle .calm { settings := { projectMarkers := [] } } reopening) = [0, 1] ∧
      ∀ before after n k p,
        chronicle .calm { settings := { projectMarkers := [] } } reopening =
            before ++ .handed n k p :: after →
          ∃ earlier between, before = earlier ++ .issued n p.uri k :: between ∧
            (∀ n' k', .issued n' p.uri k' ∉ between) ∧ .closed p.uri ∉ between := by
  have hes : ∀ e ∈ reopening, e.isUnnumbered = true := by decide
  refine ⟨hes, by decide +kernel, by decide +kernel, fun before after n k p heq => ?_⟩
  exact ((publications_latest .calm { projectMarkers := [] } none hes).2.1 before after n k p heq).1

end Schedule

end LintBridge
