import LintBridge.Proofs.Schedule.Consistency
import Mathlib.Data.List.Induction

/-!
# The chronicle of a run

Which validation was asked for first, and which number was the latest when a set was published, is
not written down anywhere in a schedule: it is a matter of the run that led there. The chronicle of
a run (`LintBridge.Schedule.chronicle`) writes down, in the order in which they happen, four kinds
of things (`LintBridge.Schedule.Mark`):

* a validation is asked for;
* a number is issued for a document, which is when the count of the document goes up;
* a document is closed;
* a validation hands over a set to be published, whether or not it can be delivered.

They are read off the states before and after each event and off the effects of it, so the
chronicle adds nothing to a run. It leaves out no publication either:
`LintBridge.Schedule.publications_eq_chronicle`.

A chronicle says which number of a document is the standing one
(`LintBridge.Schedule.standing`): the one issued last, unless the document has been closed since.
-/

namespace LintBridge

namespace Schedule

/-! ### Marks -/

/-- What is written down of a run. -/
inductive Mark where
  /-- The validation of a document is asked for, and gets a task. -/
  | asked (task : Nat) (document : Document)
  /-- A number is issued for a document, on behalf of a task. -/
  | issued (task : Nat) (uri : String) (number : Int)
  /-- A document is closed. -/
  | closed (uri : String)
  /-- A task that runs under a number hands over a set to be published. -/
  | handed (task : Nat) (number : Int) (publication : Publication)
  deriving DecidableEq, Repr

/-- The publication that the world outside is given with an effect, delivered or not. -/
def Effect.publication? : Effect → Option Publication
  | .published p => some p
  | .undelivered p _ => some p
  | _ => none

/-- The publications among several effects. -/
def publications (effects : List Effect) : List Publication :=
  effects.filterMap Effect.publication?

/-- The publication that a mark stands for: what is handed over, or the empty set that clears a
document which is closed. -/
def Mark.publication? : Mark → Option Publication
  | .handed _ _ p => some p
  | .closed uri => some { uri, records := [], version := none }
  | _ => none

/-- What is asked for with an event. -/
def Event.requests (s : Schedule) : Event → List Mark
  | .schedule document _ => [.asked s.tasks.length document]
  | .validate document _ => [.asked s.tasks.length document]
  | .close uri => [.closed uri]
  | _ => []

/-- The number that is issued for a document between two states, if its count goes up. -/
def issues (s s' : Schedule) (uri : String) (n : Nat) : List Mark :=
  match s'.tracked? uri with
  | some d => if (s.entry uri).sequence < d.sequence then [.issued n uri d.sequence] else []
  | none => []

/-- The sets that a task hands over, if it has called the linter. -/
def handovers (s : Schedule) (n : Nat) (effects : List Effect) : List Mark :=
  match s.task? n with
  | none => []
  | some t =>
    match t.stage with
    | .linting pass => (publications effects).map (.handed n pass.sequence)
    | _ => []

/-- What is written down of an event. -/
def marks (around : Surroundings) (s : Schedule) (e : Event) : List Mark :=
  e.requests s ++
    ((e.uri s).elim [] fun uri => issues s (step around s e).1 uri (e.task s)) ++
    handovers s (e.task s) (step around s e).2

/-- **The chronicle of a run.** -/
def chronicle (around : Surroundings) (s : Schedule) : List Event → List Mark
  | [] => []
  | e :: rest => marks around s e ++ chronicle around (step around s e).1 rest

/-! ### Runs in two parts -/

section Runs

variable (around : Surroundings) (s : Schedule)

theorem run_append (es es' : List Event) :
    run around s (es ++ es') =
      ((run around (run around s es).1 es').1,
        (run around s es).2 ++ (run around (run around s es).1 es').2) := by
  induction es generalizing s with
  | nil => rfl
  | cons e rest ih =>
    simp only [List.cons_append, run]
    rw [ih]
    simp only [List.append_assoc]

theorem run_snoc (es : List Event) (e : Event) :
    run around s (es ++ [e]) =
      ((step around (run around s es).1 e).1,
        (run around s es).2 ++ (step around (run around s es).1 e).2) := by
  rw [run_append]
  simp only [run, List.append_nil]

theorem chronicle_append (es es' : List Event) :
    chronicle around s (es ++ es') =
      chronicle around s es ++ chronicle around (run around s es).1 es' := by
  induction es generalizing s with
  | nil => rfl
  | cons e rest ih =>
    simp only [List.cons_append, chronicle, run]
    rw [ih, List.append_assoc]

theorem chronicle_snoc (es : List Event) (e : Event) :
    chronicle around s (es ++ [e]) =
      chronicle around s es ++ marks around (run around s es).1 e := by
  rw [chronicle_append]
  simp only [chronicle, List.append_nil]

end Runs

/-! ### What is written down of each event -/

section Marks

variable (around : Surroundings) (s : Schedule)

/-- Nothing is issued where documents keep their numbers. -/
theorem issues_of_keeps {s s' : Schedule} (h : Keeps s s') (uri : String) (n : Nat) :
    issues s s' uri n = [] := by
  unfold issues
  cases hd : s'.tracked? uri with
  | none => rfl
  | some d' =>
    obtain ⟨d, hd, -, hq⟩ := h uri d' hd
    refine if_neg ?_
    rw [entry_of_tracked hd, hq]
    exact Nat.lt_irrefl _

theorem issues_of_lt {s s' : Schedule} {uri : String} (n : Nat) {d : Tracked}
    (hd : s'.tracked? uri = some d) (h : (s.entry uri).sequence < d.sequence) :
    issues s s' uri n = [.issued n uri d.sequence] := by
  simp only [issues, hd]
  exact if_pos h

/-- Only a task that has called the linter hands anything over. -/
theorem handovers_of_not_linting {s : Schedule} {n : Nat} (effects : List Effect)
    (h : ∀ t pass, s.task? n = some t → t.stage ≠ .linting pass) :
    handovers s n effects = [] := by
  unfold handovers
  cases ht : s.task? n with
  | none => rfl
  | some t =>
    cases hs : t.stage with
    | linting pass => exact absurd hs (h t pass ht)
    | _ => simp only [hs]

theorem handovers_of_linting {s : Schedule} {n : Nat} {t : Task} {pass : Pass}
    (effects : List Effect) (ht : s.task? n = some t) (hs : t.stage = .linting pass) :
    handovers s n effects = (publications effects).map (.handed n pass.sequence) := by
  simp only [handovers, ht, hs]

/-- A task that is yet to be created hands nothing over. -/
@[simp] theorem handovers_new (effects : List Effect) : handovers s s.tasks.length effects = [] :=
  handovers_of_not_linting effects fun _ _ ht => absurd (task?_lt ht) (Nat.lt_irrefl _)

theorem marks_schedule (document : Document) (delay : Option Binary64) :
    marks around s (.schedule document delay) =
      [.asked s.tasks.length document,
        .issued s.tasks.length document.uri ((s.entry document.uri).sequence + 1 : Nat)] := by
  have hd : (s.schedule document delay).1.tracked? document.uri =
      some (s.scheduledEntry document) := by
    rw [tracked?_schedule, if_pos rfl]
  have hissues : issues s (s.schedule document delay).1 document.uri s.tasks.length =
      [.issued s.tasks.length document.uri ((s.entry document.uri).sequence + 1 : Nat)] :=
    issues_of_lt _ hd (Nat.lt_succ_self _)
  simp only [marks, step, Event.requests, Event.uri, Event.task, Option.elim_some, hissues,
    handovers_new]
  rfl

theorem marks_validate (document : Document) (sequence : Option Int) :
    marks around s (.validate document sequence) = [.asked s.tasks.length document] := by
  have hkeeps : Keeps s (s.validate document sequence).1 := .of_eq fun _ => rfl
  have hissues := issues_of_keeps hkeeps document.uri s.tasks.length
  simp only [marks, step, Event.requests, Event.uri, Event.task, Option.elim_some, hissues,
    handovers_new, List.append_nil]

theorem marks_close (uri : String) : marks around s (.close uri) = [.closed uri] := by
  have hissues := issues_of_keeps (keeps_close s around uri) uri s.tasks.length
  simp only [marks, step, Event.requests, Event.uri, Event.task, Option.elim_some, hissues,
    handovers_new, List.append_nil]

theorem marks_shutdown : marks around s .shutdown = [] := by
  simp [marks, Event.requests, Event.uri, Event.task]

theorem marks_configure (settings : Settings) : marks around s (.configure settings) = [] := by
  simp [marks, Event.requests, Event.uri, Event.task]

theorem marks_moveTo (workspace : Option Path) : marks around s (.moveTo workspace) = [] := by
  simp [marks, Event.requests, Event.uri, Event.task]

theorem marks_resume_of_absent {n : Nat} (h : s.task? n = none) :
    marks around s (.resume n) = [] := by
  have hhand := handovers_of_not_linting (step around s (.resume n)).2
    fun t pass ht => by rw [h] at ht; cases ht
  simp only [marks, Event.requests, Event.uri, Event.task, h, Option.map_none, Option.elim_none,
    hhand, List.append_nil]

/-- A task that is resumed hands nothing over: it has not called the linter yet. -/
theorem marks_resume {s : Schedule} {n : Nat} {t : Task} (ht : s.task? n = some t) :
    marks around s (.resume n) = issues s (resume around s n).1 t.document.uri n := by
  have hhand : handovers s n (resume around s n).2 = [] := by
    by_cases hlint : ∃ pass, t.stage = .linting pass
    · obtain ⟨pass, hs⟩ := hlint
      have hsame : resume around s n = (s, []) := by simp only [resume, ht, hs]
      rw [hsame, handovers_of_linting [] ht hs]
      rfl
    · refine handovers_of_not_linting _ fun t' pass ht' hs => hlint ⟨pass, ?_⟩
      rw [ht] at ht'
      cases ht'
      exact hs
  simp only [marks, step, Event.requests, Event.uri, Event.task, ht, Option.map_some,
    Option.elim_some, hhand, List.nil_append, List.append_nil]

/-- Without a call of the linter there is nothing to complete. -/
theorem marks_complete_of_not_linting {s : Schedule} {n : Nat} (answer : Except Mishap ToolOutput)
    (h : ∀ t pass, s.task? n = some t → t.stage ≠ .linting pass) :
    marks around s (.complete n answer) = [] := by
  have hhand := handovers_of_not_linting (step around s (.complete n answer)).2 h
  have hissues : ∀ uri, issues s (complete around s n answer).1 uri n = [] := fun uri =>
    issues_of_keeps (keeps_complete s around n answer) uri n
  simp only [marks, step, Event.requests, Event.task, hissues] at hhand ⊢
  rw [hhand]
  cases Event.uri s (.complete n answer) <;> rfl

/-- A task that the linter has answered has no number issued any more. -/
theorem marks_complete {s : Schedule} {n : Nat} {t : Task} {pass : Pass}
    (answer : Except Mishap ToolOutput) (ht : s.task? n = some t) (hs : t.stage = .linting pass) :
    marks around s (.complete n answer) =
      (publications (complete around s n answer).2).map (.handed n pass.sequence) := by
  have hissues := issues_of_keeps (keeps_complete s around n answer) t.document.uri n
  simp only [marks, step, Event.requests, Event.uri, Event.task, ht, Option.map_some,
    Option.elim_some, hissues, handovers_of_linting _ ht hs, List.nil_append]

@[simp] theorem publications_append (effects effects' : List Effect) :
    publications (effects ++ effects') = publications effects ++ publications effects' :=
  List.filterMap_append

/-- Entries of the log are no publications. -/
@[simp] theorem publications_logged (log : List LogEntry) :
    publications (log.map Effect.logged) = [] := by
  induction log with
  | nil => rfl
  | cons entry rest ih => exact ih

@[simp] theorem publications_send (p : Publication) : publications (send around p) = [p] := by
  unfold send
  split <;> rfl

/-- **A task hands over one set at most**, and only under a number that is current. -/
theorem marks_complete_cases (n : Nat) (answer : Except Mishap ToolOutput) :
    marks around s (.complete n answer) = [] ∨
      ∃ t pass records, s.task? n = some t ∧ t.stage = .linting pass ∧
        s.isCurrent t.document.uri pass.life pass.sequence = true ∧
        marks around s (.complete n answer) =
          [.handed n pass.sequence (publicationOf t.document records)] := by
  by_cases hlint : ∃ t pass, s.task? n = some t ∧ t.stage = .linting pass
  · obtain ⟨t, pass, ht, hs⟩ := hlint
    rw [marks_complete around answer ht hs]
    generalize hx : complete around s n answer = x
    have hcases := complete_cases around answer ht hs
    rw [hx] at hcases
    cases hcases with
    | cancelled => exact .inl rfl
    | failed e =>
      refine .inl ?_
      rw [publications_append, publications_logged]
      rfl
    | outdated =>
      refine .inl ?_
      rw [publications_logged]
      rfl
    | published records _ _ current | undelivered records _ _ _ current =>
      refine .inr ⟨t, pass, records, ht, hs, current, ?_⟩
      rw [publications_append, publications_logged]
      rfl
  · exact .inl (marks_complete_of_not_linting around answer
      fun t pass ht hs => hlint ⟨t, pass, ht, hs⟩)

/-! ### Nothing else is published -/

@[simp] theorem publications_cancel (n : Nat) : publications (s.cancel n).2 = [] := by
  unfold cancel
  split <;> rfl

@[simp] theorem publications_cancelAll (ns : List Nat) : publications (s.cancelAll ns).2 = [] := by
  induction ns generalizing s with
  | nil => rfl
  | cons n rest ih =>
    simp only [cancelAll]
    rw [publications_append, publications_cancel, ih, List.append_nil]

@[simp] theorem publications_schedule (document : Document) (delay : Option Binary64) :
    publications (s.schedule document delay).2 = [] := by
  simp only [schedule, create]
  cases (s.follow document.uri).2.pending with
  | none => rfl
  | some n => simp only [publications_append, publications_cancel]; rfl

/-- Closing a document clears what was published of it. -/
@[simp] theorem publications_close (uri : String) :
    publications (close around s uri).2 = [{ uri, records := [], version := none }] := by
  simp only [close]
  cases (s.tracked? uri).bind (·.pending) with
  | none => simp
  | some n => simp

@[simp] theorem publications_resume (n : Nat) : publications (resume around s n).2 = [] := by
  cases ht : s.task? n with
  | none =>
    rw [resume_of_absent around ht]
    rfl
  | some t =>
    generalize hx : resume around s n = x
    have hcases := resume_cases around ht
    rw [hx] at hcases
    cases hcases <;> rfl

/-- The publications that come with an event are those written down of it. -/
theorem publications_eq_marks (e : Event) :
    publications (step around s e).2 = (marks around s e).filterMap Mark.publication? := by
  cases e with
  | schedule document delay =>
    rw [marks_schedule]
    exact publications_schedule s document delay
  | validate document sequence =>
    rw [marks_validate]
    rfl
  | close uri =>
    rw [marks_close]
    exact publications_close around s uri
  | shutdown =>
    rw [marks_shutdown]
    exact publications_cancelAll s _
  | configure settings =>
    rw [marks_configure]
    rfl
  | moveTo workspace =>
    rw [marks_moveTo]
    rfl
  | resume n =>
    refine (publications_resume around s n).trans ?_
    cases ht : s.task? n with
    | none =>
      rw [marks_resume_of_absent around s ht]
      rfl
    | some t =>
      rw [marks_resume around ht]
      unfold issues
      split
      · split <;> rfl
      · rfl
  | complete n answer =>
    by_cases hlint : ∃ t pass, s.task? n = some t ∧ t.stage = .linting pass
    · obtain ⟨t, pass, ht, hs⟩ := hlint
      rw [marks_complete around answer ht hs, List.filterMap_map]
      exact (List.filterMap_some (l := publications _)).symm
    · have h : ∀ t pass, s.task? n = some t → t.stage ≠ .linting pass :=
        fun t pass ht hs => hlint ⟨t, pass, ht, hs⟩
      rw [marks_complete_of_not_linting around answer h, step,
        complete_of_not_linting around answer h]
      rfl

/-- **Whatever is published is in the chronicle**, in the same order. -/
theorem publications_eq_chronicle (es : List Event) :
    publications (run around s es).2 = (chronicle around s es).filterMap Mark.publication? := by
  induction es generalizing s with
  | nil => rfl
  | cons e rest ih =>
    simp only [run, chronicle, publications_append, List.filterMap_append]
    rw [publications_eq_marks, ih]

end Marks

/-! ### The standing number of a document -/

section Standing

variable (uri : String) (n : Nat) (k : Int) (H : List Mark)

/-- Whether a mark changes which number of a document is the standing one. -/
def Mark.renumbers : Mark → Bool
  | .issued _ u _ => u == uri
  | .closed u => u == uri
  | _ => false

/-- The standing number of a document after one more mark. -/
def Mark.revise (latest : Option (Nat × Int)) : Mark → Option (Nat × Int)
  | .issued n u k => if u = uri then some (n, k) else latest
  | .closed u => if u = uri then none else latest
  | _ => latest

/-- **The standing number of a document**, with the task it was issued for: the number issued last,
unless the document has been closed since. -/
def standing : Option (Nat × Int) :=
  H.foldl (Mark.revise uri) none

theorem standing_snoc (m : Mark) : standing uri (H ++ [m]) = m.revise uri (standing uri H) :=
  List.foldl_concat (Mark.revise uri) none m H

theorem Mark.revise_of_not_renumbers {uri : String} {m : Mark} (h : m.renumbers uri = false)
    (latest : Option (Nat × Int)) : m.revise uri latest = latest := by
  cases m with
  | issued n u k => exact if_neg (by simpa [Mark.renumbers] using h)
  | closed u => exact if_neg (by simpa [Mark.renumbers] using h)
  | asked | handed => rfl

/-- Marks that change nothing about the numbers of a document leave the standing one. -/
theorem standing_append_of_not_renumbers {uri : String} {H H' : List Mark}
    (h : ∀ m ∈ H', m.renumbers uri = false) : standing uri (H ++ H') = standing uri H := by
  induction H' using List.reverseRecOn with
  | nil => rw [List.append_nil]
  | append_singleton rest m ih =>
    rw [← List.append_assoc, standing_snoc,
      Mark.revise_of_not_renumbers (h m (List.mem_append_right _ List.mem_cons_self))]
    exact ih fun m' hm' => h m' (List.mem_append_left _ hm')

@[simp] theorem standing_issued : standing uri (H ++ [.issued n uri k]) = some (n, k) := by
  rw [standing_snoc]
  exact if_pos rfl

/-- **A number stands exactly when no other has been issued since**, and the document has not been
closed since. -/
theorem standing_eq_some {uri : String} {n : Nat} {k : Int} {H : List Mark} :
    standing uri H = some (n, k) ↔
      ∃ earlier between, H = earlier ++ .issued n uri k :: between ∧
        ∀ m ∈ between, m.renumbers uri = false := by
  constructor
  · intro h
    induction H using List.reverseRecOn with
    | nil => cases h
    | append_singleton rest m ih =>
      rw [standing_snoc] at h
      cases hm : m.renumbers uri with
      | false =>
        rw [Mark.revise_of_not_renumbers hm] at h
        obtain ⟨earlier, between, rfl, hbetween⟩ := ih h
        refine ⟨earlier, between ++ [m], by simp, fun m' hm' => ?_⟩
        rcases List.mem_append.mp hm' with hm' | hm'
        · exact hbetween m' hm'
        · obtain rfl : m' = m := List.mem_singleton.mp hm'
          exact hm
      | true =>
        cases m with
        | issued n' u k' =>
          obtain rfl : u = uri := by simpa [Mark.renumbers] using hm
          obtain ⟨rfl, rfl⟩ : n' = n ∧ k' = k := by simpa [Mark.revise] using h
          exact ⟨rest, [], rfl, fun m' hm' => absurd hm' List.not_mem_nil⟩
        | closed u =>
          obtain rfl : u = uri := by simpa [Mark.renumbers] using hm
          simp [Mark.revise] at h
        | asked | handed => cases hm
  · rintro ⟨earlier, between, rfl, hbetween⟩
    rw [List.append_cons, standing_append_of_not_renumbers hbetween, standing_issued]

/-- The task on behalf of which a number of a document is issued with a mark. -/
def Mark.issuedTask? : Mark → Option Nat
  | .issued n u _ => if u = uri then some n else none
  | _ => none

/-- The task that hands over a set of a document with a mark. -/
def Mark.handedTask? : Mark → Option Nat
  | .handed n _ p => if p.uri = uri then some n else none
  | _ => none

/-- The tasks for which numbers of a document have been issued, in the order of issue. -/
def issuedTasks : List Nat :=
  H.filterMap (Mark.issuedTask? uri)

/-- The tasks that have handed over sets of a document, in the order in which they did. -/
def handedTasks : List Nat :=
  H.filterMap (Mark.handedTask? uri)

theorem mem_issuedTasks {uri : String} {n : Nat} {H : List Mark} :
    n ∈ issuedTasks uri H ↔ ∃ k, .issued n uri k ∈ H := by
  unfold issuedTasks
  rw [List.mem_filterMap]
  constructor
  · rintro ⟨m, hm, h⟩
    cases m with
    | issued n' u k =>
      obtain ⟨rfl, rfl⟩ : u = uri ∧ n' = n := by simpa [Mark.issuedTask?] using h
      exact ⟨k, hm⟩
    | asked | closed | handed => cases h
  · rintro ⟨k, hm⟩
    exact ⟨_, hm, if_pos rfl⟩

theorem mem_handedTasks {uri : String} {n : Nat} {H : List Mark} :
    n ∈ handedTasks uri H ↔ ∃ k p, .handed n k p ∈ H ∧ p.uri = uri := by
  unfold handedTasks
  rw [List.mem_filterMap]
  constructor
  · rintro ⟨m, hm, h⟩
    cases m with
    | handed n' k p =>
      obtain ⟨hu, rfl⟩ : p.uri = uri ∧ n' = n := by simpa [Mark.handedTask?] using h
      exact ⟨k, p, hm, hu⟩
    | asked | closed | issued => cases h
  · rintro ⟨k, p, hm, hu⟩
    exact ⟨_, hm, if_pos hu⟩

/-- The task with the standing number is the one that a number was issued for last. -/
theorem issuedTasks_of_standing {uri : String} {n : Nat} {k : Int} {H : List Mark}
    (h : standing uri H = some (n, k)) : ∃ earlier, issuedTasks uri H = earlier ++ [n] := by
  obtain ⟨earlier, between, rfl, hbetween⟩ := standing_eq_some.mp h
  refine ⟨issuedTasks uri earlier, ?_⟩
  have hnone : between.filterMap (Mark.issuedTask? uri) = [] := by
    rw [List.filterMap_eq_nil_iff]
    intro m hm
    have hr := hbetween m hm
    cases m with
    | issued n' u k' => exact if_neg (by simpa [Mark.renumbers] using hr)
    | asked | closed | handed => rfl
  simp [issuedTasks, hnone, Mark.issuedTask?]

end Standing

end Schedule

end LintBridge
