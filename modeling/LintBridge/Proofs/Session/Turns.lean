import LintBridge.Loop
import LintBridge.Proofs.Session.Course

/-!
# The turns of a loop are the course of a session

A loop decides in which order things happen to its session: which turn is next, when a timer wakes a
task, when a call of the linter is answered. It does nothing to the session but let them happen
(`LintBridge.Loop.Follows`), so **whatever holds of every run of a session holds of every loop**,
with what the world outside gets to see of publications.
-/

namespace LintBridge

namespace Loop

open Schedule (Surroundings)

/-! ### What is noted of a change -/

section Absorb

variable (l : Loop)

@[simp] theorem session_wake (n : Nat) : (l.wake n).session = l.session := by
  unfold wake
  split <;> rfl

@[simp] theorem effects_wake (n : Nat) : (l.wake n).effects = l.effects := by
  unfold wake
  split <;> rfl

@[simp] theorem session_sleep (n : Nat) (delay : Binary64) :
    (l.sleep n delay).session = l.session := by
  unfold sleep
  split <;> rfl

@[simp] theorem effects_sleep (n : Nat) (delay : Binary64) :
    (l.sleep n delay).effects = l.effects := by
  unfold sleep
  split <;> rfl

@[simp] theorem session_absorb (e : Session.Effect) : (l.absorb e).session = l.session := by
  unfold absorb
  split <;> simp [push]

@[simp] theorem effects_absorb (e : Session.Effect) : (l.absorb e).effects = l.effects ++ [e] := by
  unfold absorb
  split <;> simp [push]

theorem session_absorbAll (es : List Session.Effect) :
    (es.foldl absorb l).session = l.session := by
  induction es generalizing l with
  | nil => rfl
  | cons e rest ih => rw [List.foldl_cons, ih, session_absorb]

theorem effects_absorbAll (es : List Session.Effect) :
    (es.foldl absorb l).effects = l.effects ++ es := by
  induction es generalizing l with
  | nil => simp
  | cons e rest ih => rw [List.foldl_cons, ih, effects_absorb, List.append_assoc]; rfl

@[simp] theorem session_take (x : Session × List Session.Effect) :
    (l.take x).session = x.1 :=
  session_absorbAll _ x.2

@[simp] theorem effects_take (x : Session × List Session.Effect) :
    (l.take x).effects = l.effects ++ x.2 :=
  effects_absorbAll _ x.2

end Absorb

/-! ### Following -/

/-- **A loop goes on from another by a run of its session**, and shows the publications of it. -/
def Follows (around : Surroundings) (l l' : Loop) : Prop :=
  ∃ es, l'.session = (Session.run around l.session es).1 ∧
    Session.publications l'.effects =
      Session.publications l.effects ++ Session.publications (Session.run around l.session es).2

section Follows

variable {around : Surroundings} {l l' l'' : Loop}

/-- Nothing happens to the session. -/
theorem Follows.of_eq (hsession : l'.session = l.session)
    (heffects : Session.publications l'.effects = Session.publications l.effects) :
    Follows around l l' :=
  ⟨[], hsession, heffects.trans (List.append_nil _).symm⟩

theorem Follows.trans (h : Follows around l l') (h' : Follows around l' l'') :
    Follows around l l'' := by
  obtain ⟨es, hs, he⟩ := h
  obtain ⟨es', hs', he'⟩ := h'
  refine ⟨es ++ es', ?_, ?_⟩
  · rw [hs', hs, Session.run_append]
  · rw [he', he, hs, Session.run_append, Session.publications_append, List.append_assoc]

/-- One thing happens to the session, and is noted. -/
theorem Follows.of_step (l₀ : Loop) (e : Session.Event) (heffects : l₀.effects = l.effects) :
    Follows around l (l₀.take (Session.step around l.session e)) := by
  refine ⟨[e], ?_, ?_⟩
  · rw [session_take]
    rfl
  · simp only [effects_take, heffects, Session.publications_append, Session.run, List.append_nil]

end Follows

/-! ### Turns -/

section Turns

variable (w : World) (l : Loop)

theorem follows_answer (n : Nat) (reply : Reply) : Follows w.around l (answer w l n reply) :=
  .of_step { l with calls := l.calls.filter (·.task != n) } (.complete n reply.answer) rfl

theorem follows_reachGate (call : OpenCall) : Follows w.around l (reachGate w l call) := by
  unfold reachGate
  split
  · exact .of_eq rfl rfl
  · exact follows_answer w l _ _

theorem follows_attend (n : Nat) (c : Linter.Call) : Follows w.around l (attend w l n c) := by
  unfold attend
  dsimp only
  split
  · exact .of_eq (by simp) (by simp)
  · have hcount : Follows w.around l { l with callCount := l.callCount + 1 } := .of_eq rfl rfl
    exact hcount.trans (follows_reachGate w _ _)

theorem follows_runTask (n : Nat) : Follows w.around l (runTask w l n) := by
  unfold runTask
  split
  · rename_i call _
    have hcall : ∀ cancelled : Bool, Follows w.around l
        (if cancelled || call.ripe then answer w l n call.reply else reachGate w l call) := by
      intro cancelled
      split
      · exact follows_answer w l n _
      · exact follows_reachGate w l call
    exact hcall _
  · have hresume : Follows w.around l
        (l.take (l.session.withSchedule (l.session.schedule.resume w.around n))) :=
      .of_step l (.resume n) rfl
    dsimp only
    split
    · exact hresume.trans (follows_attend w _ _ _)
    · exact hresume

theorem follows_run (t : Turn) : Follows w.around l (run w l t) := by
  cases t with
  | task n => exact follows_runTask w l n
  | message => exact .of_step l .handle rfl
  | complaint =>
    refine .of_eq (session_absorb l _) ?_
    simp [run, Session.publications, Session.Effect.publication?]

theorem follows_next {l l' : Loop} (h : next w l = some l') : Follows w.around l l' := by
  unfold next at h
  split at h
  · rename_i t rest _
    obtain rfl := Option.some.inj h
    have hready : Follows w.around l { l with ready := rest } := .of_eq rfl rfl
    exact hready.trans (follows_run w _ t)
  · split at h
    · cases h
    · obtain rfl := Option.some.inj h
      exact .of_eq rfl rfl

theorem follows_runTurns (k : Nat) : Follows w.around l (runTurns w k l) := by
  induction k generalizing l with
  | zero => exact .of_eq rfl rfl
  | succ k ih =>
    unfold runTurns
    split
    · rename_i l' h
      exact (follows_next w h).trans (ih l')
    · exact .of_eq rfl rfl

theorem follows_settle : Follows w.around l (settle w l) :=
  follows_runTurns w l _

theorem follows_moveTo (time : Nat) : Follows w.around l (l.moveTo time) :=
  .of_eq rfl rfl

theorem follows_passUntilIdle (k : Nat) : Follows w.around l (passUntilIdle w k l) := by
  induction k generalizing l with
  | zero => exact .of_eq rfl rfl
  | succ k ih =>
    unfold passUntilIdle
    split
    · exact .of_eq rfl rfl
    · split
      · exact ((follows_moveTo w l _).trans (follows_settle w _)).trans (ih _)
      · exact .of_eq rfl rfl

/-- As much time passes as the scheduled validations take. -/
theorem follows_drain : Follows w.around l (drain w l) :=
  (follows_settle w l).trans (follows_passUntilIdle w _ _)

end Turns

end Loop

end LintBridge
