import LintBridge.Proofs.Result
import LintBridge.Response
import Mathlib.Data.List.Forall2

/-!
# Which decoders matter

The walk through a list of decoders remembers the groups that were found, whether any decoder knew
the document, and the refusals. What comes of it can be said without the walk: **the groups are
those of the first decoder that finds a diagnostic**, so that all the others can be taken out, put
in or moved about at will, and the refusals are reported when there is nothing but refusals.

* `LintBridge.Response.Decoder.Finds`, `LintBridge.Response.Decoder.Refuses` – what a decoder may
  make of a document, besides groups without any diagnostic;
* `LintBridge.Response.Attempt.IsOf` – what the walk comes to, kept by each step of it
  (`LintBridge.Response.tryDecoders_isOf`);
* `LintBridge.Response.decodeWith_finders` – the main result;
* `LintBridge.Response.tryShapes` – the walk through the decoders of given shapes.
-/

namespace LintBridge.Response

open Json (Value)

/-! ### One decoder -/

namespace Decoder

/-- A decoder comes to a result: groups or a refusal. -/
def Answers (d : Decoder) (ctx : Context) (document : Value) : Prop :=
  ∃ outcome, d.decode ctx document = .ok outcome

/-- A decoder knows a document, whatever it finds in it. -/
def Knows (d : Decoder) (ctx : Context) (document : Value) : Prop :=
  ∃ groups, d.decode ctx document = .ok (.decoded groups)

/-- A decoder refuses a document for a reason. -/
def Refuses (d : Decoder) (ctx : Context) (document : Value) (reason : String) : Prop :=
  d.decode ctx document = .ok (.refused reason)

/-- **A decoder finds groups** with at least one diagnostic in them. -/
def Finds (d : Decoder) (ctx : Context) (document : Value) (groups : List Group) : Prop :=
  d.decode ctx document = .ok (.decoded groups) ∧ ∃ g ∈ groups, g.diagnostics ≠ []

/-- The groups that a decoder finds, if there is a diagnostic in them. -/
def found? (ctx : Context) (document : Value) (d : Decoder) : Option (List Group) :=
  match d.decode ctx document with
  | .ok (.decoded groups) => if hasFindings groups then some groups else none
  | _ => none

end Decoder

theorem hasFindings_iff {groups : List Group} :
    hasFindings groups = true ↔ ∃ g ∈ groups, g.diagnostics ≠ [] := by
  simp [hasFindings]

section Decoders

variable {ctx : Context} {document : Value} {d : Decoder} {decoders others : List Decoder}

theorem Decoder.found?_eq_some {groups : List Group} :
    d.found? ctx document = some groups ↔ d.Finds ctx document groups := by
  unfold Decoder.found? Decoder.Finds
  rw [← hasFindings_iff]
  cases d.decode ctx document with
  | error m => simp
  | ok outcome =>
    cases outcome with
    | refused reason => simp
    | decoded found =>
      by_cases hfound : hasFindings found = true
      · simp only [hfound, if_true, Option.some.injEq, Except.ok.injEq, Outcome.decoded.injEq]
        constructor
        · rintro rfl
          exact ⟨rfl, hfound⟩
        · exact And.left
      · simp only [if_neg hfound, reduceCtorEq, Except.ok.injEq, Outcome.decoded.injEq, false_iff]
        rintro ⟨rfl, htrue⟩
        exact hfound htrue

/-! ### The walk through the decoders -/

/-- **What a walk through decoders comes to.** -/
structure Attempt.IsOf (attempt : Attempt) (ctx : Context) (document : Value)
    (decoders : List Decoder) : Prop where
  /-- The groups are those of the first decoder that finds any. -/
  groups : attempt.groups = (decoders.findSome? (Decoder.found? ctx document)).getD []
  /-- The document is recognised when some decoder knows it. -/
  recognised : attempt.recognised = true ↔ ∃ d ∈ decoders, d.Knows ctx document
  /-- If it is not, all decoders have refused it, in this order and for these reasons. -/
  refusals : attempt.recognised = false → List.Forall₂
    (fun d refusal => refusal.1 = d.name ∧ d.Refuses ctx document refusal.2)
    decoders attempt.refusals

/-- A decoder that refuses is one refusal more. -/
theorem Attempt.IsOf.refused {attempt : Attempt} {reason : String}
    (h : attempt.IsOf ctx document decoders) (hd : d.Refuses ctx document reason) :
    Attempt.IsOf { attempt with refusals := (d.name, reason) :: attempt.refusals } ctx document
      (d :: decoders) := by
  have hnone : d.found? ctx document = none := by
    unfold Decoder.found?
    rw [hd]
  refine ⟨?_, ?_, fun hrecognised => .cons ⟨rfl, hd⟩ (h.refusals hrecognised)⟩
  · rw [List.findSome?_cons, hnone, ← h.groups]
  · have hunknown : ¬ d.Knows ctx document := by
      rintro ⟨groups, hgroups⟩
      cases hd.symm.trans hgroups
    refine h.recognised.trans ?_
    simp only [List.mem_cons, exists_eq_or_imp, hunknown, false_or]

/-- A decoder that knows the document and finds nothing leaves the groups to the others. -/
theorem Attempt.IsOf.unfruitful {attempt : Attempt} {groups : List Group}
    (h : attempt.IsOf ctx document decoders)
    (hd : d.decode ctx document = .ok (.decoded groups)) (hnone : hasFindings groups = false) :
    Attempt.IsOf { attempt with recognised := true } ctx document (d :: decoders) := by
  have hfound : d.found? ctx document = none := by
    unfold Decoder.found?
    rw [hd]
    simp [hnone]
  refine ⟨?_, iff_of_true rfl ⟨d, List.mem_cons_self, groups, hd⟩, nofun⟩
  rw [List.findSome?_cons, hfound, ← h.groups]

/-- A decoder that finds groups decides. -/
theorem Attempt.isOf_of_finds {groups : List Group} (hd : d.Finds ctx document groups) :
    Attempt.IsOf ⟨groups, true, []⟩ ctx document (d :: decoders) := by
  refine ⟨?_, iff_of_true rfl ⟨d, List.mem_cons_self, groups, hd.1⟩, nofun⟩
  rw [List.findSome?_cons, Decoder.found?_eq_some.mpr hd]
  rfl

/-- **Decoders that all come to a result come to one together.** -/
theorem tryDecoders_isOf (h : ∀ d ∈ decoders, d.Answers ctx document) :
    ∃ attempt, tryDecoders ctx document decoders = .ok attempt ∧
      attempt.IsOf ctx document decoders := by
  induction decoders with
  | nil => exact ⟨⟨[], false, []⟩, rfl, rfl, by simp, fun _ => .nil⟩
  | cons d rest ih =>
    obtain ⟨⟨outcome, hd⟩, hrest⟩ := List.forall_mem_cons.mp h
    obtain ⟨attempt, htry, hattempt⟩ := ih hrest
    rw [tryDecoders, hd, htry]
    cases outcome with
    | refused reason => exact ⟨_, rfl, hattempt.refused hd⟩
    | decoded groups =>
      cases hfound : hasFindings groups with
      | true => exact ⟨⟨groups, true, []⟩, by simp [bind, Except.bind, pure, Except.pure, hfound],
          Attempt.isOf_of_finds ⟨hd, hasFindings_iff.mp hfound⟩⟩
      | false => exact ⟨_, by simp [bind, Except.bind, pure, Except.pure, hfound],
          hattempt.unfruitful hd hfound⟩

/-! ### One document -/

/-- What is done with the end of a walk. -/
theorem decodeWith_of_ok {attempt : Attempt} (h : tryDecoders ctx document decoders = .ok attempt) :
    decodeWith decoders ctx document = ⟨.ok attempt.groups, if attempt.recognised then [] else
      [{ level := .warning, message := unrecognised attempt.refusals }]⟩ := by
  unfold decodeWith
  rw [h]
  obtain ⟨groups, recognised, refusals⟩ := attempt
  cases recognised <;> rfl

/-- Walks with the same end come to the same, the log included. -/
theorem decodeWith_congr {ctx' : Context} {document' : Value}
    (h : tryDecoders ctx document decoders = tryDecoders ctx' document' others) :
    decodeWith decoders ctx document = decodeWith others ctx' document' := by
  unfold decodeWith
  rw [h]

/-- Decoders that make the same of two documents walk through both alike. -/
theorem tryDecoders_congr {v w : Value}
    (h : ∀ d ∈ decoders, d.decode ctx v = d.decode ctx w) :
    tryDecoders ctx v decoders = tryDecoders ctx w decoders := by
  induction decoders with
  | nil => rfl
  | cons d rest ih =>
    obtain ⟨hd, hrest⟩ := List.forall_mem_cons.mp h
    rw [tryDecoders, tryDecoders, hd, ih hrest]

/-- The log does not change what decoders make of a document. -/
theorem result_decodeWith (decoders : List Decoder) (ctx : Context) (document : Value) :
    (decodeWith decoders ctx document).result =
      (tryDecoders ctx document decoders).map Attempt.groups := by
  cases htry : tryDecoders ctx document decoders with
  | error m =>
    unfold decodeWith
    rw [htry]
    rfl
  | ok attempt =>
    rw [decodeWith_of_ok htry]
    rfl

/-- The groups of a document are those of the first decoder that finds any. -/
theorem result_decodeWith_of_answers (h : ∀ d ∈ decoders, d.Answers ctx document) :
    (decodeWith decoders ctx document).result =
      .ok ((decoders.findSome? (Decoder.found? ctx document)).getD []) := by
  obtain ⟨attempt, htry, hattempt⟩ := tryDecoders_isOf h
  rw [decodeWith_of_ok htry, ← hattempt.groups]

/-- Of a list of decoders only those that find something count. -/
theorem findSome?_found? (decoders : List Decoder) :
    decoders.findSome? (Decoder.found? ctx document) =
      (decoders.filter fun d => (d.found? ctx document).isSome).findSome?
        (Decoder.found? ctx document) := by
  induction decoders with
  | nil => rfl
  | cons d rest ih =>
    cases hd : d.found? ctx document with
    | some groups => simp [hd]
    | none => simp [hd, ih]

/-- The words for a list of refusals name each decoder with its reason, in order. -/
theorem unrecognised_eq {refusals : List (String × String)}
    (h : List.Forall₂ (fun d refusal => refusal.1 = d.name ∧ d.Refuses ctx document refusal.2)
      decoders refusals) :
    unrecognised refusals = "Unrecognised linter response (" ++
      "; ".intercalate (List.zipWith (fun d reason => d.name ++ ": " ++ reason) decoders
        (refusals.map Prod.snd)) ++ ")" := by
  have hlines : refusals.map (fun refusal => refusal.1 ++ ": " ++ refusal.2) =
      List.zipWith (fun d reason => d.name ++ ": " ++ reason) decoders
        (refusals.map Prod.snd) := by
    induction h with
    | nil => rfl
    | cons hrefusal _ ih =>
      rw [List.map_cons, List.map_cons, List.zipWith_cons_cons, ← ih, hrefusal.1]
  rw [← hlines]
  rfl

/-! What is read off the end of a walk. -/

section End

variable {attempt : Attempt} (h : attempt.IsOf ctx document decoders)

include h

theorem Attempt.IsOf.groups_ne_nil_iff :
    attempt.groups ≠ [] ↔ ∃ d ∈ decoders, ∃ found, d.Finds ctx document found := by
  rw [h.groups]
  constructor
  · intro hne
    cases hfirst : decoders.findSome? (Decoder.found? ctx document) with
    | none => simp [hfirst] at hne
    | some found =>
      obtain ⟨d, hd, hfound⟩ := List.exists_of_findSome?_eq_some hfirst
      exact ⟨d, hd, found, Decoder.found?_eq_some.mp hfound⟩
  · rintro ⟨d, hd, found, hfinds⟩
    have hsome : decoders.findSome? (Decoder.found? ctx document) ≠ none := by
      intro hnone
      rw [List.findSome?_eq_none_iff] at hnone
      cases (hnone d hd).symm.trans (Decoder.found?_eq_some.mpr hfinds)
    obtain ⟨first, hfirst⟩ := Option.ne_none_iff_exists'.mp hsome
    obtain ⟨e, -, he⟩ := List.exists_of_findSome?_eq_some hfirst
    obtain ⟨-, g, hg, -⟩ := Decoder.found?_eq_some.mp he
    rw [hfirst]
    exact List.ne_nil_of_mem hg

/-- The first decoder that finds something decides. -/
theorem Attempt.IsOf.groups_of_first {before after : List Decoder} {found : List Group}
    (hparts : decoders = before ++ d :: after)
    (hbefore : ∀ e ∈ before, ∀ other, ¬ e.Finds ctx document other)
    (hd : d.Finds ctx document found) : attempt.groups = found := by
  have hnone : before.findSome? (Decoder.found? ctx document) = none := by
    refine List.findSome?_eq_none_iff.mpr fun e he => Option.eq_none_iff_forall_ne_some.mpr ?_
    exact fun other hother => hbefore e he other (Decoder.found?_eq_some.mp hother)
  rw [h.groups, hparts, List.findSome?_append, hnone, List.findSome?_cons,
    Decoder.found?_eq_some.mpr hd]
  rfl

/-- Where every decoder refuses, none knows the document. -/
theorem Attempt.IsOf.recognised_of_refused
    (hrefused : ∀ d ∈ decoders, ∃ reason, d.Refuses ctx document reason) :
    attempt.recognised = false := by
  rw [← Bool.not_eq_true, h.recognised]
  rintro ⟨d, hd, groups, hgroups⟩
  obtain ⟨reason, hreason⟩ := hrefused d hd
  cases hreason.symm.trans hgroups

end End

/-- **Only decoders that find something matter.** Decoders that all come to a result make groups of
a document. There are groups exactly when some decoder finds a diagnostic, and then they are what
the first of those finds. Another list with the same decoders that find something, in the same
order, makes the same groups, whatever others have been taken out, put in or moved. If every decoder
has refused the document the log has one warning, which gives the reasons of all of them in order;
if some decoder knows the document the log says nothing. -/
theorem decodeWith_finders (h : ∀ d ∈ decoders, d.Answers ctx document) :
    ∃ groups log, decodeWith decoders ctx document = ⟨.ok groups, log⟩ ∧
      (groups ≠ [] ↔ ∃ d ∈ decoders, ∃ found, d.Finds ctx document found) ∧
      (∀ before d after found, decoders = before ++ d :: after →
        (∀ e ∈ before, ∀ other, ¬ e.Finds ctx document other) → d.Finds ctx document found →
        groups = found) ∧
      (∀ others : List Decoder, (∀ d ∈ others, d.Answers ctx document) →
        others.filter (fun d => (d.found? ctx document).isSome) =
          decoders.filter (fun d => (d.found? ctx document).isSome) →
        (decodeWith others ctx document).result = .ok groups) ∧
      ((∀ d ∈ decoders, ∃ reason, d.Refuses ctx document reason) →
        ∃ reasons, List.Forall₂ (fun d reason => d.Refuses ctx document reason) decoders reasons ∧
          log = [{ level := .warning
                   message := "Unrecognised linter response (" ++ "; ".intercalate
                    (List.zipWith (fun d reason => d.name ++ ": " ++ reason) decoders reasons) ++
                    ")" }]) ∧
      ((∃ d ∈ decoders, d.Knows ctx document) → log = []) := by
  obtain ⟨attempt, htry, hattempt⟩ := tryDecoders_isOf h
  refine ⟨_, _, decodeWith_of_ok htry, hattempt.groups_ne_nil_iff, ?_, ?_, ?_, ?_⟩
  · exact fun before d after found hparts hbefore hd => hattempt.groups_of_first hparts hbefore hd
  · intro others hothers hfilter
    rw [result_decodeWith_of_answers hothers, findSome?_found?, hfilter, ← findSome?_found?,
      hattempt.groups]
  · intro hrefused
    have hunknown := hattempt.recognised_of_refused hrefused
    have hrefusals := hattempt.refusals hunknown
    refine ⟨attempt.refusals.map Prod.snd, ?_, ?_⟩
    · exact List.forall₂_map_right_iff.mpr (hrefusals.imp fun _ _ h => h.2)
    · rw [hunknown, unrecognised_eq hrefusals]
      rfl
  · intro hknown
    rw [hattempt.recognised.mpr hknown]
    rfl

end Decoders

/-! ### Decoders that find nothing, and some that do -/

/-- A decoder that refuses every document. -/
def absent : Decoder where
  name := "absent"
  decode _ _ := .ok (.refused "not there")

/-- A decoder that knows every document and finds nothing. -/
def idle : Decoder where
  name := "idle"
  decode _ _ := .ok (.decoded [])

/-- A decoder that finds a diagnostic with the given message in every document. -/
def eager (message : String) : Decoder where
  name := "eager"
  decode ctx _ := .ok (.decoded
    [{ target := .ofString ctx.requestedUri
       diagnostics := [{ range := default, message := .ofString message, severity := .warning }] }])

/-- Decoders of which the third and the last find something. -/
def crowd : List Decoder :=
  [absent, idle, eager "a", absent, eager "b"]

/-- The third decoder decides, and does so without the others as well. -/
theorem decodeWith_finders_crowd :
    (∀ d ∈ crowd, d.Answers { requestedUri := "file:///app.py" } .null) ∧
      (decodeWith crowd { requestedUri := "file:///app.py" } .null).log = [] ∧
      (decodeWith [eager "a", eager "b"] { requestedUri := "file:///app.py" } .null).result =
        (decodeWith crowd { requestedUri := "file:///app.py" } .null).result := by
  have hanswers : ∀ d ∈ crowd, d.Answers { requestedUri := "file:///app.py" } .null := by
    intro d hd
    simp only [crowd, List.mem_cons, List.not_mem_nil, or_false] at hd
    rcases hd with rfl | rfl | rfl | rfl | rfl <;> exact ⟨_, rfl⟩
  obtain ⟨groups, log, hcrowd, -, -, hothers, -, hlog⟩ := decodeWith_finders hanswers
  have hfinders : ∀ d ∈ [eager "a", eager "b"],
      d.Answers { requestedUri := "file:///app.py" } .null := by
    intro d hd
    simp only [List.mem_cons, List.not_mem_nil, or_false] at hd
    rcases hd with rfl | rfl <;> exact ⟨_, rfl⟩
  refine ⟨hanswers, ?_, ?_⟩
  · rw [hcrowd, hlog ⟨idle, by simp [crowd], [], rfl⟩]
  · rw [hcrowd, hothers _ hfinders rfl]

/-! ### The decoders of shapes -/

/-- The decoder of a shape knows the documents that have groups of the shape. -/
theorem decode_eq_decoded {shape : Shape} {ctx : Context} {document : Value} {groups : List Group} :
    shape.decode ctx document = .ok (.decoded groups) ↔ shape.groups ctx document = .ok groups := by
  unfold Shape.decode
  cases shape.groups ctx document with
  | ok found => simp
  | error e => cases e <;> simp

/-- Shows a document to the decoders of the given shapes. -/
def tryShapes (ctx : Context) (document : Value) (shapes : List Shape) : Except Mishap Attempt :=
  tryDecoders ctx document (shapes.map Shape.decoder)

theorem tryShapes_nil (ctx : Context) (document : Value) :
    tryShapes ctx document [] = .ok ⟨[], false, []⟩ :=
  rfl

theorem tryShapes_cons (ctx : Context) (document : Value) (shape : Shape) (rest : List Shape) :
    tryShapes ctx document (shape :: rest) = (do
      match ← shape.decode ctx document with
      | .refused reason =>
        let attempt ← tryShapes ctx document rest
        return { attempt with refusals := (shape.name, reason) :: attempt.refusals }
      | .decoded groups =>
        if hasFindings groups then return ⟨groups, true, []⟩
        let attempt ← tryShapes ctx document rest
        return { attempt with recognised := true }) :=
  rfl

/-- Documents that are the same to the decoder of each shape come to the same, the log included. -/
theorem decodeDocument_eq_of_decode {v w : Value} {ctx : Context}
    (h : ∀ shape : Shape, shape.decode ctx v = shape.decode ctx w) (shapes : List Shape) :
    decodeDocument shapes ctx v = decodeDocument shapes ctx w := by
  refine decodeWith_congr (tryDecoders_congr fun d hd => ?_)
  obtain ⟨shape, -, rfl⟩ := List.mem_map.mp hd
  exact h shape

/-- The groups of a document are those that the decoders of the shapes come to. -/
theorem result_decodeDocument (shapes : List Shape) (ctx : Context) (document : Value) :
    (decodeDocument shapes ctx document).result =
      (tryShapes ctx document shapes).map Attempt.groups :=
  result_decodeWith _ ctx document

end LintBridge.Response
