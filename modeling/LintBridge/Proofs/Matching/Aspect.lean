import LintBridge.Proofs.Linter.Selected
import LintBridge.Proofs.Matching.Comparable
import LintBridge.Proofs.Response.Agreement

/-!
# What is seen of a group from a document

A list of errors names no file, so its group is about the document that the linter was asked about,
under the name that it was asked by. All that is made of a group from then on is to see whether its
target names a given document, and to take its diagnostics. So **one name of a document is as good
as another**, as far as both of them name it or neither does.

* `LintBridge.Matching.aspect` – what is seen of a group, and `LintBridge.Matching.select_congr` –
  that nothing else counts;
* `LintBridge.Response.parse_asked` – another name for the document makes no difference to what is
  seen of an output, and `LintBridge.Linter.collect_asked` – nor to what a pass collects;
* `LintBridge.Response.parse_of_isFlat` – what an output of flat lists comes to.
-/

namespace LintBridge

open Json (Value)

namespace Matching

/-! ### What is seen of a group -/

/-- What is seen of a group from a document. -/
structure Aspect where
  /-- Whether its target names the document. -/
  named : Except Uri.Error Bool
  /-- Its diagnostics. -/
  diagnostics : List Record

/-- What is seen of the given group. -/
def aspect (document : String) (group : Group) : Aspect where
  named := belongs group.target document
  diagnostics := group.diagnostics

section Aspect

variable {document : String} {groups groups' : List Group}

theorem map_diagnostics_of_aspects
    (h : groups.map (aspect document) = groups'.map (aspect document)) :
    groups.map (·.diagnostics) = groups'.map (·.diagnostics) := by
  have hdiagnostics := congrArg (List.map Aspect.diagnostics) h
  rw [List.map_map, List.map_map] at hdiagnostics
  exact hdiagnostics

/-- **Nothing else counts when groups are picked.** -/
theorem select_congr (h : groups.map (aspect document) = groups'.map (aspect document)) :
    select document groups = select document groups' := by
  induction groups generalizing groups' with
  | nil =>
    rw [List.map_eq_nil_iff.mp h.symm]
  | cons group rest ih =>
    obtain ⟨group', rest', rfl, hgroup, hrest⟩ := List.map_eq_cons_iff.mp h.symm
    have hbelongs : belongs group'.target document = belongs group.target document :=
      congrArg Aspect.named hgroup
    have hdiagnostics : group'.diagnostics = group.diagnostics := congrArg Aspect.diagnostics hgroup
    rw [select, select, hbelongs, hdiagnostics, ih hrest.symm]

theorem hasFindings_congr (h : groups.map (aspect document) = groups'.map (aspect document)) :
    Response.hasFindings groups = Response.hasFindings groups' := by
  have hany : ∀ gs : List Group, Response.hasFindings gs =
      (gs.map (·.diagnostics)).any fun records => !records.isEmpty := by
    intro gs
    rw [List.any_map]
    rfl
  rw [hany, hany, map_diagnostics_of_aspects h]

end Aspect

end Matching

namespace Response

open Matching (Aspect aspect)

/-! ### Another name for the document -/

/-- What is seen of an outcome. -/
def Outcome.seen (document : String) : Outcome → Except String (List Aspect)
  | .decoded groups => .ok (groups.map (aspect document))
  | .refused reason => .error reason

/-- What is seen of an attempt. -/
def Attempt.seen (document : String) (attempt : Attempt) :
    List Aspect × Bool × List (String × String) :=
  (attempt.groups.map (aspect document), attempt.recognised, attempt.refusals)

section Asked

variable {ctx : Context} {uri document : String}

/-- The groups of a flat list are about the document that the linter was asked about, and nothing
else depends on its name. -/
theorem flatGroups_asked (response : Value) :
    flatGroups { ctx with requestedUri := uri } response =
      (flatGroups ctx response).map (List.map fun g => { g with target := .ofString uri }) := by
  unfold flatGroups
  cases requireObject "response" response with
  | error e => rfl
  | ok envelope =>
    simp only [bind, Except.bind]
    cases requireField envelope "errors" with
    | error e => rfl
    | ok entries =>
      dsimp only
      cases requireArray "'errors'" entries with
      | error e => rfl
      | ok items => rfl

variable (h : Matching.names uri document = Matching.names ctx.requestedUri document)

include h

theorem groups_asked (shape : Shape) (response : Value) :
    (shape.groups { ctx with requestedUri := uri } response).map (List.map (aspect document)) =
      (shape.groups ctx response).map (List.map (aspect document)) := by
  cases shape with
  | flatList =>
    unfold Shape.groups
    dsimp only
    rw [flatGroups_asked]
    cases hgroups : flatGroups ctx response with
    | error e => rfl
    | ok groups =>
      obtain ⟨fields, items, -, -, rfl⟩ := flatGroups_eq_ok.mp hgroups
      change Except.ok [Aspect.mk (Matching.belongs (.ofString uri) document) _] =
        Except.ok [Aspect.mk (Matching.belongs (.ofString ctx.requestedUri) document) _]
      rw [Matching.belongs_ofString, Matching.belongs_ofString, h]
  | nestedError => rfl
  | protoEnvelope => rfl

theorem decode_asked (shape : Shape) (response : Value) :
    (shape.decode { ctx with requestedUri := uri } response).map (Outcome.seen document) =
      (shape.decode ctx response).map (Outcome.seen document) := by
  have hgroups := groups_asked h shape response
  unfold Shape.decode
  revert hgroups
  cases shape.groups ctx response with
  | ok groups =>
    cases shape.groups { ctx with requestedUri := uri } response with
    | ok groups' =>
      intro hgroups
      exact congrArg (fun aspects => Except.ok (Except.ok aspects)) (Except.ok.inj hgroups)
    | error e' => nofun
  | error e =>
    cases shape.groups { ctx with requestedUri := uri } response with
    | ok groups' => nofun
    | error e' =>
      intro hgroups
      cases hgroups
      rfl

theorem tryShapes_asked (shapes : List Shape) (response : Value) :
    (tryShapes { ctx with requestedUri := uri } response shapes).map (Attempt.seen document) =
      (tryShapes ctx response shapes).map (Attempt.seen document) := by
  induction shapes with
  | nil => rfl
  | cons shape rest ih =>
    rw [tryShapes_cons, tryShapes_cons]
    refine map_bind_congr (decode_asked h shape response) ?_
    rintro (groups | reason) (groups' | reason') hseen
    · have haspects : groups.map (aspect document) = groups'.map (aspect document) :=
        Except.ok.inj hseen
      dsimp only
      rw [Matching.hasFindings_congr haspects]
      split
      · exact congrArg (fun aspects => Except.ok (aspects, true, [])) haspects
      · refine map_bind_congr ih fun a b hattempt => ?_
        exact congrArg (fun seen => Except.ok (seen.1, true, seen.2.2)) hattempt
    · cases hseen
    · cases hseen
    · cases hseen
      refine map_bind_congr ih fun a b hattempt => ?_
      exact congrArg
        (fun seen => Except.ok (seen.1, seen.2.1, (shape.name, reason) :: seen.2.2)) hattempt

theorem decodeDocuments_asked (shapes : List Shape) (docs : List Value) :
    (decodeDocuments shapes { ctx with requestedUri := uri } docs).result.map
        (List.map (aspect document)) =
      (decodeDocuments shapes ctx docs).result.map (List.map (aspect document)) := by
  induction docs with
  | nil => rfl
  | cons response rest ih =>
    simp only [decodeDocuments, Traced.result_bind, Traced.result_pure, result_decodeDocument]
    have hfirst : ((tryShapes { ctx with requestedUri := uri } response shapes).map
        Attempt.groups).map (List.map (aspect document)) =
        ((tryShapes ctx response shapes).map Attempt.groups).map (List.map (aspect document)) := by
      change (Attempt.groups <$> _ : Except _ _).map _ = (Attempt.groups <$> _ : Except _ _).map _
      rw [← bind_pure_comp, ← bind_pure_comp]
      exact map_bind_congr (tryShapes_asked h shapes response) fun a b hseen =>
        congrArg Except.ok (congrArg Prod.fst hseen)
    refine map_bind_congr hfirst fun groups groups' hgroups => ?_
    refine map_bind_congr ih fun more more' hmore => ?_
    change Except.ok ((groups ++ more).map (aspect document)) =
      Except.ok ((groups' ++ more').map (aspect document))
    rw [List.map_append, List.map_append, hgroups, hmore]

/-- **By which of its names the linter is asked about a document makes no difference to what is seen
from the document.** -/
theorem parse_asked (shapes : List Shape) (stdout : String) :
    (parse shapes { ctx with requestedUri := uri } stdout).result.map
        (List.map (aspect document)) =
      (parse shapes ctx stdout).result.map (List.map (aspect document)) := by
  unfold parse
  split
  · rfl
  · rfl
  · exact decodeDocuments_asked h shapes _

end Asked

/-! ### Flat lists -/

/-- **A response that is made only of a flat list**, with the entries of the list. -/
def IsFlat (response : Value) (entries : List Value) : Prop :=
  ∃ fields, response = .object fields ∧
    Json.get? fields Shape.flatList.field = some (.array entries) ∧
    ∀ shape : Shape, shape ≠ .flatList → Json.get? fields shape.field = none

/-- The diagnostics of a flat list. -/
def flatRecords (ctx : Context) (entries : List Value) : List Record :=
  (groupOf { ctx with missingSeverity := .warning } (.ofString ctx.requestedUri)
    (.array entries)).diagnostics

section Flat

variable {ctx : Context}

/-- Of a flat list the decoders make one group about the document that the linter was asked about,
or none if there is no diagnostic in it. -/
theorem decodeDocument_of_isFlat {response : Value} {entries : List Value}
    (h : IsFlat response entries) :
    ∃ groups, (decodeDocument Shape.all ctx response).result = .ok groups ∧
      (∀ g ∈ groups, g.target = .ofString ctx.requestedUri) ∧
      groups.flatMap (·.diagnostics) = flatRecords ctx entries := by
  obtain ⟨fields, rfl, hfield, hothers⟩ := h
  have hdecoded : Shape.flatList.decode ctx (.object fields) = .ok (.decoded
      [⟨.ofString ctx.requestedUri, flatRecords ctx entries⟩]) := by
    have hgroups : flatGroups ctx (.object fields) =
        .ok [⟨.ofString ctx.requestedUri, flatRecords ctx entries⟩] :=
      flatGroups_eq_ok.mpr ⟨fields, entries, rfl, hfield, rfl⟩
    unfold Shape.decode Shape.groups
    dsimp only
    rw [hgroups]
    rfl
  have hmem : Shape.flatList ∈ Shape.all := by decide
  obtain ⟨refusals, htry⟩ := tryShapes_of_decoded (by decide) hmem hdecoded fun other _ hne =>
    ⟨_, decode_of_no_field (hothers other hne)⟩
  rw [result_decodeDocument, htry]
  refine ⟨_, rfl, ?_, ?_⟩
  · dsimp only
    split
    · simp
    · simp
  · dsimp only
    split
    · simp
    · rename_i hnone
      have hempty : flatRecords ctx entries = [] := by
        simpa [hasFindings] using hnone
      simp [hempty]

/-- **An output of flat lists makes groups about the document that the linter was asked about**,
with all the diagnostics of the lists in them. -/
theorem parse_of_isFlat {stdout : String} {docs : List Value} {lists : List (List Value)}
    (hdocs : documents stdout = .ok docs) (h : List.Forall₂ IsFlat docs lists) :
    ∃ groups, (parse Shape.all ctx stdout).result = .ok groups ∧
      (∀ g ∈ groups, g.target = .ofString ctx.requestedUri) ∧
      groups.flatMap (·.diagnostics) = lists.flatMap (flatRecords ctx) := by
  unfold parse
  rw [hdocs]
  clear hdocs
  dsimp only
  induction h with
  | nil => exact ⟨[], rfl, nofun, rfl⟩
  | cons hresponse _ ih =>
    obtain ⟨first, hfirst, htargets, hrecords⟩ := @decodeDocument_of_isFlat ctx _ _ hresponse
    obtain ⟨more, hmore, htargets', hrecords'⟩ := ih
    refine ⟨first ++ more, ?_, ?_, ?_⟩
    · simp only [decodeDocuments, Traced.result_bind, Traced.result_pure, hfirst, hmore]
      rfl
    · intro g hg
      rcases List.mem_append.mp hg with hg | hg
      · exact htargets g hg
      · exact htargets' g hg
    · rw [List.flatMap_append, List.flatMap_cons, hrecords, hrecords']

end Flat

end Response

namespace Matching

/-- Groups that all belong to a document are all picked. -/
theorem select_of_named {document : String} {groups : List Group}
    (h : ∀ g ∈ groups, belongs g.target document = .ok true) :
    select document groups = .ok (groups.flatMap (·.diagnostics)) := by
  have hall : groups.filter (fun g => (belongs g.target document).toOption == some true) = groups :=
    List.filter_eq_self.mpr fun g hg => by rw [h g hg]; rfl
  refine select_eq_ok.mpr ⟨fun g hg => ⟨true, h g hg⟩, ?_⟩
  rw [hall]

end Matching

/-! ### A pass under another name -/

namespace Linter

/-- Outputs of which the same is seen from a file are worth the same. -/
theorem picked_congr {s : Settings} {file : Path} {x y : Except Mishap (List Group)}
    (h : x.map (List.map (Matching.aspect file.toString)) =
      y.map (List.map (Matching.aspect file.toString))) :
    (do
      let groups ← x.mapError Failure.mishap
      let records ← (Matching.select file.toString groups).mapError fun e => .mishap (.badTarget e)
      return limit s records) = (do
      let groups ← y.mapError Failure.mishap
      let records ← (Matching.select file.toString groups).mapError fun e => .mishap (.badTarget e)
      return limit s records) := by
  cases x with
  | error e =>
    cases y with
    | error e' =>
      cases h
      rfl
    | ok groups' => cases h
  | ok groups =>
    cases y with
    | error e' => cases h
    | ok groups' =>
      have hselect := Matching.select_congr (Except.ok.inj h)
      simp only [Except.mapError, bind, Except.bind, hselect]

/-- **A pass over a document collects the same by any of its names.** -/
theorem collect_asked {uri uri' : String} {file : Path}
    (h : Matching.names uri' file.toString = Matching.names uri file.toString) (host : Host)
    (run : Call → Except Mishap ToolOutput) (s : Settings) (workspace : Option Path) :
    (collect host run s workspace uri file).result =
      (collect host run s workspace uri' file).result := by
  have hfindings : ∀ out,
      (findings s uri file out).result = (findings s uri' file out).result := by
    intro out
    cases husable : out.usable with
    | error e => rw [findings_of_unusable husable, findings_of_unusable husable]
    | ok ending =>
      have hout := ToolOutput.isUsable_of_usable husable
      have hparse := @Response.parse_asked { requestedUri := uri, source := s.source } uri'
        file.toString h Response.Shape.all out.stdout
      rw [findings_of_usable hout, findings_of_usable hout]
      exact picked_congr hparse.symm
  unfold collect
  simp only [Traced.result_bind, hfindings]

end Linter

end LintBridge
