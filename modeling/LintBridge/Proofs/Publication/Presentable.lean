import LintBridge.Linter.Pass
import LintBridge.Proofs.Publication.Deliverable
import LintBridge.Proofs.Response.Origin

/-!
# Which entries an editor can be told

Reading an entry is lenient about numbers and files: a number may be of any size, unless it is
negative, and a place elsewhere may name its file by anything but an empty text, surrogates
included. The protocol of the
editor is not, and nothing between the two makes up for it. So whether a set of diagnostics can be
published is settled by the entries of the output, **each of which can keep all the others from the
editor**.

* `LintBridge.Response.PlaceFits`, `LintBridge.Response.SpanFits` – the numbers that fields stand
  for are in bounds, where they are used;
* `LintBridge.Response.RelatedFits` – so are those of a place elsewhere, the file of which can be
  written as a URI;
* `LintBridge.Response.Presentable` – an entry of which an editor can be told.

`LintBridge.Publication.collected_notice_iff` says that this is exact, for every pass that comes to
an end: what it has collected can be published if and only if all the entries it has collected are
presentable.
-/

namespace LintBridge

namespace Response

open Json (Value)

/-! ### Presentable entries -/

/-- The line and the character that a place stands for are not too large. -/
structure PlaceFits (place : Value) : Prop where
  /-- The line is not. -/
  line : ∀ n ∈ intOf? (Json.getD (fieldsOf place) "line"), n ≤ Publication.maxCoordinate
  /-- The character is not. -/
  character : ∀ n ∈ intOf? (Json.getD (fieldsOf place) "character"), n ≤ Publication.maxCoordinate

/-- The ends that a span stands for are not too far off; one that comes before the start does not
count. -/
structure SpanFits (span : Value) : Prop where
  /-- The start is not. -/
  start : PlaceFits (Json.getD (fieldsOf span) "start")
  /-- The end is not, if there is one. -/
  stop : ∀ stop ∈ Json.get? (fieldsOf span) "end",
    PlaceFits stop ∨ (positionOf stop).Before (positionOf (Json.getD (fieldsOf span) "start"))

/-- A place elsewhere that names a file names one that can be written as a URI, and a span that
fits. -/
structure RelatedFits (item : Fields) : Prop where
  /-- The file can be written as a URI. -/
  file : ∀ uri ∈ textOf? (Json.getD (fieldsOf (Json.getD item "location")) "uri"),
    Uri.Convertible uri
  /-- The span fits, if there is a file. -/
  span : (textOf? (Json.getD (fieldsOf (Json.getD item "location")) "uri")).isSome →
    SpanFits (Json.getD (fieldsOf (Json.getD item "location")) "range")

/-- **An entry of which an editor can be told.** -/
structure Presentable (entry : Fields) : Prop where
  /-- Its span fits. -/
  span : SpanFits (Json.getD entry "range")
  /-- The places elsewhere do. -/
  related : ∀ item ∈ objectsOf (Json.getD entry "relatedInformation"), RelatedFits item

/-! ### From entries to diagnostics -/

theorem coordinate_le_iff {v : Value} {bound : Nat} :
    coordinate v ≤ bound ↔ ∀ n ∈ intOf? v, n ≤ bound := by
  unfold coordinate
  cases intOf? v with
  | none => simp
  | some n => simp [Int.toNat_le]

theorem positionOf_inBounds {place : Value} : (positionOf place).InBounds ↔ PlaceFits place := by
  constructor
  · rintro ⟨hline, hcharacter⟩
    exact ⟨coordinate_le_iff.mp hline, coordinate_le_iff.mp hcharacter⟩
  · rintro ⟨hline, hcharacter⟩
    exact ⟨coordinate_le_iff.mpr hline, coordinate_le_iff.mpr hcharacter⟩

/-- An end that comes before the start is replaced, whatever its numbers are. -/
theorem spanFrom_inBounds {start stop : Position} :
    (spanFrom start stop).InBounds ↔ start.InBounds ∧ (stop.InBounds ∨ stop.Before start) := by
  unfold spanFrom
  split
  · rename_i hordered
    constructor
    · exact fun h => ⟨h.start, .inl h.stop⟩
    · rintro ⟨hstart, hstop | hbefore⟩
      · exact ⟨hstart, hstop⟩
      · exact absurd hbefore hordered
  · -- The start is the end as well.
    rename_i hbefore
    constructor
    · exact fun h => ⟨h.start, .inr (not_not.mp hbefore)⟩
    · exact fun h => ⟨h.1, h.1⟩

theorem rangeOf_inBounds {span : Value} : (rangeOf span).InBounds ↔ SpanFits span := by
  unfold rangeOf
  dsimp only
  split
  · rename_i stop hstop
    rw [spanFrom_inBounds, positionOf_inBounds, positionOf_inBounds]
    constructor
    · rintro ⟨hstart, hend⟩
      refine ⟨hstart, fun stop' hstop' => ?_⟩
      cases hstop.symm.trans hstop'
      exact hend
    · exact fun h => ⟨h.start, h.stop stop hstop⟩
  · rename_i hnone
    rw [spanFrom_inBounds, positionOf_inBounds]
    constructor
    · rintro ⟨hstart, -⟩
      refine ⟨hstart, fun stop hstop => ?_⟩
      cases hnone.symm.trans hstop
    · exact fun h => ⟨h.start, .inl h.start⟩

/-- A place elsewhere that is kept can be told to an editor exactly if it fits. -/
theorem relatedItemOf_deliverable {item : Fields} {q : Related} (h : relatedItemOf? item = some q) :
    q.Deliverable ↔ RelatedFits item := by
  obtain ⟨uri, huri, rfl⟩ := Option.map_eq_some_iff.mp h
  constructor
  · rintro ⟨hfile, hrange⟩
    refine ⟨fun uri' huri' => ?_, fun _ => rangeOf_inBounds.mp hrange⟩
    cases huri.symm.trans huri'
    exact hfile
  · rintro ⟨hfile, hspan⟩
    exact ⟨hfile uri huri, rangeOf_inBounds.mpr (hspan (by rw [huri]; rfl))⟩

/-- One that is left out fits. -/
theorem relatedFits_of_none {item : Fields} (h : relatedItemOf? item = none) :
    RelatedFits item := by
  have hnone := Option.map_eq_none_iff.mp h
  constructor
  · intro uri huri
    rw [hnone] at huri
    cases huri
  · intro hsome
    rw [hnone] at hsome
    cases hsome

theorem relatedOf_deliverable {v : Value} :
    (∀ q ∈ relatedOf v, q.Deliverable) ↔ ∀ item ∈ objectsOf v, RelatedFits item := by
  unfold relatedOf
  constructor
  · intro h item hitem
    cases hkept : relatedItemOf? item with
    | none => exact relatedFits_of_none hkept
    | some q =>
      have hq := h q (List.mem_filterMap.mpr ⟨item, hitem, hkept⟩)
      exact (relatedItemOf_deliverable hkept).mp hq
  · intro h q hq
    obtain ⟨item, hitem, hkept⟩ := List.mem_filterMap.mp hq
    exact (relatedItemOf_deliverable hkept).mpr (h item hitem)

/-- **The diagnostic of an entry can be told to an editor exactly if the entry is presentable.** -/
theorem recordOf_deliverable {ctx : Context} {entry : Fields} {r : Record}
    (h : recordOf? ctx entry = some r) : r.Deliverable ↔ Presentable entry := by
  obtain ⟨message, -, rfl⟩ := Option.map_eq_some_iff.mp h
  constructor
  · rintro ⟨hrelated, hrange⟩
    exact ⟨rangeOf_inBounds.mp hrange, relatedOf_deliverable.mp hrelated⟩
  · rintro ⟨hspan, hrelated⟩
    exact ⟨relatedOf_deliverable.mpr hrelated, rangeOf_inBounds.mpr hspan⟩

end Response

/-! ### Lists in step -/

section Aligned

variable {α β : Type} {R : α → β → Prop} {as : List α} {bs : List β}

theorem exists_forall₂ (h : ∀ b ∈ bs, ∃ a, R a b) : ∃ as, List.Forall₂ R as bs := by
  induction bs with
  | nil => exact ⟨[], .nil⟩
  | cons b bs ih =>
    obtain ⟨⟨a, ha⟩, hbs⟩ := List.forall_mem_cons.mp h
    obtain ⟨as, has⟩ := ih hbs
    exact ⟨a :: as, .cons ha has⟩

theorem forall_mem_iff {p : α → Prop} {q : β → Prop} (h : List.Forall₂ R as bs)
    (hiff : ∀ a b, R a b → (p a ↔ q b)) : (∀ a ∈ as, p a) ↔ ∀ b ∈ bs, q b := by
  induction h with
  | nil => simp
  | cons hab _ ih => rw [List.forall_mem_cons, List.forall_mem_cons, hiff _ _ hab, ih]

end Aligned

/-! ### From outputs to publications -/

/-- What is selected for a document comes from the groups. -/
theorem Matching.mem_of_mem_select {document : String} {groups : List Group} {records : List Record}
    (h : select document groups = .ok records) :
    ∀ r ∈ records, ∃ g ∈ groups, r ∈ g.diagnostics := by
  induction groups generalizing records with
  | nil =>
    cases h
    nofun
  | cons g rest ih =>
    simp only [select, bind_eq_ok] at h
    obtain ⟨found, -, more, hmore, h⟩ := h
    have hlater : ∀ r ∈ more, ∃ g' ∈ g :: rest, r ∈ g'.diagnostics := fun r hr =>
      (ih hmore r hr).imp fun g' ⟨hg', hr⟩ => ⟨List.mem_cons_of_mem _ hg', hr⟩
    cases h
    intro r hr
    split at hr
    · rcases List.mem_append.mp hr with hr | hr
      · exact ⟨g, List.mem_cons_self, hr⟩
      · exact hlater r hr
    · exact hlater r hr

namespace Linter

theorem mem_of_mem_limit {s : Settings} {records : List Record} {r : Record}
    (h : r ∈ limit s records) : r ∈ records := by
  unfold limit at h
  dsimp only at h
  split at h
  · exact (List.mem_filter.mp (List.mem_of_mem_take h)).1
  · exact (List.mem_filter.mp h).1

/-- What an output is found to say is made of its entries. -/
theorem findings_origin {s : Settings} {uri : String} {file : Path} {out : ToolOutput}
    {records : List Record} (h : (findings s uri file out).result = .ok records) :
    ∀ r ∈ records, ∃ entry,
      Response.Origin { requestedUri := uri, source := s.source } out.stdout entry r := by
  unfold findings at h
  simp only [Traced.result_bind, Traced.result_of, Traced.result_pure, bind_eq_ok] at h
  obtain ⟨_, -, _, -, groups, hgroups, selected, hselected, h⟩ := h
  cases h
  intro r hr
  obtain ⟨g, hg, hr⟩ :=
    Matching.mem_of_mem_select (mapError_eq_ok.mp hselected) r (mem_of_mem_limit hr)
  exact Response.parse_origin (mapError_eq_ok.mp hgroups) g hg r hr

/-- A pass comes to an end where the linter can be called, answers, and is read. -/
theorem collect_eq_ok {host : Host} {run : Call → Except Mishap ToolOutput} {s : Settings}
    {workspace : Option Path} {uri : String} {file : Path} {records : List Record} :
    (collect host run s workspace uri file).result = .ok records ↔
      ∃ call out, callFor host s workspace file = .ok call ∧ run call = .ok out ∧
        (findings s uri file out).result = .ok records := by
  unfold collect
  simp only [Traced.result_bind, Traced.result_of, bind_eq_ok, mapError_eq_ok]
  constructor
  · rintro ⟨call, hcall, out, hout, h⟩
    exact ⟨call, out, hcall, hout, h⟩
  · rintro ⟨call, out, hcall, hout, h⟩
    exact ⟨call, hcall, out, hout, h⟩

end Linter

namespace Publication

/-- **What a pass has collected can be published exactly if all the entries it is made of are
presentable**, with any version that is in bounds. The entries are those of the output of the
linter, one for each diagnostic and in its place. -/
theorem collected_notice_iff {host : Host} {run : Linter.Call → Except Mishap ToolOutput}
    {s : Settings} {workspace : Option Path} {uri : String} {file : Path} {records : List Record}
    {version : Option Int}
    (hcollect : (Linter.collect host run s workspace uri file).result = .ok records)
    (hversion : ∀ n ∈ version, minVersion ≤ n ∧ n ≤ maxVersion) :
    ∃ call out entries, Linter.callFor host s workspace file = .ok call ∧ run call = .ok out ∧
      List.Forall₂ (Response.Origin { requestedUri := uri, source := s.source } out.stdout)
        entries records ∧
      ((∃ n, notice { uri, records, version } = .ok n) ↔
        ∀ entry ∈ entries, Response.Presentable entry) := by
  obtain ⟨call, out, hcall, hout, hfindings⟩ := Linter.collect_eq_ok.mp hcollect
  obtain ⟨entries, hentries⟩ := exists_forall₂ (Linter.findings_origin hfindings)
  refine ⟨call, out, entries, hcall, hout, hentries, ?_⟩
  -- The severity that an entry is given where it has none does not matter to the editor.
  have hrecords : (∀ entry ∈ entries, Response.Presentable entry) ↔
      ∀ r ∈ records, r.Deliverable :=
    forall_mem_iff hentries fun entry r ⟨_, severity, hdecoded⟩ =>
      (Response.recordOf_deliverable hdecoded).symm
  rw [notice_ok_iff, hrecords]
  constructor
  · exact fun h => h.records
  · exact fun h => ⟨h, hversion⟩

/-! ### An entry in the way of another -/

/-- The linter finds two things, one of them on a line that has no number in the protocol. -/
def nearAndFar : ToolOutput where
  stdout := "\x7b\"errors\":[\x7b\"message\":\"near\"\x7d,\x7b\"message\":\"far\",\"range\":" ++
    "\x7b\"start\":\x7b\"line\":3000000000\x7d\x7d\x7d]\x7d"
  exitCode := some 1

/-- A diagnostic at the start of a line. -/
def atLine (line : Nat) (message : String) : Record where
  range := ⟨{ line }, { line }, by simp [Position.Before]⟩
  message := .ofString message
  severity := .warning

/-- Both are collected. -/
theorem collect_nearAndFar : (Linter.collect {} (fun _ => .ok nearAndFar) { projectMarkers := [] }
    none "file:///app.py" (Path.ofString "/app.py")).result =
      .ok [atLine 0 "near", atLine 3000000000 "far"] :=
  eq_ok_of_toOption (by decide +kernel)

/-- They cannot be published together. -/
theorem notice_nearAndFar (uri : String) (version : Option Int) (n : Notice) :
    notice ⟨uri, [atLine 0 "near", atLine 3000000000 "far"], version⟩ ≠ .ok n := by
  intro h
  have hall := notice_ok_iff.mp ⟨n, h⟩
  have hfar := (hall.records (atLine 3000000000 "far") (by simp)).range.start.line
  revert hfar
  decide

/-- One of the two entries is not presentable. -/
theorem collected_notice_iff_far :
    (Linter.collect {} (fun _ => .ok nearAndFar) { projectMarkers := [] } none "file:///app.py"
        (Path.ofString "/app.py")).result = .ok [atLine 0 "near", atLine 3000000000 "far"] ∧
      ∃ call out entries,
        Linter.callFor {} { projectMarkers := [] } none (Path.ofString "/app.py") = .ok call ∧
        (fun _ : Linter.Call => (.ok nearAndFar : Except Mishap ToolOutput)) call = .ok out ∧
        List.Forall₂ (Response.Origin { requestedUri := "file:///app.py" } out.stdout) entries
          [atLine 0 "near", atLine 3000000000 "far"] ∧
        ¬ ∀ entry ∈ entries, Response.Presentable entry := by
  have hversion : ∀ n ∈ some (1 : Int), minVersion ≤ n ∧ n ≤ maxVersion := by decide
  obtain ⟨call, out, entries, hcall, hout, hentries, hiff⟩ :=
    collected_notice_iff collect_nearAndFar hversion
  refine ⟨collect_nearAndFar, call, out, entries, hcall, hout, hentries, fun hall => ?_⟩
  obtain ⟨n, hn⟩ := hiff.mpr hall
  exact notice_nearAndFar _ _ n hn

/-- **What a pass has collected need not be publishable.** -/
theorem not_collected_notice : ¬ ∀ (host : Host) (run : Linter.Call → Except Mishap ToolOutput)
    (s : Settings) (workspace : Option Path) (uri : String) (file : Path) (records : List Record)
    (version : Option Int),
    (Linter.collect host run s workspace uri file).result = .ok records →
    (∀ n ∈ version, minVersion ≤ n ∧ n ≤ maxVersion) →
    ∃ n, notice { uri, records, version } = .ok n := by
  intro h
  obtain ⟨n, hn⟩ := h _ _ _ _ _ _ _ none collect_nearAndFar (by decide)
  exact notice_nearAndFar _ _ n hn

end Publication

end LintBridge
