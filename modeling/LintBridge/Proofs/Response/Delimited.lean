import LintBridge.Proofs.Json.Extent
import LintBridge.Proofs.Response.Failure
import LintBridge.Proofs.Text.Lines
import Mathlib.Data.List.Forall2

/-!
# Documents on lines of their own

Several documents that are joined with line feeds are read one by one, each from its line. Joined
they are never one document (`LintBridge.Response.trimmedTo_joined`), so that the lines are indeed
looked at, and blanks around them do not matter. But **the lines of the output need not be those
that were joined**: a string may hold three characters as they are that end a line all the same
(`LintBridge.Response.isSeparator`), and a document with one of them is cut there
(`LintBridge.Response.not_documents_joined`).

`LintBridge.Response.documents_joined` says that there is no other way to lose one: the lines are
the documents exactly if none of them holds a separator, and then all of them are read.
-/

namespace LintBridge.Response

open Json (Value Solid Stops)

/-- The characters that end a line although a string of a document may hold them as they are. -/
def isSeparator (c : Char) : Bool :=
  c == '\x85' || c == '\u2028' || c == '\u2029'

/-! ### A text that holds a document -/

/-- **A text that holds a document and neither line feeds nor carriage returns**: the document is
read from a stretch of it, around which there are blanks that do not end a line. -/
structure OnOneLine (text : List Char) (v : Value) : Prop where
  /-- The document stands between blanks, and can be read in front of anything that may follow. -/
  extent : ∃ before core after, text = before ++ core ++ after ∧ Solid core ∧
    (∀ c ∈ before, Json.isJsonBlank c = true) ∧ (∀ c ∈ after, Json.isJsonBlank c = true) ∧
    ∀ rest, Stops rest → Json.readValue Json.readString Json.maxDepth (core ++ rest) = .ok (v, rest)
  /-- There are no line feeds. -/
  noFeed : '\n' ∉ text
  /-- There are no carriage returns. -/
  noReturn : '\r' ∉ text

/-- A blank that is neither a line feed nor a carriage return ends no line. -/
theorem not_break_of_isJsonBlank {c : Char} (h : Json.isJsonBlank c = true) (hfeed : c ≠ '\n')
    (hreturn : c ≠ '\r') : Text.isLineBreak c = false := by
  simp only [Json.isJsonBlank, Bool.or_eq_true, beq_iff_eq] at h
  obtain ((rfl | rfl) | rfl) | rfl := h
  · rfl
  · rfl
  · exact absurd rfl hfeed
  · exact absurd rfl hreturn

/-- Of what may stand in a document, only the separators end a line, apart from line feeds and
carriage returns. -/
theorem isLineBreak_eq_isSeparator {c : Char} (h : Json.isPlain c = true) (hfeed : c ≠ '\n')
    (hreturn : c ≠ '\r') : Text.isLineBreak c = isSeparator c := by
  by_cases hblank : Json.isJsonBlank c = true
  · rw [not_break_of_isJsonBlank hblank hfeed hreturn]
    simp only [Json.isJsonBlank, Bool.or_eq_true, beq_iff_eq] at hblank
    obtain ((rfl | rfl) | rfl) | rfl := hblank <;> rfl
  · have hle : 32 ≤ c.val.toNat := by simpa [Json.isPlain, hblank] using h
    rw [Bool.eq_iff_iff]
    simp only [Text.isLineBreak, isSeparator, Bool.or_eq_true, Bool.and_eq_true,
      decide_eq_true_eq, beq_iff_eq, ← Char.toNat_inj]
    change _ ↔ (c.val.toNat = 0x85 ∨ c.val.toNat = 0x2028) ∨ c.val.toNat = 0x2029
    omega

namespace OnOneLine

variable {text : List Char} {v : Value}

theorem of_read {text : String} (h : Json.read text = .ok v) (hfeed : '\n' ∉ text.toList)
    (hreturn : '\r' ∉ text.toList) : OnOneLine text.toList v :=
  ⟨Json.read_extends h, hfeed, hreturn⟩

/-- Only separators end a line in it. -/
theorem isLineBreak (h : OnOneLine text v) {c : Char} (hc : c ∈ text) :
    Text.isLineBreak c = isSeparator c := by
  obtain ⟨before, core, after, rfl, hsolid, hbefore, hafter, -⟩ := h.extent
  refine isLineBreak_eq_isSeparator ?_ (fun heq => h.noFeed (heq ▸ hc))
    fun heq => h.noReturn (heq ▸ hc)
  rcases List.mem_append.mp hc with hc | hc
  · rcases List.mem_append.mp hc with hc | hc
    · exact Json.isPlain_of_isJsonBlank (hbefore c hc)
    · exact hsolid.plain c hc
  · exact Json.isPlain_of_isJsonBlank (hafter c hc)

/-- The blanks around the document are blank, and end no line. -/
theorem idle (h : OnOneLine text v) {blanks : List Char}
    (hblanks : ∀ c ∈ blanks, Json.isJsonBlank c = true) (hsub : ∀ c ∈ blanks, c ∈ text) :
    ∀ c ∈ blanks, Text.isBlank c = true ∧ Text.isLineBreak c = false := by
  intro c hc
  have hmem := hsub c hc
  refine ⟨Json.isBlank_of_isJsonBlank (hblanks c hc), ?_⟩
  exact not_break_of_isJsonBlank (hblanks c hc) (fun heq => h.noFeed (heq ▸ hmem))
    fun heq => h.noReturn (heq ▸ hmem)

theorem ne_nil (h : OnOneLine text v) : text ≠ [] := by
  obtain ⟨before, core, after, rfl, hsolid, -⟩ := h.extent
  simp [hsolid.ne_nil]

/-- From its first character that is not blank on, it is no document together with a line after it
that is not blank. -/
theorem opens (h : OnOneLine text v) : ∃ before start, text = before ++ start ∧ start ≠ [] ∧
    (∀ c ∈ before, Text.isBlank c = true ∧ Text.isLineBreak c = false) ∧
    (∀ c ∈ start.head?, Text.isBlank c = false) ∧
    ∀ after, (∃ c ∈ after, Text.isBlank c = false) →
      ∃ remaining, Json.readDocument Json.readString (start ++ '\n' :: after) =
        .error (.malformed .extraData remaining) := by
  obtain ⟨before, core, blanks, rfl, hsolid, hbefore, hblanks, hread⟩ := h.extent
  refine ⟨before, core ++ blanks, List.append_assoc _ _ _, by simp [hsolid.ne_nil],
    h.idle hbefore fun c hc => by simp [hc], ?_, ?_⟩
  · rw [List.head?_append_of_ne_nil _ hsolid.ne_nil]
    exact hsolid.head
  · rintro after ⟨c, hc, hnot⟩
    have hstops : Stops (blanks ++ '\n' :: after) :=
      Stops.append (by rintro _ ⟨⟩; exact .inl rfl) hblanks
    rw [List.append_assoc, Json.readDocument_of_extent hsolid (hread _ hstops)]
    split
    · -- What comes after the document is not all blank.
      rename_i hnil
      have hmem : c ∈ blanks ++ '\n' :: after := by simp [hc]
      have hblank := List.dropWhile_eq_nil_iff.mp hnil c hmem
      rw [Json.isBlank_of_isJsonBlank hblank] at hnot
      cases hnot
    · exact ⟨_, rfl⟩

/-- Up to its last character that is not blank, it differs from the whole in blanks only. -/
theorem closes (h : OnOneLine text v) : ∃ finish after, text = finish ++ after ∧ finish ≠ [] ∧
    (∀ c ∈ after, Text.isBlank c = true ∧ Text.isLineBreak c = false) ∧
    ∃ c ∈ finish.getLast?, Text.isBlank c = false := by
  obtain ⟨before, core, after, rfl, hsolid, -, hafter, -⟩ := h.extent
  have hlast := List.getLast?_eq_some_getLast hsolid.ne_nil
  refine ⟨before ++ core, after, rfl, by simp [hsolid.ne_nil],
    h.idle hafter fun c hc => by simp [hc], core.getLast hsolid.ne_nil, ?_,
    hsolid.last _ hlast⟩
  rw [List.getLast?_append_of_ne_nil _ hsolid.ne_nil, hlast]
  rfl

/-- Trimmed it is the same document. -/
theorem read_strip (h : OnOneLine text v) : Text.stripList Text.isBlank text ≠ [] ∧
    Json.read (String.ofList (Text.stripList Text.isBlank text)) = .ok v := by
  obtain ⟨before, core, after, rfl, hsolid, hbefore, hafter, hread⟩ := h.extent
  have hstrip : Text.stripList Text.isBlank (before ++ core ++ after) = core := by
    rw [Text.stripList_append_right fun c hc => Json.isBlank_of_isJsonBlank (hafter c hc),
      Text.stripList_append_left fun c hc => Json.isBlank_of_isJsonBlank (hbefore c hc),
      Text.stripList_of_ends hsolid.head hsolid.last]
  have hdocument := Json.readDocument_of_extent hsolid (hread [] Json.stops_nil)
  rw [List.append_nil] at hdocument
  rw [hstrip]
  refine ⟨hsolid.ne_nil, ?_⟩
  rw [Json.read, String.toList_ofList, hdocument]
  rfl

end OnOneLine

/-! ### Several texts joined -/

/-- Several texts joined with line feeds. -/
def joined (ts : List (List Char)) : List Char :=
  ['\n'].intercalate ts

section Joined

variable (a b t u : List Char) (mid : List (List Char))

/-- What the first of several texts begins with and the last one ends with is what the whole begins
and ends with. -/
theorem joined_ends : joined ((a ++ t) :: (mid ++ [u ++ b])) =
    a ++ joined (t :: (mid ++ [u])) ++ b := by
  rw [joined, Text.intercalate_append_cons, ← List.cons_append, Text.intercalate_concat_append,
    joined, List.cons_append, List.append_assoc]

/-- What comes after the first of several texts ends with the last one. -/
theorem joined_cons_concat :
    ∃ between, joined (t :: (mid ++ [u])) = t ++ '\n' :: (between ++ u) := by
  refine ⟨joined (mid ++ [[]]), ?_⟩
  rw [joined, List.intercalate_cons_of_ne_nil (by simp), joined, ← List.nil_append u,
    Text.intercalate_concat_append]
  simp only [List.append_assoc, List.singleton_append, List.nil_append]

end Joined

/-- **What trimming leaves of several documents on lines of their own**: texts on as many lines that
differ only in blanks at their ends, and no document. -/
structure TrimmedTo (ts : List (List Char)) (m : List Char) : Prop where
  /-- The texts, less the blanks at the two ends of the whole. -/
  parts : ∃ ts', m = joined ts' ∧
    ts'.map (Text.stripList Text.isBlank) = ts.map (Text.stripList Text.isBlank) ∧
    ∀ t' ∈ ts', t' ≠ [] ∧ ∀ c ∈ t', ∃ t ∈ ts, c ∈ t
  /-- Nothing that ends a line has been taken off. -/
  breaks : m.countP Text.isLineBreak = (joined ts).countP Text.isLineBreak
  /-- The last character ends no line. -/
  last : ∃ c ∈ m.getLast?, Text.isLineBreak c = false
  /-- It is no document, since something comes after the first one. -/
  notOne : ∃ remaining,
    Json.readDocument Json.readString m = .error (.malformed .extraData remaining)

theorem countP_of_idle {l : List Char}
    (h : ∀ c ∈ l, Text.isBlank c = true ∧ Text.isLineBreak c = false) :
    l.countP Text.isLineBreak = 0 :=
  List.countP_eq_zero.mpr fun c hc => by simp [(h c hc).2]

/-- Trimming takes off what is blank before the first document and after the last one. -/
theorem strip_joined {t₁ t₂ : List Char} {v₁ v₂ : Value} (h₁ : OnOneLine t₁ v₁)
    (h₂ : OnOneLine t₂ v₂) {mid : List (List Char)} (hmid : ∀ t ∈ mid, t ≠ []) :
    TrimmedTo (t₁ :: (mid ++ [t₂]))
      (Text.stripList Text.isBlank (joined (t₁ :: (mid ++ [t₂])))) := by
  obtain ⟨before, start, rfl, hstart, hbefore, hhead, hextra⟩ := h₁.opens
  obtain ⟨finish, after, rfl, hfinish, hafter, last, hlast, hnot⟩ := h₂.closes
  obtain ⟨between, hbetween⟩ := joined_cons_concat start finish mid
  have hends := joined_ends before after start finish mid
  have hwhole : (joined (start :: (mid ++ [finish]))).head? = start.head? ∧
      (joined (start :: (mid ++ [finish]))).getLast? = some last := by
    rw [hbetween, ← List.cons_append, ← List.append_assoc,
      List.getLast?_append_of_ne_nil _ hfinish, List.append_assoc,
      List.head?_append_of_ne_nil _ hstart]
    exact ⟨rfl, hlast⟩
  -- Neither end of that is blank, so that nothing more is taken off.
  have hstrip : Text.stripList Text.isBlank
      (joined ((before ++ start) :: (mid ++ [finish ++ after]))) =
        joined (start :: (mid ++ [finish])) := by
    rw [hends, Text.stripList_append_right fun c hc => (hafter c hc).1,
      Text.stripList_append_left fun c hc => (hbefore c hc).1, Text.stripList_of_ends]
    · rwa [hwhole.1]
    · rw [hwhole.2]
      rintro _ ⟨⟩
      exact hnot
  rw [hstrip]
  refine ⟨⟨start :: (mid ++ [finish]), rfl, ?_, ?_⟩, ?_, ?_, ?_⟩
  · simp only [List.map_cons, List.map_append, List.map_nil]
    rw [Text.stripList_append_left fun c hc => (hbefore c hc).1,
      Text.stripList_append_right fun c hc => (hafter c hc).1]
  · intro t' ht'
    have hcases : t' = start ∨ t' ∈ mid ∨ t' = finish := by simpa using ht'
    rcases hcases with rfl | hmem | rfl
    · exact ⟨hstart, fun c hc => ⟨_, List.mem_cons_self, List.mem_append_right _ hc⟩⟩
    · exact ⟨hmid t' hmem, fun c hc => ⟨t', by simp [hmem], hc⟩⟩
    · exact ⟨hfinish, fun c hc => ⟨t' ++ after, by simp, List.mem_append_left _ hc⟩⟩
  · rw [hends, List.countP_append, List.countP_append, countP_of_idle hbefore,
      countP_of_idle hafter, Nat.zero_add, Nat.add_zero]
  · exact ⟨last, hwhole.2, Text.not_break_of_not_blank hnot⟩
  · rw [hbetween]
    refine hextra _ ⟨last, List.mem_append_right _ ?_, hnot⟩
    exact List.mem_of_mem_getLast? hlast

/-- Two documents or more are no document once they are joined and trimmed. -/
theorem trimmedTo_joined {ts : List (List Char)} (htwo : 2 ≤ ts.length)
    (hone : ∀ t ∈ ts, ∃ v, OnOneLine t v) :
    TrimmedTo ts (Text.stripList Text.isBlank (joined ts)) := by
  cases ts with
  | nil => simp at htwo
  | cons t₁ rest =>
    rcases List.eq_nil_or_concat' rest with rfl | ⟨mid, t₂, rfl⟩
    · simp at htwo
    · obtain ⟨v₁, h₁⟩ := hone t₁ (by simp)
      obtain ⟨v₂, h₂⟩ := hone t₂ (by simp)
      refine strip_joined h₁ h₂ fun t ht => ?_
      obtain ⟨v, h⟩ := hone t (by simp [ht])
      exact h.ne_nil

namespace TrimmedTo

variable {ts : List (List Char)} {m : List Char}

theorem noReturn (h : TrimmedTo ts m) (hts : ∀ t ∈ ts, '\r' ∉ t) : '\r' ∉ m := by
  obtain ⟨ts', rfl, -, hmem⟩ := h.parts
  intro hc
  cases ts' with
  | nil => cases hc
  | cons t' ts' =>
    rcases Text.mem_intercalate_cons _ _ hc with hc | ⟨u, hu, hc⟩
    · simp at hc
    · obtain ⟨t, ht, hc⟩ := (hmem u hu).2 _ hc
      exact hts t ht hc

/-- Its lines are the texts exactly if no line ends within one of them. -/
theorem lines_iff (h : TrimmedTo ts m) (hne : ts ≠ []) (hts : ∀ t ∈ ts, '\r' ∉ t) :
    (Text.lines m).map (Text.stripList Text.isBlank) = ts.map (Text.stripList Text.isBlank) ↔
      ∀ t ∈ ts, ∀ c ∈ t, Text.isLineBreak c = false := by
  constructor
  · -- As many lines as texts leave no characters that end a line but those that join the texts.
    intro heq t ht c hc
    have hlength : (Text.lines m).length = ts.length := by
      simpa using congrArg List.length heq
    have hcount := Text.length_lines (h.noReturn hts) h.last
    have hsum := Text.countP_intercalate hne
    have hbreaks := h.breaks
    rw [joined] at hbreaks
    have hzero : ts.flatten.countP Text.isLineBreak = 0 := by omega
    simpa using List.countP_eq_zero.mp hzero c (List.mem_flatten_of_mem ht hc)
  · -- The texts that are left are lines, and differ from those that were joined in blanks only.
    intro hunbroken
    obtain ⟨ts', rfl, hstrip, hmem⟩ := h.parts
    have hne' : ts' ≠ [] := by
      rintro rfl
      exact hne (List.map_eq_nil_iff.mp hstrip.symm)
    have hunbroken' : ∀ t' ∈ ts', ∀ c ∈ t', Text.isLineBreak c = false := by
      intro t' ht' c hc
      obtain ⟨t, ht, hc⟩ := (hmem t' ht').2 c hc
      exact hunbroken t ht c hc
    rw [joined, Text.lines_intercalate hne' hunbroken' fun t' ht' =>
      (hmem t' (List.mem_of_mem_getLast? ht')).1, hstrip]

end TrimmedTo

/-! ### Reading them -/

theorem exists_right {α β : Type} {R : α → β → Prop} {as : List α} {bs : List β}
    (h : List.Forall₂ R as bs) : ∀ a ∈ as, ∃ b, R a b := by
  induction h with
  | nil => nofun
  | cons hab _ ih => exact List.forall_mem_cons.mpr ⟨⟨_, hab⟩, ih⟩

/-- Lines that are documents once they are trimmed are all read. -/
theorem lineDocuments_of_read {lines : List (List Char)} {values : List Value}
    (h : List.Forall₂ (fun line v => Json.read (String.ofList line) = .ok v ∧ line ≠ [])
      (lines.map (Text.stripList Text.isBlank)) values) :
    lineDocuments lines = .ok values := by
  rw [List.forall₂_map_left_iff] at h
  induction h with
  | nil => rfl
  | cons hline hrest ih =>
    unfold lineDocuments
    split
    · rename_i hnil
      exact absurd hnil hline.2
    · rw [hline.1, ih]
      rfl

/-- An output that is no document is read line by line. -/
theorem documents_of_lines {stdout : String} {place : Json.Place} {values : List Value}
    (hwhole : Json.read (String.ofList (trimmed stdout)) = .error (.malformed .extraData place))
    (hlines : lineDocuments (Text.lines (trimmed stdout)) = .ok values) (hne : values ≠ []) :
    documents stdout = .ok values := by
  unfold documents
  split
  · rename_i hnil
    rw [trimmed, hnil] at hlines
    cases hlines
    exact absurd rfl hne
  · rw [trimmed] at hwhole hlines
    rw [hwhole, hlines]
    cases values with
    | nil => exact absurd rfl hne
    | cons v values => rfl

/-- A text of several lines, trimmed. -/
theorem trimmed_intercalate (texts : List String) : trimmed ("\n".intercalate texts) =
    Text.stripList Text.isBlank (joined (texts.map String.toList)) := by
  rw [trimmed, String.toList_intercalate]
  rfl

section Documents

variable {texts : List String} {values : List Value}

/-- Several documents without line feeds and carriage returns. -/
theorem onOneLine_of_read (hread : List.Forall₂ (fun text v => Json.read text = .ok v) texts values)
    (hline : ∀ text ∈ texts, '\n' ∉ text.toList ∧ '\r' ∉ text.toList) :
    List.Forall₂ (fun text v => OnOneLine text.toList v) texts values := by
  refine ((List.forall₂_and_left texts values).mpr ⟨hline, hread⟩).imp ?_
  rintro text v ⟨⟨hfeed, hreturn⟩, h⟩
  exact .of_read h hfeed hreturn

/-- Only separators end a line in one of them. -/
theorem unbroken_iff (hone : List.Forall₂ (fun text v => OnOneLine text.toList v) texts values) :
    (∀ t ∈ texts.map String.toList, ∀ c ∈ t, Text.isLineBreak c = false) ↔
      ∀ text ∈ texts, ∀ c ∈ text.toList, isSeparator c = false := by
  rw [List.forall_mem_map]
  refine forall₂_congr fun text htext => forall₂_congr fun c hc => ?_
  obtain ⟨v, hv⟩ := exists_right hone text htext
  rw [hv.isLineBreak hc]

/-- **Documents on lines of their own are read one by one**, whatever blanks stand around them.
Joined they are no document, so that the lines are looked at; the lines are the documents, up to
blanks, exactly if none of them holds a separator; and then each is read, in order. (Only the lines
can be told apart that exactly: where an object repeats a key, what is cut may be without a trace in
its value.) -/
theorem documents_joined
    (hread : List.Forall₂ (fun text v => Json.read text = .ok v) texts values)
    (htwo : 2 ≤ texts.length)
    (hline : ∀ text ∈ texts, '\n' ∉ text.toList ∧ '\r' ∉ text.toList) :
    (∃ place, Json.read (String.ofList (trimmed ("\n".intercalate texts))) =
      .error (.malformed .extraData place)) ∧
    ((Text.lines (trimmed ("\n".intercalate texts))).map (Text.stripList Text.isBlank) =
        texts.map trimmed ↔
      ∀ text ∈ texts, ∀ c ∈ text.toList, isSeparator c = false) ∧
    ((∀ text ∈ texts, ∀ c ∈ text.toList, isSeparator c = false) →
      documents ("\n".intercalate texts) = .ok values) := by
  have hone := onOneLine_of_read hread hline
  -- All of this is about what is left of the whole when it is trimmed.
  have hne : texts.map String.toList ≠ [] := by
    rw [← List.length_pos_iff, List.length_map]
    omega
  have hparts := trimmedTo_joined (by rwa [List.length_map])
    (List.forall_mem_map.mpr fun text htext => exists_right hone text htext)
  rw [← trimmed_intercalate] at hparts
  have hiff := hparts.lines_iff hne (List.forall_mem_map.mpr fun text htext => (hline text htext).2)
  rw [unbroken_iff hone, List.map_map] at hiff
  obtain ⟨remaining, hwhole⟩ := hparts.notOne
  have hfull : Json.read (String.ofList (trimmed ("\n".intercalate texts))) =
      .error (Json.Fault.toError (trimmed ("\n".intercalate texts))
        (.malformed .extraData remaining)) := by
    rw [Json.read, String.toList_ofList, hwhole]
    rfl
  refine ⟨⟨_, hfull⟩, hiff, fun hnone => documents_of_lines hfull (lineDocuments_of_read ?_) ?_⟩
  · rw [hiff.mpr hnone, List.forall₂_map_left_iff]
    exact hone.imp fun text v h => h.read_strip.symm
  · rintro rfl
    cases hone
    simp at htwo

end Documents

/-- Two documents with blanks around them. -/
theorem documents_joined_spaced :
    (∃ place, Json.read (String.ofList (trimmed ("\n".intercalate [" \"a\" ", "1 "]))) =
      .error (.malformed .extraData place)) ∧
    documents ("\n".intercalate [" \"a\" ", "1 "]) = .ok [.string [.scalar 'a'], .int 1] := by
  have hread : List.Forall₂ (fun text v => Json.read text = .ok v) [" \"a\" ", "1 "]
      [.string [.scalar 'a'], .int 1] := .cons rfl (.cons rfl .nil)
  have hnone : [" \"a\" ", "1 "].all (fun text => text.toList.all fun c => !isSeparator c) = true :=
    rfl
  obtain ⟨hwhole, -, hdocuments⟩ := documents_joined hread (by decide) (by decide)
  refine ⟨hwhole, hdocuments fun text htext c hc => ?_⟩
  have htext' := List.all_eq_true.mp hnone text htext
  simpa using List.all_eq_true.mp htext' c hc

/-- A string that holds a separator is lost when its document stands on a line of its own. -/
theorem not_documents_joined : ¬ ∀ (texts : List String) (values : List Value),
    List.Forall₂ (fun text v => Json.read text = .ok v) texts values → 2 ≤ texts.length →
    (∀ text ∈ texts, '\n' ∉ text.toList ∧ '\r' ∉ text.toList) →
    documents ("\n".intercalate texts) = .ok values := by
  intro h
  have hread : List.Forall₂ (fun text v => Json.read text = .ok v) ["\"\u2028\"", "1"]
      [.string [.scalar '\u2028'], .int 1] := .cons rfl (.cons rfl .nil)
  have hcut : documents ("\n".intercalate ["\"\u2028\"", "1"]) = .ok [.int 1] := rfl
  have hall := h _ _ hread (by decide) (by decide)
  rw [hcut] at hall
  cases hall

end LintBridge.Response
