import LintBridge.Proofs.Json.Token

/-!
# How far a value extends

How far a value reads can be told from what it reads, since that is so of strings and numbers
(`LintBridge.Json.Extends`) and arrays and objects end at their closing brackets. Items and entries
are read alike, as parts with commas between them (`LintBridge.Json.Listed`), which leaves the
bounds on their number out of the argument.

A whole document is a value between blanks. `LintBridge.Json.read_extends` says where its value
begins and ends, and `LintBridge.Json.readDocument_of_extent` what becomes of the document when
anything else is put after the value: nothing if that is blank, and otherwise it is no document.
-/

namespace LintBridge.Json

/-! ### Values -/

theorem readScalar_extends : Extends (readScalar readString) := by
  intro s v rest h
  unfold readScalar at h
  split at h
  · obtain ⟨⟨t, rest₀⟩, h', heq⟩ := bind_eq_ok.mp h
    cases heq
    obtain ⟨core, rfl, hsolid, hread⟩ := readString_extends h'
    refine ⟨'"' :: core, rfl, hsolid, fun rest' _ => ?_⟩
    rw [List.cons_append, readScalar, hread]
    rfl
  · cases h
    exact ⟨"null".toList, rfl, .of_all (by decide) rfl, fun _ _ => rfl⟩
  · cases h
    exact ⟨"true".toList, rfl, .of_all (by decide) rfl, fun _ _ => rfl⟩
  · cases h
    exact ⟨"false".toList, rfl, .of_all (by decide) rfl, fun _ _ => rfl⟩
  · cases h
    exact ⟨"NaN".toList, rfl, .of_all (by decide) rfl, fun _ _ => rfl⟩
  · cases h
    exact ⟨"Infinity".toList, rfl, .of_all (by decide) rfl, fun _ _ => rfl⟩
  · cases h
    exact ⟨"-Infinity".toList, rfl, .of_all (by decide) rfl, fun _ _ => rfl⟩
  · exact readNumber_extends h

section Containers

variable {string : Step CodePoints} {item : Step Value} {s rest : List Char}

/-- What comes after blanks, with the blanks. -/
theorem exists_blanks_of_skipBlanks {c : Char} (h : skipBlanks s = c :: rest) :
    ∃ blanks, s = blanks ++ c :: rest ∧ (∀ b ∈ blanks, isJsonBlank b = true) ∧
      ∀ rest', skipBlanks (blanks ++ c :: rest') = c :: rest' := by
  obtain ⟨blanks, hs, hblanks⟩ := exists_blanks s
  rw [h] at hs
  refine ⟨blanks, hs, hblanks, fun rest' => ?_⟩
  rw [skipBlanks_append hblanks]
  refine skipBlanks_of_head ?_
  rintro _ ⟨⟩
  have hnot := List.head?_dropWhile_not isJsonBlank s
  rw [← skipBlanks, h] at hnot
  simpa using hnot

theorem plain_blanks {blanks : List Char} (h : ∀ c ∈ blanks, isJsonBlank c = true) :
    ∀ c ∈ blanks, isPlain c = true :=
  fun c hc => isPlain_of_isJsonBlank (h c hc)

/-- Between two parts stand blanks, one more character, and blanks again. -/
theorem plain_between {before after : List Char} {c : Char}
    (hbefore : ∀ b ∈ before, isJsonBlank b = true) (hc : isPlain c = true)
    (hafter : ∀ b ∈ after, isJsonBlank b = true) :
    ∀ b ∈ before ++ c :: after, isPlain b = true := by
  intro b hb
  rcases List.mem_append.mp hb with hb | hb
  · exact plain_blanks hbefore b hb
  · rcases List.mem_cons.mp hb with rfl | hb
    · exact hc
    · exact plain_blanks hafter b hb

/-- **What is read of a list of parts**: parts with commas between them, up to a closing bracket. -/
inductive Listed {α : Type} (part : Step α) (close : Char) :
    List Char → List α → List Char → Prop where
  /-- The last part, with the bracket after it. -/
  | last {s after rest : List Char} {a : α} (read : part s = .ok (a, after))
      (closed : skipBlanks after = close :: rest) : Listed part close s [a] rest
  /-- A part, with a comma and more parts after it. -/
  | more {s after next rest : List Char} {a : α} {as : List α} (read : part s = .ok (a, after))
      (comma : skipBlanks after = ',' :: next)
      (others : Listed part close (skipBlanks next) as rest) : Listed part close s (a :: as) rest

/-- **A list of parts ends at its closing bracket**, whatever comes after that. -/
theorem Listed.extent {α : Type} {part : Step α} (hpart : Extends part) {close : Char}
    (hclose : close = ']' ∨ close = '\x7d') {as : List α} (h : Listed part close s as rest) :
    ∃ core, s = core ++ rest ∧ Solid core ∧ as.length ≤ core.length ∧
      ∀ rest', Listed part close (core ++ rest') as rest' := by
  induction h with
  | @last s after rest a read closed =>
    obtain ⟨first, rfl, hfirst, hread⟩ := hpart s a after read
    obtain ⟨blanks, rfl, hblanks, hskip⟩ := exists_blanks_of_skipBlanks closed
    have hbracket : Solid [close] := Solid.singleton (by tauto)
    refine ⟨first ++ (blanks ++ [close]), by simp, hfirst.append hbracket (plain_blanks hblanks),
      by simp only [List.length_append, List.length_singleton]; omega, fun rest' => ?_⟩
    have hread' := hread (blanks ++ close :: rest') ((stops_cons (.inr hclose)).append hblanks)
    have htext : first ++ (blanks ++ [close]) ++ rest' = first ++ (blanks ++ close :: rest') := by
      simp
    rw [htext]
    exact .last hread' (hskip rest')
  | @more s after next rest a as read comma others ih =>
    obtain ⟨first, rfl, hfirst, hread⟩ := hpart s a after read
    obtain ⟨blanks, rfl, hblanks, hskip⟩ := exists_blanks_of_skipBlanks comma
    obtain ⟨blanks', hnext, hblanks'⟩ := exists_blanks next
    obtain ⟨core, hcore, hsolid, hlength, hothers⟩ := ih
    refine ⟨first ++ ((blanks ++ ',' :: blanks') ++ core), ?_,
      hfirst.append hsolid (plain_between hblanks rfl hblanks'), ?_, fun rest' => ?_⟩
    · rw [hnext, hcore]
      simp
    · simp only [List.length_cons, List.length_append]
      omega
    · have hread' := hread (blanks ++ ',' :: (blanks' ++ (core ++ rest')))
        ((stops_cons (.inl rfl)).append hblanks)
      have hskip' : skipBlanks (blanks' ++ (core ++ rest')) = core ++ rest' := by
        rw [skipBlanks_append hblanks', hsolid.skipBlanks_append]
      have htext : first ++ ((blanks ++ ',' :: blanks') ++ core) ++ rest' =
          first ++ (blanks ++ ',' :: (blanks' ++ (core ++ rest'))) := by simp
      rw [htext]
      refine .more hread' (hskip _) ?_
      rw [hskip']
      exact hothers rest'

/-- There are no more parts than characters. -/
theorem Listed.length_le {α : Type} {part : Step α} (hpart : Extends part) {close : Char}
    (hclose : close = ']' ∨ close = '\x7d') {as : List α} (h : Listed part close s as rest) :
    as.length ≤ s.length := by
  obtain ⟨core, rfl, -, hlength, -⟩ := h.extent hpart hclose
  rw [List.length_append]
  omega

theorem listed_of_readItems {fuel : Nat} {vs : List Value}
    (h : readItems item fuel s = .ok (vs, rest)) : Listed item ']' s vs rest := by
  induction fuel generalizing s vs rest with
  | zero => cases h
  | succ fuel ih =>
    obtain ⟨⟨v, after⟩, hread, h⟩ := bind_eq_ok.mp h
    simp only at h
    split at h
    · rename_i hclosed
      cases h
      exact .last hread hclosed
    · rename_i hcomma
      obtain ⟨⟨vs', rest'⟩, hothers, h⟩ := bind_eq_ok.mp h
      cases h
      exact .more hread hcomma (ih hothers)
    · cases h

theorem readItems_of_listed {vs : List Value} (h : Listed item ']' s vs rest) :
    ∀ fuel, vs.length ≤ fuel → readItems item fuel s = .ok (vs, rest) := by
  induction h with
  | last read closed =>
    rintro (_ | fuel) hle
    · cases hle
    · simp only [readItems, read, bind, Except.bind, closed]
  | more read comma others ih =>
    rintro (_ | fuel) hle
    · cases hle
    · simp only [readItems, read, bind, Except.bind, comma, ih fuel (Nat.le_of_succ_le_succ hle)]

theorem listed_of_readEntries {fuel : Nat} {entries : List (CodePoints × Value)}
    (h : readEntries string item fuel s = .ok (entries, rest)) :
    Listed (readEntry string item) '\x7d' s entries rest := by
  induction fuel generalizing s entries rest with
  | zero => cases h
  | succ fuel ih =>
    obtain ⟨⟨entry, after⟩, hread, h⟩ := bind_eq_ok.mp h
    simp only at h
    split at h
    · rename_i hclosed
      cases h
      exact .last hread hclosed
    · rename_i hcomma
      obtain ⟨⟨entries', rest'⟩, hothers, h⟩ := bind_eq_ok.mp h
      cases h
      exact .more hread hcomma (ih hothers)
    · cases h

theorem readEntries_of_listed {entries : List (CodePoints × Value)}
    (h : Listed (readEntry string item) '\x7d' s entries rest) :
    ∀ fuel, entries.length ≤ fuel → readEntries string item fuel s = .ok (entries, rest) := by
  induction h with
  | last read closed =>
    rintro (_ | fuel) hle
    · cases hle
    · simp only [readEntries, read, bind, Except.bind, closed]
  | more read comma others ih =>
    rintro (_ | fuel) hle
    · cases hle
    · simp only [readEntries, read, bind, Except.bind, comma, ih fuel (Nat.le_of_succ_le_succ hle)]

/-- A name and its value. -/
theorem readEntry_extends (hitem : Extends item) : Extends (readEntry readString item) := by
  intro s entry rest h
  unfold readEntry at h
  split at h
  · rename_i s
    obtain ⟨⟨key, after⟩, hkey, hvalue⟩ := bind_eq_ok.mp h
    obtain ⟨name, rfl, hname, hreadName⟩ := readString_extends hkey
    simp only at hvalue
    split at hvalue
    · rename_i rest₀ hcolon
      obtain ⟨⟨v, rest₁⟩, hv, heq⟩ := bind_eq_ok.mp hvalue
      cases heq
      obtain ⟨blanks, rfl, hblanks, hskip⟩ := exists_blanks_of_skipBlanks hcolon
      obtain ⟨blanks', hrest₀, hblanks'⟩ := exists_blanks rest₀
      obtain ⟨value, hvalue, hsolid, hreadValue⟩ := hitem _ v _ hv
      refine ⟨'"' :: name ++ ((blanks ++ ':' :: blanks') ++ value), ?_,
        hname.append hsolid (plain_between hblanks rfl hblanks'), fun rest' hrest' => ?_⟩
      · rw [hrest₀, hvalue]
        simp
      · have hname' := hreadName (blanks ++ ':' :: (blanks' ++ (value ++ rest')))
        have hskip' : skipBlanks (blanks' ++ (value ++ rest')) = value ++ rest' := by
          rw [skipBlanks_append hblanks', hsolid.skipBlanks_append]
        have htext : '"' :: name ++ ((blanks ++ ':' :: blanks') ++ value) ++ rest' =
            '"' :: (name ++ (blanks ++ ':' :: (blanks' ++ (value ++ rest')))) := by simp
        rw [htext]
        simp only [readEntry, hname', bind, Except.bind, hskip, hskip', hreadValue rest' hrest']
    · cases hvalue
  · cases h

/-- The stretch between two brackets, of which the first one has been read already. -/
theorem Solid.bracketed {core blanks : List Char} {c : Char} (hc : c = '[' ∨ c = '\x7b')
    (hblanks : ∀ b ∈ blanks, isJsonBlank b = true) (h : Solid core) :
    Solid (c :: (blanks ++ core)) :=
  (Solid.singleton (by tauto)).append h (plain_blanks hblanks)

/-- What a solid stretch begins with does not depend on what comes after it. -/
theorem Solid.ne_cons {core : List Char} {c : Char} (h : Solid core)
    (hnot : ∀ r, core ++ rest ≠ c :: r) (rest' : List Char) : ∀ r, core ++ rest' ≠ c :: r := by
  obtain ⟨d, core, rfl⟩ := List.exists_cons_of_ne_nil h.ne_nil
  rintro r ⟨⟩
  exact hnot _ rfl

/-- **What is read between two brackets**: nothing but blanks, or a list of parts. -/
inductive Enclosed {α : Type} (part : Step α) (close : Char) (make : List α → Value)
    (s : List Char) (rest : List Char) : Value → Prop where
  /-- The brackets enclose nothing. -/
  | empty (closed : skipBlanks s = close :: rest) : Enclosed part close make s rest (make [])
  /-- They enclose parts. -/
  | parts {as : List α} (nonempty : ∀ r, skipBlanks s ≠ close :: r)
      (listed : Listed part close (skipBlanks s) as rest) :
      Enclosed part close make s rest (make as)

/-- What is enclosed ends at the closing bracket, whatever comes after that. -/
theorem Enclosed.extent {α : Type} {part : Step α} (hpart : Extends part) {opening close : Char}
    (hopening : opening = '[' ∨ opening = '\x7b') (hclose : close = ']' ∨ close = '\x7d')
    {make : List α → Value} {v : Value} (h : Enclosed part close make s rest v) :
    ∃ core, s = core ++ rest ∧ Solid (opening :: core) ∧
      ∀ rest', Enclosed part close make (core ++ rest') rest' v := by
  obtain ⟨blanks, hs, hblanks⟩ := exists_blanks s
  have hskip : ∀ core rest', Solid core →
      skipBlanks (blanks ++ core ++ rest') = core ++ rest' := by
    intro core rest' hsolid
    rw [List.append_assoc, skipBlanks_append hblanks, hsolid.skipBlanks_append]
  cases h with
  | empty closed =>
    have hend : Solid [close] := Solid.singleton (by tauto)
    refine ⟨blanks ++ [close], ?_, hend.bracketed hopening hblanks, fun rest' => ?_⟩
    · rw [hs, closed]
      simp
    · exact .empty (hskip _ rest' hend)
  | parts nonempty listed =>
    obtain ⟨core, hcore, hsolid, -, hlisted⟩ := listed.extent hpart hclose
    refine ⟨blanks ++ core, ?_, hsolid.bracketed hopening hblanks, fun rest' => ?_⟩
    · rw [hs, hcore]
      simp
    · have hrest' := hskip core rest' hsolid
      refine .parts ?_ ?_
      · rw [hrest']
        exact hsolid.ne_cons (fun r hr => nonempty r (hcore.trans hr)) rest'
      · rw [hrest']
        exact hlisted rest'

theorem enclosed_of_readArray {v : Value} (h : readArray item s = .ok (v, rest)) :
    Enclosed item ']' .array s rest v := by
  unfold readArray at h
  split at h
  · rename_i hclosed
    cases h
    exact .empty hclosed
  · rename_i hnot
    obtain ⟨⟨items, rest₀⟩, hitems, heq⟩ := bind_eq_ok.mp h
    cases heq
    exact .parts hnot (listed_of_readItems hitems)

theorem readArray_of_enclosed (hitem : Extends item) {v : Value}
    (h : Enclosed item ']' .array s rest v) : readArray item s = .ok (v, rest) := by
  cases h with
  | empty closed => simp only [readArray, closed]
  | parts nonempty listed =>
    have hlength := Nat.le_succ_of_le (listed.length_le hitem (.inl rfl))
    have hread := readItems_of_listed listed (skipBlanks s).length.succ hlength
    unfold readArray
    split
    · rename_i hclosed
      exact absurd hclosed (nonempty _)
    · rw [hread]
      rfl

/-- An array extends from its opening bracket to its closing one. -/
theorem readArray_extends (hitem : Extends item) {v : Value}
    (h : readArray item s = .ok (v, rest)) : ∃ core, s = core ++ rest ∧ Solid ('[' :: core) ∧
      ∀ rest', readArray item (core ++ rest') = .ok (v, rest') := by
  obtain ⟨core, hcore, hsolid, henclosed⟩ :=
    (enclosed_of_readArray h).extent hitem (.inl rfl) (.inl rfl)
  exact ⟨core, hcore, hsolid, fun rest' => readArray_of_enclosed hitem (henclosed rest')⟩

theorem enclosed_of_readObject {v : Value} (h : readObject string item s = .ok (v, rest)) :
    Enclosed (readEntry string item) '\x7d' (fun entries => .object (ofEntries entries)) s rest
      v := by
  unfold readObject at h
  split at h
  · rename_i hclosed
    cases h
    exact .empty hclosed
  · rename_i hnot
    obtain ⟨⟨entries, rest₀⟩, hentries, heq⟩ := bind_eq_ok.mp h
    cases heq
    exact .parts hnot (listed_of_readEntries hentries)

theorem readObject_of_enclosed (hitem : Extends item) {v : Value}
    (h : Enclosed (readEntry readString item) '\x7d' (fun entries => .object (ofEntries entries)) s
      rest v) :
    readObject readString item s = .ok (v, rest) := by
  cases h with
  | empty closed =>
    simp only [readObject, closed]
    rfl
  | parts nonempty listed =>
    have hlength := Nat.le_succ_of_le (listed.length_le (readEntry_extends hitem) (.inr rfl))
    have hread := readEntries_of_listed listed (skipBlanks s).length.succ hlength
    unfold readObject
    split
    · rename_i hclosed
      exact absurd hclosed (nonempty _)
    · rw [hread]
      rfl

/-- An object extends from its opening brace to its closing one. -/
theorem readObject_extends (hitem : Extends item) {v : Value}
    (h : readObject readString item s = .ok (v, rest)) :
    ∃ core, s = core ++ rest ∧ Solid ('\x7b' :: core) ∧
      ∀ rest', readObject readString item (core ++ rest') = .ok (v, rest') := by
  obtain ⟨core, hcore, hsolid, henclosed⟩ :=
    (enclosed_of_readObject h).extent (readEntry_extends hitem) (.inr rfl) (.inr rfl)
  exact ⟨core, hcore, hsolid, fun rest' => readObject_of_enclosed hitem (henclosed rest')⟩

end Containers

/-- A value that is neither an array nor an object holds no others, however deep it is. -/
theorem readValue_of_scalar {s : List Char} (harray : ∀ r, s ≠ '[' :: r)
    (hobject : ∀ r, s ≠ '\x7b' :: r) (depth : Nat) :
    readValue readString depth s = readScalar readString s := by
  cases depth <;> unfold readValue <;> split
  all_goals first
    | exact absurd rfl (harray _)
    | exact absurd rfl (hobject _)
    | rfl

theorem extends_of_scalar {s rest : List Char} {v : Value}
    (h : readScalar readString s = .ok (v, rest)) (harray : ∀ r, s ≠ '[' :: r)
    (hobject : ∀ r, s ≠ '\x7b' :: r) (depth : Nat) :
    ∃ core, s = core ++ rest ∧ Solid core ∧
      ∀ rest', Stops rest' → readValue readString depth (core ++ rest') = .ok (v, rest') := by
  obtain ⟨core, rfl, hsolid, hread⟩ := readScalar_extends s v rest h
  refine ⟨core, rfl, hsolid, fun rest' hrest' => ?_⟩
  rw [readValue_of_scalar (hsolid.ne_cons harray rest') (hsolid.ne_cons hobject rest')]
  exact hread rest' hrest'

/-- **How far a value reads can be told from what it reads**, however deep it is. -/
theorem readValue_extends (depth : Nat) : Extends (readValue readString depth) := by
  induction depth with
  | zero =>
    intro s v rest h
    unfold readValue at h
    split at h
    · cases h
    · cases h
    · rename_i harray hobject
      exact extends_of_scalar h (fun r hr => harray r hr) (fun r hr => hobject r hr) 0
  | succ depth ih =>
    intro s v rest h
    unfold readValue at h
    split at h
    · obtain ⟨core, rfl, hsolid, hread⟩ := readArray_extends ih h
      exact ⟨'[' :: core, rfl, hsolid, fun rest' _ => hread rest'⟩
    · obtain ⟨core, rfl, hsolid, hread⟩ := readObject_extends ih h
      exact ⟨'\x7b' :: core, rfl, hsolid, fun rest' _ => hread rest'⟩
    · rename_i harray hobject
      exact extends_of_scalar h (fun r hr => harray r hr) (fun r hr => hobject r hr) (depth + 1)

/-! ### Documents -/

/-- No value begins with a byte order mark. -/
theorem readValue_byteOrderMark (depth : Nat) (s : List Char) :
    readValue readString depth ('\uFEFF' :: s) =
      .error (.malformed .expectingValue (s.length + 1)) := by
  rw [readValue_of_scalar (by simp) (by simp)]
  rfl

/-- A solid stretch is a document of its own, with anything after it that is blank; anything else
after it makes it none. -/
theorem readDocument_of_extent {core rest : List Char} {v : Value} (hsolid : Solid core)
    (hread : readValue readString maxDepth (core ++ rest) = .ok (v, rest)) :
    readDocument readString (core ++ rest) =
      match skipBlanks rest with
      | [] => .ok v
      | after => .error (.malformed .extraData after.length) := by
  have hmark : ∀ r, core ++ rest ≠ '\uFEFF' :: r := by
    intro r hr
    rw [hr, readValue_byteOrderMark] at hread
    cases hread
  unfold readDocument
  split
  · rename_i heq
    exact absurd heq (hmark _)
  · rw [hsolid.skipBlanks_append, hread]
    rfl

/-- **A document is a value between blanks**, and the value alone could stand in front of anything
that may follow one. -/
theorem read_extends {document : String} {v : Value} (h : read document = .ok v) :
    ∃ before core after, document.toList = before ++ core ++ after ∧ Solid core ∧
      (∀ c ∈ before, isJsonBlank c = true) ∧ (∀ c ∈ after, isJsonBlank c = true) ∧
      ∀ rest, Stops rest → readValue readString maxDepth (core ++ rest) = .ok (v, rest) := by
  rw [read, mapError_eq_ok] at h
  unfold readDocument at h
  split at h
  · cases h
  · obtain ⟨⟨v', after⟩, hv, h⟩ := bind_eq_ok.mp h
    obtain ⟨before, hbefore, hblanks⟩ := exists_blanks document.toList
    obtain ⟨core, hcore, hsolid, hread⟩ := readValue_extends maxDepth _ v' after hv
    obtain ⟨after', hafter, hblanks'⟩ := exists_blanks after
    simp only at h
    split at h
    · rename_i hnil
      cases h
      rw [hnil, List.append_nil] at hafter
      refine ⟨before, core, after, ?_, hsolid, hblanks, hafter ▸ hblanks', hread⟩
      rw [List.append_assoc, ← hcore]
      exact hbefore
    · cases h

end LintBridge.Json
