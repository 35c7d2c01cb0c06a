import LintBridge.Proofs.Json.Forward

/-!
# Integers with too many digits

The reader takes integers of up to `LintBridge.Text.maxDigits` digits. A longer one is not reported
as something wrong with the text, but in a way of its own, which callers have to provide for apart
from the rest. When that happens can be told from the text: **the reader comes upon an integer with
too many digits before it comes upon anything wrong**.

* `LintBridge.Json.LongInteger` – such an integer stands at the front of a text. A number with a
  fraction or an exponent is no integer, and may be as long as it likes;
* `LintBridge.Json.Meets` – the reader comes upon one in a value: the value is one itself, or an
  array or object with one further in, of which all that comes before can be read;
* `LintBridge.Json.Overlong` – the reader comes upon one in a document.

`LintBridge.Json.read_eq_tooManyDigits` says that this is exact.
-/

namespace LintBridge.Json

/-- **An integer with too many digits** stands at the front of a text. -/
def LongInteger (s : List Char) (k : Nat) : Prop :=
  ∃ sign ds rest, s = sign ++ (ds ++ rest) ∧ (sign = [] ∨ sign = ['-']) ∧
    (∀ c ∈ ds, c.isDigit = true) ∧ ds.head? ≠ some '0' ∧ ds.length = k ∧ Text.maxDigits < k ∧
    (∀ c ∈ rest.head?, c.isDigit = false) ∧ EndsWhole rest

/-! ### Numbers -/

section Numbers

theorem splitDigits_of_append {ds rest : List Char} (hds : ∀ c ∈ ds, c.isDigit = true)
    (hrest : ∀ c ∈ rest.head?, c.isDigit = false) : splitDigits (ds ++ rest) = (ds, rest) := by
  have htake : rest.takeWhile Char.isDigit = [] := by
    cases rest with
    | nil => rfl
    | cons c rest => exact List.takeWhile_cons_of_neg (by simp [hrest c rfl])
  have hdrop : rest.dropWhile Char.isDigit = rest := by
    cases rest with
    | nil => rfl
    | cons c rest => exact List.dropWhile_cons_of_neg (by simp [hrest c rfl])
  unfold splitDigits
  rw [List.takeWhile_append_of_pos hds, List.dropWhile_append_of_pos hds, htake, hdrop,
    List.append_nil]

theorem splitDigits_head (s : List Char) : ∀ c ∈ (splitDigits s).2.head?, c.isDigit = false := by
  intro c hc
  have hnot := List.head?_dropWhile_not Char.isDigit s
  simp only [splitDigits] at hc
  rw [Option.mem_def.mp hc] at hnot
  simpa using hnot

theorem splitWhole_of_ne_zero {s : List Char} (h : s.head? ≠ some '0') :
    splitWhole s = splitDigits s := by
  unfold splitWhole
  split
  · exact absurd rfl h
  · rfl

/-- The whole part of a number that begins with a zero is that zero. -/
theorem head_ne_zero_of_length {s : List Char} (h : 1 < (splitWhole s).1.length) :
    s.head? ≠ some '0' := by
  intro hzero
  cases s with
  | nil => cases hzero
  | cons c rest =>
    obtain rfl : c = '0' := Option.some.inj hzero
    exact absurd h (by simp [splitWhole])

/-- The digits of an integer that is too long, and what follows them. -/
theorem readMagnitude_eq_tooManyDigits {negative : Bool} {remaining : Nat} {body : List Char}
    {k : Nat} :
    readMagnitude negative remaining body = .error (.tooManyDigits k) ↔
      ∃ ds rest, body = ds ++ rest ∧ (∀ c ∈ ds, c.isDigit = true) ∧ ds.head? ≠ some '0' ∧
        ds.length = k ∧ Text.maxDigits < k ∧ (∀ c ∈ rest.head?, c.isDigit = false) ∧
        EndsWhole rest := by
  constructor
  · intro h
    have hw : (splitWhole body).1 ≠ [] := by
      intro hw
      rw [readMagnitude_of_nil negative remaining hw] at h
      cases h
    by_cases he : EndsWhole (splitWhole body).2
    · rw [readMagnitude_of_whole negative remaining hw he] at h
      split at h
      · rename_i hlong
        obtain rfl : (splitWhole body).1.length = k := by simpa using h
        -- A whole part of several digits does not begin with a zero.
        have hone : 1 < (splitWhole body).1.length := by
          simp only [Text.maxDigits] at hlong
          omega
        have hzero := head_ne_zero_of_length hone
        have hsplit := splitWhole_of_ne_zero hzero
        refine ⟨(splitWhole body).1, (splitWhole body).2, (splitWhole_append body).symm, ?_, ?_,
          rfl, hlong, ?_, he⟩
        · intro c hc
          rw [hsplit] at hc
          exact List.all_eq_true.mp List.all_takeWhile c hc
        · intro hhead
          refine hzero ?_
          rw [← splitWhole_append body, List.head?_append, hhead]
          rfl
        · rw [hsplit]
          exact splitDigits_head body
      · cases h
    · obtain ⟨x, hx⟩ := readMagnitude_of_not_whole negative remaining hw he
      rw [hx] at h
      cases h
  · rintro ⟨ds, rest, rfl, hds, hzero, rfl, hlong, hhead, he⟩
    have hne : ds ≠ [] := by
      rintro rfl
      exact absurd hlong (by simp)
    have hzero' : (ds ++ rest).head? ≠ some '0' := by
      cases ds with
      | nil => exact absurd rfl hne
      | cons d ds => exact hzero
    have hsplit : splitWhole (ds ++ rest) = (ds, rest) :=
      (splitWhole_of_ne_zero hzero').trans (splitDigits_of_append hds hhead)
    rw [readMagnitude_of_whole negative remaining (by rw [hsplit]; exact hne)
      (by rw [hsplit]; exact he), hsplit]
    exact if_pos hlong

theorem readNumber_eq_tooManyDigits {s : List Char} {k : Nat} :
    readNumber s = .error (.tooManyDigits k) ↔ LongInteger s k := by
  constructor
  · intro h
    by_cases hs : ∃ body, s = '-' :: body
    · obtain ⟨body, rfl⟩ := hs
      rw [readNumber_minus] at h
      obtain ⟨ds, rest, rfl, hrest⟩ := readMagnitude_eq_tooManyDigits.mp h
      exact ⟨['-'], ds, rest, rfl, .inr rfl, hrest⟩
    · rw [readNumber_of_ne_minus fun body heq => hs ⟨body, heq⟩] at h
      obtain ⟨ds, rest, rfl, hrest⟩ := readMagnitude_eq_tooManyDigits.mp h
      exact ⟨[], ds, rest, rfl, .inl rfl, hrest⟩
  · rintro ⟨sign, ds, rest, rfl, rfl | rfl, hrest⟩
    · -- Without a sign, the text begins with a digit and not with a minus.
      have hminus : ∀ body, ds ++ rest ≠ '-' :: body := by
        intro body heq
        obtain ⟨hds, -, hk, hlong, -⟩ := hrest
        cases ds with
        | nil => exact absurd hlong (by simp [← hk])
        | cons d ds =>
          obtain rfl : d = '-' := (List.cons.inj heq).1
          exact absurd (hds '-' List.mem_cons_self) (by decide)
      rw [List.nil_append, readNumber_of_ne_minus hminus]
      exact readMagnitude_eq_tooManyDigits.mpr ⟨ds, rest, rfl, hrest⟩
    · rw [List.singleton_append, readNumber_minus]
      exact readMagnitude_eq_tooManyDigits.mpr ⟨ds, rest, rfl, hrest⟩

end Numbers

/-! ### Values that hold no others -/

/-- What is wrong with a string is never its length. -/
theorem readUnits_error {opening : Nat} {s : List Char} {f : Fault} :
    readUnits opening s = .error f → ∃ problem remaining, f = .malformed problem remaining := by
  fun_induction readUnits opening s generalizing f with
  | case2 =>
    intro h
    cases h
  | case4 a b c d head tail n hn ih =>
    intro h
    rcases bind_eq_error.mp h with h | ⟨_, -, h⟩
    · exact ih h
    · cases h
  | case7 c rest' hnot hu e he ih =>
    intro h
    rcases bind_eq_error.mp h with h | ⟨_, -, h⟩
    · exact ih h
    · cases h
  | case10 c rest' h1 h2 h3 h4 hlt ih =>
    intro h
    rcases bind_eq_error.mp h with h | ⟨_, -, h⟩
    · exact ih h
    · cases h
  | case1 | case3 | case5 | case6 | case8 | case9 =>
    intro h
    cases h
    exact ⟨_, _, rfl⟩

theorem readString_ne_tooManyDigits (s : List Char) (k : Nat) :
    readString s ≠ .error (.tooManyDigits k) := by
  intro h
  rcases bind_eq_error.mp h with h | ⟨_, -, h⟩
  · obtain ⟨_, _, heq⟩ := readUnits_error h
    cases heq
  · cases h

/-- How a text begins that has an integer with too many digits at its front. -/
theorem LongInteger.front {s : List Char} {k : Nat} (h : LongInteger s k) :
    (∃ d rest, s = d :: rest ∧ d.isDigit = true) ∨
      ∃ d rest, s = '-' :: d :: rest ∧ d.isDigit = true := by
  obtain ⟨sign, ds, rest, rfl, hsign, hds, -, rfl, hlong, -⟩ := h
  cases ds with
  | nil => exact absurd hlong (by simp)
  | cons d ds =>
    have hd := hds d List.mem_cons_self
    rcases hsign with rfl | rfl
    · exact .inl ⟨d, ds ++ rest, rfl, hd⟩
    · exact .inr ⟨d, ds ++ rest, rfl, hd⟩

/-- No word begins with a digit. -/
theorem readScalar_of_isDigit {d : Char} (hd : d.isDigit = true) (rest : List Char) :
    readScalar readString (d :: rest) = readNumber (d :: rest) := by
  unfold readScalar
  split
  all_goals first
    | rfl
    | (rename_i heq; cases heq; exact absurd hd (by decide))

theorem readScalar_of_minus {d : Char} (hd : d.isDigit = true) (rest : List Char) :
    readScalar readString ('-' :: d :: rest) = readNumber ('-' :: d :: rest) := by
  unfold readScalar
  split
  all_goals first
    | rfl
    | (rename_i heq; cases heq; exact absurd hd (by decide))
    | (rename_i heq; cases heq)

theorem readScalar_eq_tooManyDigits {s : List Char} {k : Nat} :
    readScalar readString s = .error (.tooManyDigits k) ↔ LongInteger s k := by
  constructor
  · intro h
    unfold readScalar at h
    split at h
    · rcases bind_eq_error.mp h with h | ⟨_, -, h⟩
      · exact absurd h (readString_ne_tooManyDigits _ k)
      · cases h
    all_goals first
      | exact readNumber_eq_tooManyDigits.mp h
      | cases h
  · intro h
    rw [← readNumber_eq_tooManyDigits.mpr h]
    rcases h.front with ⟨d, rest, rfl, hd⟩ | ⟨d, rest, rfl, hd⟩
    · exact readScalar_of_isDigit hd rest
    · exact readScalar_of_minus hd rest

/-! ### Arrays and objects -/

/-- **What is left of a text once several parts of it have been read**, with a comma after each. -/
inductive Past {α : Type} (part : Step α) : List Char → List Char → Prop where
  /-- Nothing has been read. -/
  | refl (s : List Char) : Past part s s
  /-- A part and a comma have been read, and what comes after them. -/
  | next {s after rest s' : List Char} {a : α} (read : part s = .ok (a, after))
      (comma : skipBlanks after = ',' :: rest) (more : Past part (skipBlanks rest) s') :
      Past part s s'

/-- Fuel for a text is more than enough for what is left of it after a part and a comma. -/
theorem length_skipBlanks_lt {s after rest : List Char} {c : Char} {fuel : Nat}
    (hafter : after.length < s.length) (hrest : skipBlanks after = c :: rest)
    (hfuel : s.length < fuel + 1) : (skipBlanks rest).length < fuel := by
  have hcomma := (skipBlanks_suffix after).length_le
  have hblanks := (skipBlanks_suffix rest).length_le
  rw [hrest, List.length_cons] at hcomma
  omega

/-- The items of an array are read up to the first that cannot be. -/
theorem readItems_eq_tooManyDigits {item : Step Value} (hitem : Forward item) {fuel : Nat}
    {s : List Char} {k : Nat} (hfuel : s.length < fuel) :
    readItems item fuel s = .error (.tooManyDigits k) ↔
      ∃ s', Past item s s' ∧ item s' = .error (.tooManyDigits k) := by
  induction fuel generalizing s with
  | zero => exact absurd hfuel (Nat.not_lt_zero _)
  | succ fuel ih =>
    constructor
    · intro h
      rcases bind_eq_error.mp h with h | ⟨⟨v, after⟩, hv, h⟩
      · exact ⟨s, .refl s, h⟩
      · simp only at h
        split at h
        · cases h
        · rename_i rest heq
          have hlt := length_skipBlanks_lt (hitem s v after hv).2 heq hfuel
          rcases bind_eq_error.mp h with h | ⟨_, -, h⟩
          · obtain ⟨s', hpast, hs'⟩ := (ih hlt).mp h
            exact ⟨s', .next hv heq hpast, hs'⟩
          · cases h
        · cases h
    · rintro ⟨s', hpast, hs'⟩
      cases hpast with
      | refl => exact bind_eq_error.mpr (.inl hs')
      | @next _ after rest _ v read comma more =>
        have hlt := length_skipBlanks_lt (hitem s v after read).2 comma hfuel
        refine bind_eq_error.mpr (.inr ⟨(v, after), read, ?_⟩)
        simp only [comma]
        exact bind_eq_error.mpr (.inl ((ih hlt).mpr ⟨s', more, hs'⟩))

/-- The entries of an object are read up to the first that cannot be. -/
theorem readEntries_eq_tooManyDigits {item : Step Value} (hitem : Forward item) {fuel : Nat}
    {s : List Char} {k : Nat} (hfuel : s.length < fuel) :
    readEntries readString item fuel s = .error (.tooManyDigits k) ↔
      ∃ s', Past (readEntry readString item) s s' ∧
        readEntry readString item s' = .error (.tooManyDigits k) := by
  induction fuel generalizing s with
  | zero => exact absurd hfuel (Nat.not_lt_zero _)
  | succ fuel ih =>
    constructor
    · intro h
      rcases bind_eq_error.mp h with h | ⟨⟨entry, after⟩, hentry, h⟩
      · exact ⟨s, .refl s, h⟩
      · simp only at h
        split at h
        · cases h
        · rename_i rest heq
          have hlt := length_skipBlanks_lt (readEntry_left hitem hentry).2 heq hfuel
          rcases bind_eq_error.mp h with h | ⟨_, -, h⟩
          · obtain ⟨s', hpast, hs'⟩ := (ih hlt).mp h
            exact ⟨s', .next hentry heq hpast, hs'⟩
          · cases h
        · cases h
    · rintro ⟨s', hpast, hs'⟩
      cases hpast with
      | refl => exact bind_eq_error.mpr (.inl hs')
      | @next _ after rest _ entry read comma more =>
        have hlt := length_skipBlanks_lt (readEntry_left hitem read).2 comma hfuel
        refine bind_eq_error.mpr (.inr ⟨(entry, after), read, ?_⟩)
        simp only [comma]
        exact bind_eq_error.mpr (.inl ((ih hlt).mpr ⟨s', more, hs'⟩))

/-- An entry is read up to its value. -/
theorem readEntry_eq_tooManyDigits {item : Step Value} {s : List Char} {k : Nat} :
    readEntry readString item s = .error (.tooManyDigits k) ↔
      ∃ rest key after after', s = '"' :: rest ∧ readString rest = .ok (key, after) ∧
        skipBlanks after = ':' :: after' ∧
        item (skipBlanks after') = .error (.tooManyDigits k) := by
  constructor
  · intro h
    unfold readEntry at h
    split at h
    · rename_i rest
      rcases bind_eq_error.mp h with h | ⟨⟨key, after⟩, hkey, h⟩
      · exact absurd h (readString_ne_tooManyDigits _ k)
      · simp only at h
        split at h
        · rename_i after' heq
          rcases bind_eq_error.mp h with h | ⟨_, -, h⟩
          · exact ⟨rest, key, after, after', rfl, hkey, heq, h⟩
          · cases h
        · cases h
    · cases h
  · rintro ⟨rest, key, after, after', rfl, hkey, heq, h⟩
    refine bind_eq_error.mpr (.inr ⟨(key, after), hkey, ?_⟩)
    simp only [heq]
    exact bind_eq_error.mpr (.inl h)

/-! ### Values and documents -/

/-- **The reader comes upon an integer with too many digits**, `k` of them, in a value in which
arrays and objects are nested at most `depth` deep. All that comes before the integer can be read.
-/
inductive Meets : Nat → List Char → Nat → Prop where
  /-- The value is the integer. -/
  | integer {depth : Nat} {s : List Char} {k : Nat} (h : LongInteger s k) : Meets depth s k
  /-- The integer is further in an item of an array. -/
  | item {depth : Nat} {s s' : List Char} {k : Nat}
      (past : Past (readValue readString depth) (skipBlanks s) s') (h : Meets depth s' k) :
      Meets (depth + 1) ('[' :: s) k
  /-- The integer is further in the value of an entry of an object. -/
  | entry {depth : Nat} {s s' after after' : List Char} {key : CodePoints} {k : Nat}
      (past : Past (readEntry readString (readValue readString depth)) (skipBlanks s) ('"' :: s'))
      (name : readString s' = .ok (key, after)) (colon : skipBlanks after = ':' :: after')
      (h : Meets depth (skipBlanks after') k) : Meets (depth + 1) ('\x7b' :: s) k

/-- Where a first part is read, or cannot be for its digits, a text does not begin with what no such
part begins with. -/
theorem Past.ne_of_malformed {α : Type} {part : Step α} {s s' : List Char} (h : Past part s s')
    {k : Nat} (hk : part s' = .error (.tooManyDigits k)) {problem : Problem} {remaining : Nat} :
    part s ≠ .error (.malformed problem remaining) := by
  intro hs
  cases h with
  | refl =>
    rw [hs] at hk
    cases hk
  | next read =>
    rw [hs] at read
    cases read

theorem readValue_bracket (depth : Nat) (rest : List Char) :
    readValue readString depth (']' :: rest) =
      .error (.malformed .expectingValue (rest.length + 1)) := by
  cases depth <;> rfl

theorem readArray_eq_tooManyDigits {depth : Nat} {s : List Char} {k : Nat} :
    readArray (readValue readString depth) s = .error (.tooManyDigits k) ↔
      ∃ s', Past (readValue readString depth) (skipBlanks s) s' ∧
        readValue readString depth s' = .error (.tooManyDigits k) := by
  have hforward := readValue_left depth
  constructor
  · intro h
    unfold readArray at h
    split at h
    · cases h
    · rcases bind_eq_error.mp h with h | ⟨_, -, h⟩
      · exact (readItems_eq_tooManyDigits hforward (Nat.lt_succ_self _)).mp h
      · cases h
  · rintro ⟨s', hpast, hs'⟩
    unfold readArray
    split
    · -- An empty array has no first item, and its bracket begins none.
      rename_i rest heq
      rw [heq] at hpast
      exact absurd (readValue_bracket depth rest) (hpast.ne_of_malformed hs')
    · exact bind_eq_error.mpr (.inl ((readItems_eq_tooManyDigits hforward
        (Nat.lt_succ_self _)).mpr ⟨s', hpast, hs'⟩))

theorem readObject_eq_tooManyDigits {depth : Nat} {s : List Char} {k : Nat} :
    readObject readString (readValue readString depth) s = .error (.tooManyDigits k) ↔
      ∃ s', Past (readEntry readString (readValue readString depth)) (skipBlanks s) s' ∧
        readEntry readString (readValue readString depth) s' = .error (.tooManyDigits k) := by
  have hforward := readValue_left depth
  constructor
  · intro h
    unfold readObject at h
    split at h
    · cases h
    · rcases bind_eq_error.mp h with h | ⟨_, -, h⟩
      · exact (readEntries_eq_tooManyDigits hforward (Nat.lt_succ_self _)).mp h
      · cases h
  · rintro ⟨s', hpast, hs'⟩
    unfold readObject
    split
    · -- An empty object has no first entry, and its brace begins none.
      rename_i rest heq
      rw [heq] at hpast
      exact absurd rfl (hpast.ne_of_malformed hs')
    · exact bind_eq_error.mpr (.inl ((readEntries_eq_tooManyDigits hforward
        (Nat.lt_succ_self _)).mpr ⟨s', hpast, hs'⟩))

/-- A value with an integer at its front is read as one that holds no others. -/
theorem LongInteger.readValue_eq {s : List Char} {k : Nat} (h : LongInteger s k) (depth : Nat) :
    readValue readString depth s = readScalar readString s := by
  rcases h.front with ⟨d, rest, rfl, hd⟩ | ⟨d, rest, rfl, hd⟩
  · cases depth with
    | zero | succ =>
      unfold readValue
      split
      · rename_i heq
        cases heq
        exact absurd hd (by decide)
      · rename_i heq
        cases heq
        exact absurd hd (by decide)
      · rfl
  · cases depth <;> rfl

/-- **Reading a value fails for the digits of an integer exactly when the reader comes upon one**
with too many. -/
theorem readValue_eq_tooManyDigits {depth : Nat} {s : List Char} {k : Nat} :
    readValue readString depth s = .error (.tooManyDigits k) ↔ Meets depth s k := by
  -- The induction follows the depth that is still allowed, as the reader does.
  induction depth generalizing s with
  | zero =>
    constructor
    · intro h
      unfold readValue at h
      split at h
      · cases h
      · cases h
      · exact .integer (readScalar_eq_tooManyDigits.mp h)
    · intro h
      cases h with
      | integer h => rw [h.readValue_eq, readScalar_eq_tooManyDigits.mpr h]
  | succ depth ih =>
    constructor
    · intro h
      unfold readValue at h
      split at h
      · obtain ⟨s', hpast, hs'⟩ := readArray_eq_tooManyDigits.mp h
        exact .item hpast (ih.mp hs')
      · obtain ⟨s', hpast, hs'⟩ := readObject_eq_tooManyDigits.mp h
        obtain ⟨rest, key, after, after', rfl, hname, hcolon, h⟩ :=
          readEntry_eq_tooManyDigits.mp hs'
        exact .entry hpast hname hcolon (ih.mp h)
      · exact .integer (readScalar_eq_tooManyDigits.mp h)
    · intro h
      cases h with
      | integer h => rw [h.readValue_eq, readScalar_eq_tooManyDigits.mpr h]
      | item past h => exact readArray_eq_tooManyDigits.mpr ⟨_, past, ih.mpr h⟩
      | entry past name colon h =>
        exact readObject_eq_tooManyDigits.mpr ⟨_, past, readEntry_eq_tooManyDigits.mpr
          ⟨_, _, _, _, rfl, name, colon, ih.mpr h⟩⟩

/-- The integer that the reader comes upon has more digits than it takes. -/
theorem Meets.maxDigits_lt {depth : Nat} {s : List Char} {k : Nat} (h : Meets depth s k) :
    Text.maxDigits < k := by
  induction h with
  | integer h =>
    obtain ⟨_, _, _, -, -, -, -, -, hlong, -⟩ := h
    exact hlong
  | item _ _ ih => exact ih
  | entry _ _ _ _ ih => exact ih

/-- **The reader comes upon an integer with too many digits** in a document, which is a value that
may have blanks in front. -/
def Overlong (document : List Char) (k : Nat) : Prop :=
  Meets maxDepth (skipBlanks document) k

/-- There is no integer in a document without characters. -/
theorem not_overlong_nil (k : Nat) : ¬ Overlong [] k := by
  intro h
  cases h with
  | integer h => rcases h.front with ⟨_, _, heq, -⟩ | ⟨_, _, heq, -⟩ <;> cases heq

/-- A byte order mark stands in front of no value. -/
theorem not_meets_byteOrderMark {depth : Nat} {s : List Char} {k : Nat} :
    ¬ Meets depth ('\uFEFF' :: s) k := by
  intro h
  cases h with
  | integer h =>
    rcases h.front with ⟨d, rest, heq, hd⟩ | ⟨d, rest, heq, -⟩
    · cases heq
      exact absurd hd (by decide)
    · cases heq

theorem readDocument_eq_tooManyDigits {s : List Char} {k : Nat} :
    readDocument readString s = .error (.tooManyDigits k) ↔ Overlong s k := by
  unfold readDocument
  split
  · rename_i rest
    constructor
    · intro h
      cases h
    · intro h
      exact absurd h not_meets_byteOrderMark
  · constructor
    · intro h
      rcases bind_eq_error.mp h with h | ⟨⟨v, rest⟩, -, h⟩
      · exact readValue_eq_tooManyDigits.mp h
      · simp only at h
        split at h <;> cases h
    · intro h
      exact bind_eq_error.mpr (.inl (readValue_eq_tooManyDigits.mpr h))

/-- **Reading a document fails for the digits of an integer exactly when the reader comes upon one**
with too many. -/
theorem read_eq_tooManyDigits {s : List Char} {k : Nat} :
    Json.read (String.ofList s) = .error (.tooManyDigits k) ↔ Overlong s k := by
  rw [← readDocument_eq_tooManyDigits]
  unfold Json.read
  rw [mapError_eq_error, String.toList_ofList]
  constructor
  · rintro ⟨fault, hfault, heq⟩
    cases fault with
    | malformed => cases heq
    | tooDeep => cases heq
    | tooManyDigits =>
      cases heq
      exact hfault
  · intro h
    exact ⟨_, h, rfl⟩

end LintBridge.Json
