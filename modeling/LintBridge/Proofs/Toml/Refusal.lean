import LintBridge.Proofs.Result
import LintBridge.Toml.Reader
import Mathlib.Data.List.Infix

/-!
# What a settings file is refused for

A settings file that is not well formed is refused as such. It may also be too much for the reader,
which takes integers up to a number of digits and arrays and tables up to a depth. **Neither happens
for no reason**: the integer has no more digits than there are in the file, and every level takes a
bracket or a brace.

* `LintBridge.Toml.Within` – a step keeps within a text: what it leaves is an ending of the text,
  and its failures are of some kind. `LintBridge.Toml.Plain` is said of the steps that only ever
  find the text not well formed, and `LintBridge.Toml.Reads` of those that read values;
* `LintBridge.Toml.Excused` – what a text gives reason to fail for;
* `LintBridge.Toml.read_excused` – a file is refused for nothing else.
-/

namespace LintBridge.Toml

/-! ### Steps within a text -/

/-- **A step keeps within a text**: what it leaves is an ending of the text, and it fails for
nothing but what is admitted. -/
structure Within {α : Type} (admits : Error → Prop) (s : List Char) (left : α → List Char)
    (x : Except Error α) : Prop where
  /-- What is left is an ending of the text. -/
  suffix : ∀ a, x = .ok a → left a <:+ s
  /-- The failure is admitted. -/
  admitted : ∀ e, x = .error e → admits e

namespace Within

variable {α β : Type} {P Q : Error → Prop} {s t : List Char} {left : α → List Char}
  {left' : β → List Char} {x : Except Error α} {f : α → Except Error β} {g : α → β} {a : α}
  {e : Error}

theorem ok (h : left a <:+ s) : Within P s left (.ok a) :=
  ⟨by rintro _ ⟨⟩; exact h, nofun⟩

theorem error (h : P e) : Within P s left (.error e) :=
  ⟨nofun, by rintro _ ⟨⟩; exact h⟩

/-- Within an ending of a text a step keeps within the text. -/
theorem mono (h : Within P s left x) (hs : s <:+ t) (hP : ∀ e, P e → Q e) : Within Q t left x :=
  ⟨fun a ha => (h.suffix a ha).trans hs, fun e he => hP e (h.admitted e he)⟩

theorem of_suffix (h : Within P s left x) (hs : s <:+ t) : Within P t left x :=
  h.mono hs fun _ => id

/-- Two steps keep within a text if the first does, and the second within what is left. -/
theorem bind (h : Within P s left x) (hf : ∀ a, left a <:+ s → Within P s left' (f a)) :
    Within P s left' (x >>= f) := by
  constructor
  · intro b hb
    obtain ⟨a, ha, hb⟩ := bind_eq_ok.mp hb
    exact (hf a (h.suffix a ha)).suffix b hb
  · intro e he
    rcases bind_eq_error.mp he with he | ⟨a, ha, he⟩
    · exact h.admitted e he
    · exact (hf a (h.suffix a ha)).admitted e he

theorem map (h : Within P s left x) (hg : ∀ a, left' (g a) <:+ left a) :
    Within P s left' (x.map g) := by
  constructor
  · intro b hb
    obtain ⟨a, ha, rfl⟩ := map_eq_ok.mp hb
    exact (hg a).trans (h.suffix a ha)
  · intro e he
    exact h.admitted e (map_eq_error.mp he)

end Within

/-! ### Strings -/

/-- A text that is not well formed, and nothing else. -/
def IsMalformed (e : Error) : Prop :=
  e = .malformed

/-- A step that reads something off the front of a text, and fails only if the text is not well
formed. -/
abbrev Plain {α : Type} (s : List Char) (x : Except Error (α × List Char)) : Prop :=
  Within IsMalformed s Prod.snd x

theorem plain_malformed {α : Type} (s : List Char) :
    Plain s (.error .malformed : Except Error (α × List Char)) :=
  .error rfl

section Strings

variable {s : List Char}

theorem skipInline_suffix (s : List Char) : skipInline s <:+ s :=
  List.dropWhile_suffix _

theorem continueLine?_suffix {rest : List Char} (h : continueLine? s = some rest) : rest <:+ s := by
  unfold continueLine? at h
  have hskip := skipInline_suffix s
  split at h
  · cases h
    exact List.nil_suffix
  · rename_i heq
    cases h
    exact ((List.dropWhile_suffix _).trans (List.suffix_cons _ _)).trans (heq ▸ hskip)
  · cases h

theorem prepend_plain {c : Char} {x : Except Error (List Char × List Char)} (h : Plain s x) :
    Plain s (readEscaped.prepend c x) :=
  h.map fun _ => List.suffix_refl _

theorem readEscaped_plain (multiline : Bool) (fuel : Nat) (s : List Char) :
    Plain s (readEscaped multiline fuel s) := by
  induction fuel generalizing s with
  | zero =>
    unfold readEscaped
    exact plain_malformed s
  | succ fuel ih =>
    -- What follows is read within the rest of the text.
    have hrest : ∀ {rest : List Char}, rest <:+ s → Plain s (readEscaped multiline fuel rest) :=
      fun h => (ih _).of_suffix h
    have hnumbered : ∀ {rest : List Char} (width : Nat), rest <:+ s →
        Plain s (readEscaped.numbered multiline width rest fuel) := by
      intro rest width h
      unfold readEscaped.numbered
      dsimp only
      split
      · split
        · exact prepend_plain (hrest ((List.drop_suffix _ _).trans h))
        · exact plain_malformed s
      · exact plain_malformed s
    unfold readEscaped
    split
    · exact plain_malformed _
    · -- A quotation mark ends the string, or is one of fewer than three.
      split
      · exact .ok (List.suffix_cons _ _)
      · split
        · exact .ok ((List.suffix_cons _ _).trans
            ((List.suffix_cons _ _).trans (List.suffix_cons _ _)))
        · exact prepend_plain (hrest (List.suffix_cons _ _))
    · rename_i c rest
      have htwo : rest <:+ '\\' :: c :: rest :=
        (List.suffix_cons _ _).trans (List.suffix_cons _ _)
      split
      · split
        · rename_i heq
          exact hrest ((continueLine?_suffix heq).trans (List.suffix_cons _ _))
        · exact plain_malformed _
      · split
        · exact prepend_plain (hrest htwo)
        · exact hnumbered 4 htwo
        · exact hnumbered 8 htwo
        · exact plain_malformed _
    · split
      · exact plain_malformed _
      · exact prepend_plain (hrest (List.suffix_cons _ _))

theorem readLiteral_plain (s : List Char) : Plain s (readLiteral s) := by
  fun_induction readLiteral s with
  | case1 => exact plain_malformed _
  | case2 rest => exact .ok (List.suffix_cons _ _)
  | case3 c rest _ _ => exact plain_malformed _
  | case4 c rest _ _ ih =>
    exact (ih.of_suffix (List.suffix_cons _ _)).map fun _ => List.suffix_refl _

theorem readLongLiteral_plain (s : List Char) : Plain s (readLongLiteral s) := by
  fun_induction readLongLiteral s with
  | case1 => exact plain_malformed _
  | case2 rest =>
    exact .ok ((List.suffix_cons _ _).trans ((List.suffix_cons _ _).trans (List.suffix_cons _ _)))
  | case3 c rest _ _ => exact plain_malformed _
  | case4 c rest _ _ ih =>
    exact (ih.of_suffix (List.suffix_cons _ _)).map fun _ => List.suffix_refl _

theorem skipNewline_suffix (s : List Char) : skipNewline s <:+ s := by
  unfold skipNewline
  split
  · exact List.suffix_cons _ _
  · exact List.suffix_refl _

theorem readLineString_plain (s : List Char) : Plain s (readLineString s) := by
  unfold readLineString
  split
  · rename_i rest
    exact ((readEscaped_plain false _ rest).of_suffix (List.suffix_cons _ _)).map
      fun _ => List.suffix_refl _
  · rename_i rest
    exact ((readLiteral_plain rest).of_suffix (List.suffix_cons _ _)).map
      fun _ => List.suffix_refl _
  · exact plain_malformed s

theorem readString_plain (s : List Char) : Plain s (readString s) := by
  unfold readString
  split
  · rename_i rest
    have hrest : skipNewline rest <:+ '"' :: '"' :: '"' :: rest :=
      (skipNewline_suffix rest).trans
        ((List.suffix_cons _ _).trans ((List.suffix_cons _ _).trans (List.suffix_cons _ _)))
    exact ((readEscaped_plain true _ _).of_suffix hrest).map fun _ => List.drop_suffix _ _
  · rename_i rest
    have hrest : skipNewline rest <:+ '\'' :: '\'' :: '\'' :: rest :=
      (skipNewline_suffix rest).trans
        ((List.suffix_cons _ _).trans ((List.suffix_cons _ _).trans (List.suffix_cons _ _)))
    exact ((readLongLiteral_plain _).of_suffix hrest).map fun _ => List.drop_suffix _ _
  · exact readLineString_plain s

end Strings

/-! ### Keys -/

section Keys

variable {s : List Char}

theorem readKeyPart_plain (s : List Char) : Plain s (readKeyPart s) := by
  unfold readKeyPart
  split
  · exact readLineString_plain s
  · exact .ok (List.drop_suffix _ _)

theorem readKeyParts_plain (fuel : Nat) (s : List Char) : Plain s (readKeyParts fuel s) := by
  induction fuel generalizing s with
  | zero => exact plain_malformed s
  | succ fuel ih =>
    rw [readKeyParts]
    refine (readKeyPart_plain s).bind fun ⟨part, rest⟩ hrest => ?_
    have hskip := (skipInline_suffix rest).trans hrest
    dsimp only
    split
    · rename_i rest' heq
      have hmore : skipInline rest' <:+ s :=
        ((skipInline_suffix _).trans (List.suffix_cons _ _)).trans (heq ▸ hskip)
      exact ((ih _).of_suffix hmore).bind fun _ h => .ok h
    · exact .ok hskip

theorem readKey_plain (s : List Char) : Plain s (readKey s) :=
  readKeyParts_plain _ s

end Keys

/-! ### Numbers -/

/-- The digits of a text. -/
def digitCount (s : List Char) : Nat :=
  s.countP Char.isDigit

/-- The brackets and braces of a text that open an array or a table. -/
def openingCount (s : List Char) : Nat :=
  s.countP fun c => c == '[' || c == '{'

/-- **What a text gives reason to fail for** when there are so many frames left: that it is not well
formed, for whatever reason, an integer with no more digits than there are in the text, or arrays
and tables that are nested no deeper than there are brackets and braces in it. -/
def Excused (frames : Nat) (s : List Char) : Error → Prop
  | .malformed => True
  | .tooManyDigits count => Text.maxDigits < count ∧ count ≤ digitCount s
  | .tooDeep => frames ≤ 3 * openingCount s + 2

section Excused

variable {frames : Nat} {s t : List Char} {e : Error}

theorem excused_of_isMalformed (h : IsMalformed e) : Excused frames s e :=
  h ▸ trivial

/-- A text gives reason to fail for whatever a part of it does. -/
theorem Excused.mono (hs : s.Sublist t) (h : Excused frames s e) : Excused frames t e := by
  cases e with
  | malformed => trivial
  | tooManyDigits count => exact ⟨h.1, h.2.trans hs.countP_le⟩
  | tooDeep =>
    have hle : openingCount s ≤ openingCount t := hs.countP_le
    have hframes : frames ≤ 3 * openingCount s + 2 := h
    change frames ≤ 3 * openingCount t + 2
    omega

/-- A bracket in front excuses up to three frames more. -/
theorem Excused.cons {c : Char} (hc : c = '[' ∨ c = '{') {taken : Nat} (htaken : taken ≤ 3)
    (h : Excused frames s e) : Excused (frames + taken) (c :: s) e := by
  cases e with
  | malformed => trivial
  | tooManyDigits count => exact ⟨h.1, h.2.trans ((List.sublist_cons_self c s).countP_le)⟩
  | tooDeep =>
    have hopening : openingCount (c :: s) = openingCount s + 1 :=
      List.countP_cons_of_pos (by rcases hc with rfl | rfl <;> rfl)
    have hframes : frames ≤ 3 * openingCount s + 2 := h
    change frames + taken ≤ 3 * openingCount (c :: s) + 2
    omega

/-- A step that reads a value off the front of a text. -/
abbrev Reads {α : Type} (frames : Nat) (s : List Char) (x : Except Error (α × List Char)) : Prop :=
  Within (Excused frames s) s Prod.snd x

theorem Plain.reads {α : Type} {x : Except Error (α × List Char)} (h : Plain s x) :
    Reads frames s x :=
  h.mono (List.suffix_refl s) fun _ => excused_of_isMalformed

theorem Reads.of_suffix {α : Type} {x : Except Error (α × List Char)} (h : Reads frames s x)
    (hs : s <:+ t) : Reads frames t x :=
  h.mono hs fun _ => Excused.mono hs.sublist

theorem reads_malformed {α : Type} (frames : Nat) (s : List Char) :
    Reads frames s (.error .malformed : Except Error (α × List Char)) :=
  .error trivial

end Excused

section Numbers

variable {frames : Nat} {s : List Char} {isDigit : Char → Bool}

theorem splitDigits_within (isDigit : Char → Bool) (s : List Char) :
    (splitDigits isDigit s).2 <:+ s ∧ (splitDigits isDigit s).1.length ≤ s.countP isDigit := by
  induction s using splitDigits.induct isDigit with
  | case1 c rest hc _ _ _ ih =>
    obtain ⟨hsuffix, hlength⟩ := ih
    have hcount : (c :: rest).countP isDigit ≤ ('_' :: c :: rest).countP isDigit :=
      (List.sublist_cons_self _ _).countP_le
    rw [splitDigits, if_pos hc]
    refine ⟨hsuffix.trans ((List.suffix_cons _ _).trans (List.suffix_cons _ _)), ?_⟩
    rw [List.countP_cons_of_pos hc] at hcount
    exact (Nat.succ_le_succ hlength).trans hcount
  | case2 c rest hc =>
    rw [splitDigits, if_neg hc]
    exact ⟨List.suffix_refl _, Nat.zero_le _⟩
  | case3 c rest hpair hc _ _ _ ih =>
    obtain ⟨hsuffix, hlength⟩ := ih
    rw [splitDigits.eq_2 _ _ _ hpair, if_pos hc, List.countP_cons_of_pos hc]
    exact ⟨hsuffix.trans (List.suffix_cons _ _), Nat.succ_le_succ hlength⟩
  | case4 c rest hpair hc =>
    rw [splitDigits.eq_2 _ _ _ hpair, if_neg hc]
    exact ⟨List.suffix_refl _, Nat.zero_le _⟩
  | case5 => exact ⟨List.suffix_refl _, Nat.zero_le _⟩

theorem splitNumeral_within (isDigit : Char → Bool) (s : List Char) :
    (splitNumeral isDigit s).2 <:+ s ∧ (splitNumeral isDigit s).1.length ≤ s.countP isDigit := by
  unfold splitNumeral
  split
  · split
    · exact splitDigits_within isDigit _
    · exact ⟨List.suffix_refl _, Nat.zero_le _⟩
  · exact ⟨List.suffix_refl _, Nat.zero_le _⟩

theorem splitWhole_within (s : List Char) :
    (splitWhole s).2 <:+ s ∧ (splitWhole s).1.length ≤ digitCount s := by
  unfold splitWhole
  split
  · rename_i rest
    exact ⟨List.suffix_cons _ _, by rw [digitCount, List.countP_cons_of_pos rfl]; simp⟩
  · exact splitNumeral_within Char.isDigit s

theorem splitFraction_suffix (s : List Char) : (splitFraction s).2 <:+ s := by
  unfold splitFraction
  split
  · rename_i rest
    split
    · exact List.suffix_refl _
    · exact (splitNumeral_within Char.isDigit rest).1.trans (List.suffix_cons _ _)
  · exact List.suffix_refl _

theorem readSign_suffix (s : List Char) : (Text.readSign s).2 <:+ s := by
  unfold Text.readSign
  split
  · exact List.suffix_cons _ _
  · exact List.suffix_cons _ _
  · exact List.suffix_refl _

theorem splitExponent_suffix (s : List Char) : (splitExponent s).2 <:+ s := by
  unfold splitExponent
  split
  · rename_i e rest
    split
    · have hbody := (splitNumeral_within Char.isDigit (Text.readSign rest).2).1.trans
        ((readSign_suffix rest).trans (List.suffix_cons e rest))
      dsimp only
      split
      · exact List.suffix_refl _
      · rename_i ds rest' _ hdigits
        rwa [hdigits] at hbody
    · exact List.suffix_refl _
  · exact List.suffix_refl _

theorem readBased?_suffix {v : Value} {rest : List Char} (h : readBased? s = some (v, rest)) :
    rest <:+ s := by
  unfold readBased? at h
  split at h
  · rename_i c rest'
    obtain ⟨⟨base, isDigit⟩, -, h⟩ := Option.bind_eq_some_iff.mp h
    have hrest := (splitNumeral_within isDigit rest').1.trans
      ((List.suffix_cons c rest').trans (List.suffix_cons '0' _))
    dsimp only at h
    split at h
    · cases h
    · rename_i hdigits
      cases h
      rwa [hdigits] at hrest
  · cases h

theorem readDecimal_reads (s : List Char) : Reads frames s (readDecimal s) := by
  have hbody := readSign_suffix s
  obtain ⟨hwhole, hlength⟩ := splitWhole_within (Text.readSign s).2
  unfold readDecimal
  dsimp only
  split
  · -- Without digits it is one of two words.
    split
    · rename_i rest heq
      rw [heq] at hbody
      exact .ok (((List.suffix_cons _ _).trans
        ((List.suffix_cons _ _).trans (List.suffix_cons _ _))).trans hbody)
    · rename_i rest heq
      rw [heq] at hbody
      exact .ok (((List.suffix_cons _ _).trans
        ((List.suffix_cons _ _).trans (List.suffix_cons _ _))).trans hbody)
    · exact reads_malformed _ _
  · rename_i whole rest _ heq
    rw [heq] at hwhole hlength
    have hfraction := (splitFraction_suffix rest).trans (hwhole.trans hbody)
    have hexponent := (splitExponent_suffix (splitFraction rest).2).trans hfraction
    split
    · rename_i rest' _ hrest'
      rw [hrest'] at hexponent
      split
      · rename_i hlong
        refine .error ⟨hlong, hlength.trans ?_⟩
        exact hbody.sublist.countP_le
      · exact .ok hexponent
    · rename_i exponent rest' hrest' _
      rw [hrest'] at hexponent
      exact .ok hexponent

theorem readNumber_reads (s : List Char) : Reads frames s (readNumber s) := by
  unfold readNumber
  split
  · rename_i found hfound
    exact .ok (readBased?_suffix hfound)
  · exact readDecimal_reads s

end Numbers

/-! ### Dates and times -/

section Moments

variable {s rest : List Char}

theorem readField?_suffix {width low high n : Nat}
    (h : readField? width low high s = some (n, rest)) : rest <:+ s := by
  unfold readField? at h
  dsimp only at h
  split at h
  · split at h
    · cases h
      exact List.drop_suffix _ _
    · cases h
  · cases h

theorem skipMark?_suffix {c : Char} (h : skipMark? c s = some rest) : rest <:+ s := by
  unfold skipMark? at h
  split at h
  · split at h
    · cases h
      exact List.suffix_cons _ _
    · cases h
  · cases h

theorem skipTime?_suffix (h : skipTime? s = some rest) : rest <:+ s := by
  unfold skipTime? at h
  simp only [Option.bind_eq_bind, Option.bind_eq_some_iff] at h
  obtain ⟨⟨_, s₁⟩, h₁, s₂, h₂, ⟨_, s₃⟩, h₃, s₄, h₄, ⟨_, s₅⟩, h₅, h⟩ := h
  have hsuffix : s₅ <:+ s :=
    (readField?_suffix h₅).trans ((skipMark?_suffix h₄).trans
      ((readField?_suffix h₃).trans ((skipMark?_suffix h₂).trans (readField?_suffix h₁))))
  split at h
  · rename_i fraction hpoint
    cases h
    split
    · exact hsuffix
    · rw [show s₅ = '.' :: fraction from hpoint] at hsuffix
      exact ((List.drop_suffix _ _).trans (List.suffix_cons _ _)).trans hsuffix
  · cases h
    exact hsuffix

/-- A text that is kept where nothing is found is an ending of itself. -/
theorem getD_suffix {found : Option (List Char)} (h : ∀ left, found = some left → left <:+ s) :
    found.getD s <:+ s := by
  cases found with
  | none => exact List.suffix_refl s
  | some left => exact h left rfl

theorem skipOffset_suffix (s : List Char) : skipOffset s <:+ s := by
  unfold skipOffset
  split
  · exact List.suffix_cons _ _
  · exact List.suffix_cons _ _
  · rename_i c rest _ _
    split
    · refine getD_suffix fun left hfound => ?_
      simp only [Option.bind_eq_bind, Option.bind_eq_some_iff] at hfound
      obtain ⟨⟨_, s₁⟩, h₁, s₂, h₂, ⟨_, s₃⟩, h₃, ⟨⟩⟩ := hfound
      exact (readField?_suffix h₃).trans ((skipMark?_suffix h₂).trans
        ((readField?_suffix h₁).trans (List.suffix_cons _ _)))
    · exact List.suffix_refl _
  · exact List.suffix_refl _

theorem readDate?_suffix {date : Nat × Nat × Nat} (h : readDate? s = some (date, rest)) :
    rest <:+ s := by
  unfold readDate? at h
  simp only [Option.bind_eq_bind, Option.bind_eq_some_iff] at h
  obtain ⟨⟨_, s₁⟩, h₁, s₂, h₂, ⟨_, s₃⟩, h₃, s₄, h₄, ⟨_, s₅⟩, h₅, ⟨⟩⟩ := h
  exact (readField?_suffix h₅).trans ((skipMark?_suffix h₄).trans
    ((readField?_suffix h₃).trans ((skipMark?_suffix h₂).trans (readField?_suffix h₁))))

/-- Where no date or time is found nothing is read. -/
theorem readMoment_within (s : List Char) :
    Within IsMalformed s (fun found : Option (Value × List Char) => (found.map Prod.snd).getD s)
      (readMoment s) := by
  unfold readMoment
  split
  · rename_i year month day rest hdate
    have hrest := readDate?_suffix hdate
    split
    · exact .error rfl
    · dsimp only
      split
      · rename_i rest' htimed
        refine .ok ((skipOffset_suffix rest').trans ?_)
        split at htimed
        · split at htimed
          · exact (skipTime?_suffix htimed).trans ((List.suffix_cons _ _).trans hrest)
          · cases htimed
        · cases htimed
      · exact .ok hrest
  · cases htime : skipTime? s with
    | none => exact .ok (List.suffix_refl s)
    | some rest => exact .ok (skipTime?_suffix htime)

end Moments

/-! ### Values -/

section Values

variable {frames : Nat} {s : List Char}

theorem readScalar_reads (s : List Char) : Reads frames s (readScalar s) := by
  have hstring : ∀ {s : List Char} {make : String × List Char → Value × List Char},
      (∀ found, (make found).2 = found.2) → Reads frames s ((readString s).map make) :=
    fun hmake => Plain.reads ((readString_plain _).map fun found => (hmake found).symm ▸
      List.suffix_refl _)
  unfold readScalar
  split
  · exact hstring fun _ => rfl
  · exact hstring fun _ => rfl
  · exact .ok ⟨['t', 'r', 'u', 'e'], rfl⟩
  · exact .ok ⟨['f', 'a', 'l', 's', 'e'], rfl⟩
  · refine ((readMoment_within s).mono (List.suffix_refl s)
      fun _ => excused_of_isMalformed).bind fun found hfound => ?_
    cases found with
    | some found => exact .ok hfound
    | none => exact readNumber_reads s

theorem skipComment_within (s : List Char) : Within IsMalformed s id (skipComment s) := by
  unfold skipComment
  split
  · dsimp only
    split
    · exact .error rfl
    · exact .ok ((List.drop_suffix _ _).trans (List.suffix_cons _ _))
  · exact .ok (List.suffix_refl _)

theorem skipFiller_within (fuel : Nat) (s : List Char) :
    Within IsMalformed s id (skipFiller fuel s) := by
  induction fuel generalizing s with
  | zero => exact .ok (List.suffix_refl s)
  | succ fuel ih =>
    have hblank : s.dropWhile isBlankOrNewline <:+ s := List.dropWhile_suffix _
    rw [skipFiller]
    split
    · rename_i rest heq
      rw [heq] at hblank
      exact ((skipComment_within _).of_suffix hblank).bind fun left hleft =>
        (ih left).of_suffix hleft
    · exact .ok hblank

theorem skipBetween_within (s : List Char) : Within IsMalformed s id (skipBetween s) :=
  skipFiller_within _ s

/-- What is read inside an array or a table. -/
def Step.Reads {α : Type} (frames : Nat) (value : Step α) : Prop :=
  ∀ s, Toml.Reads frames s (value s)

variable {value : Step Value}

theorem readAssignment_reads (hvalue : value.Reads frames) (s : List Char) :
    Reads frames s (readAssignment value s) := by
  unfold readAssignment
  refine (Plain.reads (readKey_plain s)).bind fun ⟨key, rest⟩ hrest => ?_
  dsimp only
  split
  · rename_i rest'
    have hmore : skipInline rest' <:+ s :=
      (skipInline_suffix rest').trans ((List.suffix_cons _ _).trans hrest)
    exact ((hvalue _).of_suffix hmore).bind fun _ h => .ok h
  · exact reads_malformed _ _

theorem readItems_reads (hvalue : value.Reads frames) (fuel : Nat) (s : List Char) :
    Reads frames s (readItems value fuel s) := by
  have hbetween : ∀ {s t : List Char}, s <:+ t →
      Within (Excused frames t) t id (skipBetween s) := fun hs =>
    (skipBetween_within _).mono hs fun _ => excused_of_isMalformed
  induction fuel generalizing s with
  | zero => exact reads_malformed _ _
  | succ fuel ih =>
    unfold readItems
    split
    · exact .ok (List.suffix_cons _ _)
    · refine (hvalue s).bind fun ⟨v, rest⟩ hrest => (hbetween hrest).bind fun next hnext => ?_
      split
      · exact .ok ((List.suffix_cons _ _).trans hnext)
      · rename_i rest'
        refine (hbetween ((List.suffix_cons _ rest').trans hnext)).bind fun next hnext => ?_
        exact ((ih next).of_suffix hnext).bind fun _ h => .ok h
      · exact reads_malformed _ _

theorem readInline_reads (hvalue : value.Reads frames) (fuel : Nat) (t : Table) (marks : List Mark)
    (s : List Char) : Reads frames s (readInline value fuel t marks s) := by
  induction fuel generalizing t marks s with
  | zero => exact reads_malformed _ _
  | succ fuel ih =>
    rw [readInline]
    refine (readAssignment_reads hvalue s).bind fun ⟨⟨key, v⟩, rest⟩ hrest => ?_
    have hskip := (skipInline_suffix rest).trans hrest
    dsimp only
    split
    · exact reads_malformed _ _
    · split
      · exact reads_malformed _ _
      · split
        · rename_i heq
          rw [heq] at hskip
          exact .ok ((List.suffix_cons _ _).trans hskip)
        · rename_i rest' heq
          rw [heq] at hskip
          exact (ih _ _ _).of_suffix
            ((skipInline_suffix rest').trans ((List.suffix_cons _ _).trans hskip))
        · exact reads_malformed _ _

/-- **Reading a value takes no more frames than its brackets and braces excuse.** -/
theorem readValue_reads (frames : Nat) : (readValue frames).Reads frames := by
  induction frames using readValue.induct with
  | case1 frames iharray ihtable =>
    intro s
    rw [readValue]
    dsimp only
    split
    · rename_i rest
      -- The items have two frames fewer to be read with.
      refine Within.mono (?_ : Reads (frames + 1) rest _) (List.suffix_cons _ _)
        fun _ => Excused.cons (.inl rfl) (show 2 ≤ 3 by decide)
      exact ((skipBetween_within rest).mono (List.suffix_refl rest)
        fun _ => excused_of_isMalformed).bind fun next hnext =>
          ((readItems_reads iharray _ next).of_suffix hnext).bind fun _ h => .ok h
    · rename_i rest
      split
      · rename_i rest' heq
        have hskip := skipInline_suffix rest
        rw [heq] at hskip
        exact .ok ((List.suffix_cons _ _).trans (hskip.trans (List.suffix_cons _ _)))
      · refine Within.mono (?_ : Reads frames rest _) (List.suffix_cons _ _)
          fun _ => Excused.cons (.inr rfl) (le_refl 3)
        exact ((readInline_reads ihtable _ _ _ _).of_suffix (skipInline_suffix rest)).bind
          fun _ h => .ok h
    · exact readScalar_reads s
  | case2 frames hfew =>
    intro s
    have hle : frames ≤ 2 := by
      by_contra hlt
      exact hfew (frames - 3) (by omega)
    rw [readValue.eq_2 _ hfew]
    dsimp only
    split
    · exact .error (hle.trans (Nat.le_add_left 2 _))
    · exact .error (hle.trans (Nat.le_add_left 2 _))
    · exact readScalar_reads s

end Values

/-! ### Lines -/

section Lines

variable {s : List Char}

/-- A step that reads nothing, and fails only if the text is not well formed. -/
abbrev Idle {α : Type} (s : List Char) (x : Except Error α) : Prop :=
  Within IsMalformed s (fun _ => s) x

theorem ensure_idle (condition : Bool) : Idle s (ensure condition) := by
  unfold ensure
  split
  · exact .ok (List.suffix_refl s)
  · exact .error rfl

theorem orMalformed_idle {α : Type} (x : Option α) : Idle s (orMalformed x) := by
  cases x with
  | some a => exact .ok (List.suffix_refl s)
  | none => exact .error rfl

theorem assign_idle (p : Progress) (key : List String) (v : Value) : Idle s (p.assign key v) := by
  unfold Progress.assign
  exact (ensure_idle _).bind fun _ _ => (ensure_idle _).bind fun _ _ =>
    (orMalformed_idle _).bind fun _ h => .ok h

theorem openTable_idle (p : Progress) (key : List String) : Idle s (p.openTable key) := by
  unfold Progress.openTable
  exact (ensure_idle _).bind fun _ _ => (orMalformed_idle _).bind fun _ h => .ok h

theorem openItem_idle (p : Progress) (key : List String) : Idle s (p.openItem key) := by
  unfold Progress.openItem
  exact (ensure_idle _).bind fun _ _ => (orMalformed_idle _).bind fun _ h => .ok h

theorem statement_reads (p : Progress) (s : List Char) : Reads maxFrames s (p.statement s) := by
  unfold Progress.statement
  split
  · rename_i rest
    have hkey : skipInline rest <:+ '[' :: '[' :: rest :=
      (skipInline_suffix rest).trans ((List.suffix_cons _ _).trans (List.suffix_cons _ _))
    refine Plain.reads (((readKey_plain _).of_suffix hkey).bind fun ⟨key, rest⟩ hrest =>
      (openItem_idle _ key).bind fun p _ => ?_)
    split
    · exact .ok ((List.suffix_cons _ _).trans ((List.suffix_cons _ _).trans hrest))
    · exact .error rfl
  · rename_i rest _
    have hkey : skipInline rest <:+ '[' :: rest :=
      (skipInline_suffix rest).trans (List.suffix_cons _ _)
    refine Plain.reads (((readKey_plain _).of_suffix hkey).bind fun ⟨key, rest⟩ hrest =>
      (openTable_idle _ key).bind fun p _ => ?_)
    split
    · exact .ok ((List.suffix_cons _ _).trans hrest)
    · exact .error rfl
  · exact .ok (List.suffix_refl _)
  · refine (readAssignment_reads (readValue_reads maxFrames) s).bind
      fun ⟨⟨key, v⟩, rest⟩ hrest => ?_
    refine ((assign_idle p key v).mono (List.suffix_refl s)
      fun _ => excused_of_isMalformed).bind fun p _ => .ok hrest

theorem readLines_excused (fuel : Nat) (p : Progress) (s : List Char) :
    Within (Excused maxFrames s) s (fun _ => []) (readLines fuel p s) := by
  induction fuel generalizing p s with
  | zero => exact .error trivial
  | succ fuel ih =>
    have hskip := skipInline_suffix s
    -- The lines that follow are read within what is left of the text.
    have hlines : ∀ {t rest : List Char} (p : Progress), rest <:+ t →
        Within (Excused maxFrames t) t (fun _ => []) (readLines fuel p rest) := fun p hs =>
      (ih p _).mono hs fun _ => Excused.mono hs.sublist
    rw [readLines]
    split
    · exact .ok List.nil_suffix
    · rename_i rest heq
      rw [heq] at hskip
      exact hlines p ((List.suffix_cons _ _).trans hskip)
    · refine ((statement_reads p _).of_suffix hskip).bind fun ⟨p, rest⟩ hrest => ?_
      have hcomment : Within (Excused maxFrames s) s id (skipComment (skipInline rest)) :=
        (skipComment_within _).mono ((skipInline_suffix rest).trans hrest)
          fun _ => excused_of_isMalformed
      refine hcomment.bind fun left hleft => ?_
      split
      · exact .ok List.nil_suffix
      · exact hlines p ((List.suffix_cons _ _).trans hleft)
      · exact .error trivial

theorem dropReturns_sublist (s : List Char) : (dropReturns s).Sublist s := by
  fun_induction dropReturns s with
  | case1 => exact .slnil
  | case2 rest ih => exact (ih.cons_cons _).cons _
  | case3 c rest _ ih => exact ih.cons_cons _

/-- **A settings file is refused for nothing that it does not give reason for.** -/
theorem read_excused {text : List Char} {e : Error} (h : read text = .error e) :
    Excused maxFrames text e :=
  ((readLines_excused _ _ _).admitted e h).mono (dropReturns_sublist text)

end Lines

end LintBridge.Toml
