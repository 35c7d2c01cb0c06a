import LintBridge.Proofs.Settings.Layers
import LintBridge.Proofs.Text.Letters
import Mathlib.Data.Set.List

/-!
# The spellings of a key

A key is a list of words, and there are four ways to write it (`LintBridge.Settings.Style`): the
words with underscores between them, with hyphens, and with capitals in their place, at the front or
not. **Written in whichever way it is the same key** (`LintBridge.Settings.normalizeKey_spell`):
once the hyphens have become underscores, there is an underscore in front of every capital but the
one at the front, and what is left of the capitals is lowered.

A layer of settings is read by the spelled keys alone (`LintBridge.Settings.merge_congr_spelled`),
and the fields are named by words, so that **all spellings of a setting reach its field**
(`LintBridge.Settings.spellings_agree`).
-/

namespace LintBridge.Settings

open Json (CodePoints Value)
open Response (Fields)

/-! ### Words -/

/-- **A word of a key**: a small letter, and then small letters and digits. -/
structure Word where
  /-- The letter at the front. -/
  initial : Char
  /-- What follows it. -/
  rest : List Char
  /-- The letter at the front is small. -/
  isLower_initial : initial.isLower = true
  /-- There are small letters and digits behind it. -/
  isLower_or_isDigit_rest : ∀ c ∈ rest, c.isLower = true ∨ c.isDigit = true

namespace Word

/-- A word as it is. -/
def plain (w : Word) : List Char :=
  w.initial :: w.rest

/-- A word with a capital at the front. -/
def capital (w : Word) : List Char :=
  w.initial.toUpper :: w.rest

end Word

/-- Whether characters make a word. -/
def isWord : List Char → Bool
  | [] => false
  | c :: rest => c.isLower && rest.all fun d => d.isLower || d.isDigit

theorem exists_plain_eq {part : List Char} (h : isWord part = true) :
    ∃ w : Word, w.plain = part := by
  cases part with
  | nil => cases h
  | cons c rest =>
    obtain ⟨hc, hrest⟩ := Bool.and_eq_true_iff.mp h
    have hrest : ∀ d ∈ rest, d.isLower = true ∨ d.isDigit = true := fun d hd =>
      Bool.or_eq_true_iff.mp (List.all_eq_true.mp hrest d hd)
    exact ⟨⟨c, rest, hc, hrest⟩, rfl⟩

/-- **A way to write a key.** -/
inductive Style where
  /-- With underscores between the words. -/
  | underscored
  /-- With hyphens between them. -/
  | hyphenated
  /-- With a capital at the front of each but the first. -/
  | camel
  /-- With a capital at the front of each. -/
  | pascal
  deriving DecidableEq

/-- The characters of the key that words make. -/
def Style.write : Style → List Word → List Char
  | .underscored, words => ['_'].intercalate (words.map Word.plain)
  | .hyphenated, words => ['-'].intercalate (words.map Word.plain)
  | .camel, [] => []
  | .camel, w :: words => w.plain ++ words.flatMap Word.capital
  | .pascal, words => words.flatMap Word.capital

/-- The key that words make. -/
def Style.spell (style : Style) (words : List Word) : String :=
  String.ofList (style.write words)

/-! ### The parts of a key -/

/-- What becomes of a character behind the front of a key, before it is lowered. -/
def parted (c : Char) : List Char :=
  if (if c == '-' then '_' else c).isUpper then ['_', if c == '-' then '_' else c]
  else [if c == '-' then '_' else c]

theorem normalizeKey_cons (c : Char) (cs : List Char) : normalizeKey (String.ofList (c :: cs)) =
    String.ofList (Text.lowerList ((if c == '-' then '_' else c) :: cs.flatMap parted)) := by
  unfold normalizeKey
  dsimp only
  rw [String.toList_ofList, List.map_cons, separateCapitals, List.flatMap_map]
  rfl

section Letter

variable {c : Char}

/-- Small letters and digits are characters of ASCII that stay as they are. -/
theorem small_cases (h : c.isLower = true ∨ c.isDigit = true) :
    c.toNat < 128 ∧ c ≠ '-' ∧ parted c = [c] ∧ c.toLower = c := by
  have hlt : c.toNat < 128 := by
    rcases h with hletter | hdigit
    · exact Text.toNat_lt_of_isLower hletter
    · obtain ⟨-, hlast⟩ := Bool.and_eq_true_iff.mp hdigit
      have hle : c.toNat ≤ '9'.toNat := UInt32.le_iff_toNat_le.mp (of_decide_eq_true hlast)
      exact Nat.lt_of_le_of_lt hle (by decide)
  refine ⟨hlt, Text.of_ascii (P := fun c => c.isLower = true ∨ c.isDigit = true →
    c ≠ '-' ∧ parted c = [c] ∧ c.toLower = c) ?_ hlt h⟩
  decide +kernel

/-- Behind the front there is an underscore before the capital of a small letter. -/
theorem capital_cases (h : c.isLower = true) :
    c.toUpper.toNat < 128 ∧ c.toUpper ≠ '-' ∧ parted c.toUpper = ['_', c.toUpper] := by
  refine Text.of_ascii (P := fun c => c.isLower = true → c.toUpper.toNat < 128 ∧
    c.toUpper ≠ '-' ∧ parted c.toUpper = ['_', c.toUpper]) ?_ (small_cases (.inl h)).1 h
  decide +kernel

end Letter

namespace Word

variable (w : Word)

theorem flatMap_parted_rest : w.rest.flatMap parted = w.rest := by
  rw [List.flatMap_congr fun c hc => (small_cases (w.isLower_or_isDigit_rest c hc)).2.2.1,
    List.flatMap_singleton']

theorem flatMap_parted_plain : w.plain.flatMap parted = w.plain := by
  obtain ⟨-, -, hinitial, -⟩ := small_cases (.inl w.isLower_initial)
  rw [plain, List.flatMap_cons, hinitial, flatMap_parted_rest, List.singleton_append]

theorem flatMap_parted_capital : w.capital.flatMap parted = '_' :: w.capital := by
  obtain ⟨-, -, hinitial⟩ := capital_cases w.isLower_initial
  rw [capital, List.flatMap_cons, hinitial, flatMap_parted_rest]
  rfl

theorem nearAscii_rest : ∀ c ∈ w.rest, Text.NearAscii c :=
  fun c hc => .inl (small_cases (w.isLower_or_isDigit_rest c hc)).1

theorem nearAscii_plain : ∀ c ∈ w.plain, Text.NearAscii c :=
  List.forall_mem_cons.mpr ⟨.inl (small_cases (.inl w.isLower_initial)).1, w.nearAscii_rest⟩

theorem nearAscii_capital : ∀ c ∈ w.capital, Text.NearAscii c :=
  List.forall_mem_cons.mpr ⟨.inl (capital_cases w.isLower_initial).1, w.nearAscii_rest⟩

theorem map_toLower_plain : w.plain.map Char.toLower = w.plain := by
  obtain ⟨-, -, -, hinitial⟩ := small_cases (.inl w.isLower_initial)
  have hrest : w.rest.map Char.toLower = w.rest :=
    (List.map_congr_left fun c hc =>
      (small_cases (w.isLower_or_isDigit_rest c hc)).2.2.2).trans (List.map_id _)
  rw [plain, List.map_cons, hinitial, hrest]

/-- The capital at the front of a word is lowered. -/
theorem map_toLower_capital : w.capital.map Char.toLower = w.plain := by
  rw [← map_toLower_plain, capital, plain, List.map_cons, List.map_cons, Text.toLower_toUpper]

end Word

/-! ### The parts of a style -/

namespace Style

/-- The first word of a key. -/
def first : Style → Word → List Char
  | .pascal, w => w.capital
  | _, w => w.plain

/-- Another word of a key, with what is put before it. -/
def further : Style → Word → List Char
  | .underscored, w => '_' :: w.plain
  | .hyphenated, w => '-' :: w.plain
  | .camel, w => w.capital
  | .pascal, w => w.capital

variable (style : Style) (w : Word) (words : List Word)

theorem intercalate_map_plain (c : Char) : [c].intercalate ((w :: words).map Word.plain) =
    w.plain ++ words.flatMap fun w => c :: w.plain := by
  induction words generalizing w with
  | nil => simp
  | cons v words ih =>
    rw [List.map_cons, List.map_cons, List.intercalate_cons_cons, ← List.map_cons, ih,
      List.flatMap_cons]
    simp

/-- **A key is its first word, and then the others one by one.** -/
theorem write_cons : style.write (w :: words) = style.first w ++ words.flatMap style.further := by
  cases style with
  | underscored => exact intercalate_map_plain w words '_'
  | hyphenated => exact intercalate_map_plain w words '-'
  | camel => rfl
  | pascal => rfl

/-- There is no hyphen at the front of a key, and nothing is put between the letters of its first
word. -/
theorem exists_first : ∃ c, c ≠ '-' ∧ style.first w = c :: w.rest := by
  have hplain := (small_cases (.inl w.isLower_initial)).2.1
  have hcapital := (capital_cases w.isLower_initial).2.1
  cases style with
  | pascal => exact ⟨_, hcapital, rfl⟩
  | _ => exact ⟨_, hplain, rfl⟩

/-- **In every style there is one underscore before each further word**, and the word stands there
plain or with a capital. -/
theorem flatMap_parted_further : (style.further w).flatMap parted = '_' :: w.plain ∨
    (style.further w).flatMap parted = '_' :: w.capital := by
  cases style with
  | underscored => exact .inl (congrArg ('_' :: ·) w.flatMap_parted_plain)
  | hyphenated => exact .inl (congrArg ('_' :: ·) w.flatMap_parted_plain)
  | camel => exact .inr w.flatMap_parted_capital
  | pascal => exact .inr w.flatMap_parted_capital

theorem nearAscii_first : ∀ c ∈ style.first w, Text.NearAscii c := by
  cases style with
  | pascal => exact w.nearAscii_capital
  | _ => exact w.nearAscii_plain

theorem map_toLower_first : (style.first w).map Char.toLower = w.plain := by
  cases style with
  | pascal => exact w.map_toLower_capital
  | _ => exact w.map_toLower_plain

theorem nearAscii_further : ∀ c ∈ (style.further w).flatMap parted, Text.NearAscii c := by
  have hunderscore : Text.NearAscii '_' := by decide
  rcases style.flatMap_parted_further w with h | h
  · rw [h]
    exact List.forall_mem_cons.mpr ⟨hunderscore, w.nearAscii_plain⟩
  · rw [h]
    exact List.forall_mem_cons.mpr ⟨hunderscore, w.nearAscii_capital⟩

theorem map_toLower_further :
    ((style.further w).flatMap parted).map Char.toLower = '_' :: w.plain := by
  rcases style.flatMap_parted_further w with h | h
  · rw [h, List.map_cons, w.map_toLower_plain]
    rfl
  · rw [h, List.map_cons, w.map_toLower_capital]
    rfl

end Style

/-- **All spellings of a key become one**: the words with underscores between them. -/
theorem normalizeKey_spell (style : Style) (words : List Word) :
    normalizeKey (style.spell words) = Style.underscored.spell words := by
  cases words with
  | nil => cases style <;> decide +kernel
  | cons w words =>
    obtain ⟨c, hc, hfirst⟩ := style.exists_first w
    have hkept : (if c == '-' then '_' else c) = c := by simp [hc]
    have hnear : ∀ d ∈ style.first w ++ words.flatMap fun w => (style.further w).flatMap parted,
        Text.NearAscii d := by
      refine List.forall_mem_append.mpr ⟨style.nearAscii_first w, fun d hd => ?_⟩
      obtain ⟨v, -, hd⟩ := List.mem_flatMap.mp hd
      exact style.nearAscii_further v d hd
    calc normalizeKey (style.spell (w :: words))
        = normalizeKey (String.ofList (c :: (w.rest ++ words.flatMap style.further))) := by
          rw [Style.spell, Style.write_cons, hfirst, List.cons_append]
      _ = String.ofList (Text.lowerList (style.first w ++
            words.flatMap fun w => (style.further w).flatMap parted)) := by
          rw [normalizeKey_cons, hkept, List.flatMap_append, w.flatMap_parted_rest,
            List.flatMap_assoc, hfirst, List.cons_append]
      _ = String.ofList (w.plain ++ words.flatMap fun w => '_' :: w.plain) := by
          rw [Text.lowerList_of_nearAscii hnear, List.map_append, style.map_toLower_first,
            List.map_flatMap, List.flatMap_congr fun v _ => style.map_toLower_further v]
      _ = Style.underscored.spell (w :: words) := by
          rw [Style.spell, Style.write_cons]
          rfl

example : normalizeKey "lintWholeProject" = "lint_whole_project" := by decide +kernel

/-! ### Layers in other spellings -/

section Layers

variable {base : Settings} {layer layer' : Fields}

/-- **A layer is read by its spelled keys alone.** -/
theorem overlay_congr_spelled
    (h : (layer.map fun entry => (spelled entry.1, entry.2)) =
      layer'.map fun entry => (spelled entry.1, entry.2)) :
    overlay base layer = overlay base layer' := by
  have hspelled : ∀ layer : Fields, overlay base layer =
      (layer.map fun entry => (spelled entry.1, entry.2)).foldl
        (fun fields entry => Json.insert fields (CodePoints.ofString entry.1) entry.2)
        (overlay base []) := fun layer => by
    rw [List.foldl_map]
    rfl
  rw [hspelled layer, hspelled layer', h]

theorem merge_congr_spelled
    (h : (layer.map fun entry => (spelled entry.1, entry.2)) =
      layer'.map fun entry => (spelled entry.1, entry.2)) :
    base.merge layer = base.merge layer' := by
  have hempty : layer.isEmpty = layer'.isEmpty := by
    rw [← List.isEmpty_map, h, List.isEmpty_map]
  unfold merge
  rw [hempty, overlay_congr_spelled h]

end Layers

theorem spelled_spell (style : Style) (words : List Word) :
    spelled (CodePoints.ofString (style.spell words)) = Style.underscored.spell words := by
  rw [spelled, CodePoints.toString_ofString, normalizeKey_spell]

/-- The name of a field is words with underscores between them. -/
theorem exists_words {f : Field} (hf : f ∈ fields) :
    ∃ words, words ≠ [] ∧ Style.underscored.spell words = f.name := by
  have hlisted : ∀ name ∈ fields.map (·.name), (name.toList.splitOn '_').all isWord = true := by
    decide +kernel
  have hlift : f.name.toList.splitOn '_' ∈ Set.range (List.map Word.plain) := by
    rw [Set.range_list_map]
    have hwords := List.all_eq_true.mp (hlisted f.name (List.mem_map_of_mem hf))
    exact fun part hpart => exists_plain_eq (hwords part hpart)
  obtain ⟨words, hwords⟩ := hlift
  refine ⟨words, ?_, ?_⟩
  · rintro rfl
    exact List.splitOn_ne_nil '_' _ hwords.symm
  · rw [Style.spell, Style.write, hwords, List.intercalate_splitOn, String.ofList_toList]

/-- **All spellings of a setting reach its field.** A key of words is spelled as these with
underscores between them, in whichever style it is written, and a key that is spelled so stays.
Every field is reached by the words of its name, and a layer does not depend on the style of any of
its keys. -/
theorem spellings_agree :
    (∀ (style : Style) (words : List Word),
      normalizeKey (style.spell words) = Style.underscored.spell words) ∧
    (∀ key, normalizeKey (normalizeKey key) = normalizeKey key) ∧
    (∀ f ∈ fields, ∃ words, words ≠ [] ∧ ∀ (style : Style) (v : Value),
      lastFor? f.name [(CodePoints.ofString (style.spell words), v)] = some v) ∧
    ∀ (base : Settings) (before after : Fields) (style : Style) (words : List Word) (v : Value),
      base.merge (before ++ (CodePoints.ofString (style.spell words), v) :: after) = base.merge
        (before ++ (CodePoints.ofString (Style.underscored.spell words), v) :: after) := by
  refine ⟨normalizeKey_spell, normalizeKey_normalizeKey, fun f hf => ?_,
    fun base before after style words v => merge_congr_spelled ?_⟩
  · obtain ⟨words, hne, hname⟩ := exists_words hf
    refine ⟨words, hne, fun style v => ?_⟩
    rw [lastFor?_singleton, spelled_spell, hname, if_pos rfl]
  · simp only [List.map_append, List.map_cons, spelled_spell]

end LintBridge.Settings
