import LintBridge.Proofs.Settings.Field
import LintBridge.Proofs.Settings.Spelling

/-!
# Layers of settings

Putting a layer on top of settings writes the settings out, writes the entries of the layer over
them, and reads the result again. For settings that can be used that comes to something simpler:
**every field is what the last entry for it says, or stays as it is**. Since a field is written over
and never combined, layers can be put together before they are put on top, and whether a layer is
accepted is a matter between its entries and the checks of the fields.

* `LintBridge.Settings.lastFor?` – what the last entry for a field says;
  `LintBridge.Settings.Field.Takes` – a field that follows it;
* `LintBridge.Settings.merge_eq_ok_iff`, `LintBridge.Settings.merge_eq_error_iff` – **when a layer
  is accepted and what comes of it, and when it is not and why**;
* `LintBridge.Settings.joined` – two layers as one;
* `LintBridge.Settings.merge_layers` – layers put on top of each other.
-/

namespace LintBridge.Settings

open Json (Value CodePoints)
open Response (Fields)

/-! ### Entries of a layer -/

/-- The one spelling of the key of an entry. -/
def spelled (k : CodePoints) : String :=
  normalizeKey (CodePoints.toString k)

/-- What the last entry for a field says, whichever way its key is spelled. -/
def lastFor? (name : String) (layer : Fields) : Option Value :=
  ((layer.filter fun entry => spelled entry.1 == name).getLast?).map Prod.snd

/-- Whether an entry is for one of the fields of settings. -/
def isKnown (entry : CodePoints × Value) : Bool :=
  (fields.map (·.name)).contains (spelled entry.1)

/-- The entries of a layer, each with its key in the one spelling. -/
def respelled (layer : Fields) : Fields :=
  layer.map fun entry => (CodePoints.ofString (spelled entry.1), entry.2)

/-- Two layers as one object, each key in its one spelling and the second layer over the first. -/
def joined (a b : Fields) : Fields :=
  Json.ofEntries (respelled (a ++ b))

/-- An object with the entries of a layer put into it, each key in its one spelling. -/
def writtenOver (start layer : Fields) : Fields :=
  layer.foldl (fun entries entry => Json.insert entries (CodePoints.ofString (spelled entry.1))
    entry.2) start

section Entries

variable {name : String} {a b layer : Fields}

theorem spelled_ofString_spelled (k : CodePoints) :
    spelled (CodePoints.ofString (spelled k)) = spelled k := by
  unfold spelled
  rw [CodePoints.toString_ofString, normalizeKey_normalizeKey]

/-- Of two layers the second counts. -/
theorem lastFor?_append : lastFor? name (a ++ b) = (lastFor? name b).or (lastFor? name a) := by
  unfold lastFor?
  rw [List.filter_append, List.getLast?_append, Option.map_or]

theorem lastFor?_singleton (k : CodePoints) (v : Value) :
    lastFor? name [(k, v)] = if spelled k = name then some v else none := by
  by_cases h : spelled k = name
  · simp [lastFor?, h]
  · simp [lastFor?, h]

/-- What the last entry for a field says is said by an entry. -/
theorem exists_mem_of_lastFor? {v : Value} (h : lastFor? name layer = some v) :
    ∃ entry ∈ layer, entry.2 = v := by
  obtain ⟨entry, hentry, hv⟩ := Option.map_eq_some_iff.mp h
  exact ⟨entry, List.mem_of_mem_filter (List.mem_of_getLast? hentry), hv⟩

/-- Entries for something else do not matter. -/
theorem lastFor?_filter_isKnown (h : ∃ f ∈ fields, f.name = name) :
    lastFor? name (layer.filter isKnown) = lastFor? name layer := by
  have hknown : ∀ entry ∈ layer,
      (isKnown entry && spelled entry.1 == name) = (spelled entry.1 == name) := by
    intro entry _
    by_cases hname : spelled entry.1 = name
    · obtain ⟨f, hf, rfl⟩ := h
      have hmem : spelled entry.1 ∈ fields.map (·.name) :=
        hname ▸ List.mem_map.mpr ⟨f, hf, rfl⟩
      simp [isKnown, hmem]
    · simp [hname]
  unfold lastFor?
  rw [List.filter_filter]
  simp only [Bool.and_comm]
  rw [List.filter_congr hknown]

/-- In an object with keys in their one spelling, the last entry for a field is its only one. -/
theorem lastFor?_eq_get? (hnodup : (layer.map Prod.fst).Nodup)
    (hspelled : ∀ k ∈ layer.map Prod.fst, k = CodePoints.ofString (spelled k)) :
    lastFor? name layer = Json.get? layer name := by
  induction layer with
  | nil => rfl
  | cons entry rest ih =>
    obtain ⟨k, v⟩ := entry
    obtain ⟨hk, hrest⟩ := List.forall_mem_cons.mp hspelled
    obtain ⟨hfresh, hnodup⟩ := List.nodup_cons.mp hnodup
    rw [← List.singleton_append, lastFor?_append, ih hnodup hrest, lastFor?_singleton,
      List.singleton_append, Json.get?_cons]
    by_cases hname : spelled k = name
    · have hkey : k = CodePoints.ofString name := hname ▸ hk
      have habsent : Json.get? rest name = none := Json.get?_eq_none (hkey ▸ hfresh)
      rw [habsent, if_pos hname, if_pos hkey, Option.none_or]
    · have hkey : k ≠ CodePoints.ofString name := fun h => hname (by
        rw [h] at hk ⊢
        exact (CodePoints.ofString_injective hk).symm)
      rw [if_neg hname, if_neg hkey, Option.or_none]

/-- What is found in an object with a layer written over it. -/
theorem get?_writtenOver (start layer : Fields) (name : String) :
    Json.get? (writtenOver start layer) name = (lastFor? name layer).or (Json.get? start name) := by
  induction layer using List.reverseRecOn with
  | nil => rfl
  | append_singleton layer entry ih =>
    obtain ⟨k, v⟩ := entry
    have hstep : writtenOver start (layer ++ [(k, v)]) =
        Json.insert (writtenOver start layer) (CodePoints.ofString (spelled k)) v := by
      unfold writtenOver
      rw [List.foldl_append]
      rfl
    rw [hstep, Json.get?_insert, ih, lastFor?_append, lastFor?_singleton]
    by_cases hname : spelled k = name
    · rw [if_pos (congrArg CodePoints.ofString hname), if_pos hname, Option.some_or, Option.some_or]
    · rw [if_neg (CodePoints.ofString_injective.ne hname), if_neg hname, Option.none_or]

theorem overlay_eq (base : Settings) (layer : Fields) : overlay base layer =
    writtenOver (base.toFields.map fun (k, v) => (CodePoints.ofString k, v)) layer := rfl

theorem joined_eq (a b : Fields) : joined a b = writtenOver [] (a ++ b) := by
  unfold joined respelled Json.ofEntries writtenOver
  rw [List.foldl_map]

/-- The keys of two layers as one are in their one spelling. -/
theorem eq_spelled_of_mem_joined {k : CodePoints} (h : k ∈ (joined a b).map Prod.fst) :
    k = CodePoints.ofString (spelled k) := by
  rw [joined, Json.mem_keys_ofEntries, respelled, List.map_map] at h
  obtain ⟨entry, -, hentry⟩ := List.mem_map.mp h
  dsimp only [Function.comp_apply] at hentry
  rw [← hentry, spelled_ofString_spelled]

/-- **Two layers as one say of a field what the second says, or else what the first does.** -/
theorem lastFor?_joined : lastFor? name (joined a b) = lastFor? name (a ++ b) := by
  have hnodup : ((joined a b).map Prod.fst).Nodup := Json.nodup_ofEntries _
  rw [lastFor?_eq_get? hnodup fun _ => eq_spelled_of_mem_joined, joined_eq, get?_writtenOver]
  exact Option.or_none

end Entries

/-! ### Fields that follow a layer -/

/-- **A field follows what is written for it**, as its check leaves it, and without anything written
stays as it is. -/
def Field.Takes (f : Field) (written : Option Value) (before after : f.Kind) : Prop :=
  match written with
  | some v => f.check v = .valid after
  | none => after = before

/-- What is written later is followed. -/
theorem Field.Takes.trans {f : Field} {first second : Option Value} {x y z : f.Kind}
    (hfirst : f.Takes first x y) (hsecond : f.Takes second y z) :
    f.Takes (second.or first) x z := by
  cases second with
  | some v => exact hsecond
  | none =>
    obtain rfl : z = y := hsecond
    exact hfirst

/-- A layer is refused if one of its fields would end up with something that the check of the field
does not let pass. -/
def IsRefused (layer : Fields) : Prop :=
  ∃ f ∈ fields, ∃ v, lastFor? f.name layer = some v ∧ ∀ x, f.check v ≠ .valid x

/-- What ends the check of settings with a layer on top: the last entry for the severity, if that
does. No check of another field ends. -/
def faultOf? (layer : Fields) : Option Json.Unencodable :=
  (lastFor? "minimum_severity" layer).bind fun v => (checkSeverity v).fault?

/-- The issues with what a layer says of the fields, in the order of the fields. -/
def issuesOf (layer : Fields) : List Issue :=
  fields.flatMap fun f =>
    match lastFor? f.name layer with
    | some v => ((f.check v).under (.field f.name)).issues
    | none => []

/-- Why a layer is not put on top of settings, if it is not. -/
def errorOf (layer : Fields) : MergeError :=
  match faultOf? layer with
  | some fault => .broken fault
  | none => .refused (.invalid (issuesOf layer))

section Merge

variable {base s : Settings} {layer layer' : Fields}

/-- **A field read from settings with a layer written over them is the last entry for it, or as it
was.** Written out and read again, a field of settings that can be used is the same. -/
theorem defaulted_overlay (hbase : base.IsValid) (layer : Fields) : ∀ f ∈ fields,
    Checked.defaulted f.name (f.get {}) f.check (overlay base layer) =
      match lastFor? f.name layer with
      | some v => (f.check v).under (.field f.name)
      | none => .valid (f.get base) := by
  intro f hf
  unfold Checked.defaulted
  rw [overlay_eq, get?_writtenOver, Json.get?_ofFields, lookup_toFields base f hf]
  cases lastFor? f.name layer with
  | some v => rfl
  | none =>
    rw [Option.none_or]
    dsimp only
    rw [isValid_iff.mp hbase f hf]
    rfl

/-- Settings that can be used are read again with a layer written over them, even an empty one. -/
theorem merge_eq (hbase : base.IsValid) (layer : Fields) :
    base.merge layer = (check (.object (overlay base layer))).toExcept.mapError .ofCheck := by
  unfold merge
  split
  · rename_i hempty
    obtain rfl := List.isEmpty_iff.mp hempty
    have hcheck : check (.object (overlay base [])) = .valid base :=
      check_eq_valid_iff.mpr fun f hf => defaulted_overlay hbase [] f hf
    rw [hcheck]
    rfl
  · rfl

/-- **What becomes of settings that can be used**: every field follows the layer. -/
theorem merge_eq_ok_iff (hbase : base.IsValid) :
    base.merge layer = .ok s ↔
      ∀ f ∈ fields, f.Takes (lastFor? f.name layer) (f.get base) (f.get s) := by
  have hfield : ∀ f ∈ fields,
      Checked.defaulted f.name (f.get {}) f.check (overlay base layer) = .valid (f.get s) ↔
        f.Takes (lastFor? f.name layer) (f.get base) (f.get s) := by
    intro f hf
    rw [defaulted_overlay hbase layer f hf]
    cases lastFor? f.name layer with
    | some v => exact Checked.under_eq_valid
    | none => exact ⟨fun h => (Checked.valid.inj h).symm, fun h => congrArg Checked.valid h.symm⟩
  rw [merge_eq hbase, mapError_eq_ok, Checked.toExcept_eq_ok, check_eq_valid_iff]
  exact forall₂_congr hfield

/-- Settings are made of any nine fields. -/
theorem exists_of_fields {P : (f : Field) → f.Kind → Prop} (h : ∀ f ∈ fields, ∃ x, P f x) :
    ∃ s : Settings, ∀ f ∈ fields, P f (f.get s) := by
  simp only [fields, List.forall_mem_cons, List.not_mem_nil, false_imp_iff, implies_true,
    and_true] at h ⊢
  obtain ⟨⟨x0, h0⟩, ⟨x1, h1⟩, ⟨x2, h2⟩, ⟨x3, h3⟩, ⟨x4, h4⟩, ⟨x5, h5⟩, ⟨x6, h6⟩, ⟨x7, h7⟩,
    ⟨x8, h8⟩⟩ := h
  exact ⟨⟨x0, x1, x2, x3, x4, x5, x6, x7, x8⟩, h0, h1, h2, h3, h4, h5, h6, h7, h8⟩

/-- A layer is refused, or there are settings with it on top. -/
theorem exists_merge_eq_ok_iff (hbase : base.IsValid) :
    (∃ s, base.merge layer = .ok s) ↔ ¬ IsRefused layer := by
  constructor
  · rintro ⟨s, hs⟩ ⟨f, hf, v, hv, hrefused⟩
    have htakes := (merge_eq_ok_iff hbase).mp hs f hf
    rw [hv] at htakes
    exact hrefused _ htakes
  · intro haccepted
    have hfields : ∀ f ∈ fields, ∃ x, f.Takes (lastFor? f.name layer) (f.get base) x := by
      intro f hf
      cases hlast : lastFor? f.name layer with
      | none => exact ⟨f.get base, rfl⟩
      | some v =>
        by_contra hnone
        exact haccepted ⟨f, hf, v, hlast, fun x hx => hnone ⟨x, hx⟩⟩
    obtain ⟨s, hs⟩ := exists_of_fields hfields
    exact ⟨s, (merge_eq_ok_iff hbase).mpr hs⟩

/-- The check of settings that a layer is written over ends if the layer ends it. -/
theorem fault?_overlay (base : Settings) (layer : Fields) :
    (check (.object (overlay base layer))).fault? = faultOf? layer := by
  have hfield : fields[7] ∈ fields := List.getElem_mem _
  have hwritten : base.toFields.lookup "minimum_severity" =
      some (.int base.minimumSeverity.number) := lookup_toFields base _ hfield
  rw [fault?_check, faultOf?]
  unfold Checked.defaulted
  rw [overlay_eq, get?_writtenOver, Json.get?_ofFields, hwritten]
  cases lastFor? "minimum_severity" layer with
  | some v => exact Checked.fault?_under _ _
  | none =>
    rw [Option.none_or]
    dsimp only
    rw [checkSeverity_write]
    rfl

/-- **A layer ends the check of the settings that it is put on top of**, whatever they are, or of
none. -/
theorem merge_eq_broken_iff {u : Json.Unencodable} :
    base.merge layer = .error (.broken u) ↔ faultOf? layer = some u := by
  rw [← fault?_overlay base]
  unfold merge
  split
  · rename_i hempty
    obtain rfl := List.isEmpty_iff.mp hempty
    rw [fault?_overlay]
    exact iff_of_false nofun nofun
  · cases check (.object (overlay base layer)) <;>
      simp [Checked.toExcept, Checked.fault?, Except.mapError, MergeError.ofCheck]

/-- The issues with settings that a layer is written over are those with the layer, unless that ends
the check. -/
theorem issues_overlay (hbase : base.IsValid) {layer : Fields} (h : faultOf? layer = none) :
    (check (.object (overlay base layer))).issues = issuesOf layer := by
  rw [issues_check ((fault?_overlay base layer).trans h), issuesOf]
  refine List.flatMap_congr fun f hf => ?_
  rw [defaulted_overlay hbase layer f hf]
  cases lastFor? f.name layer <;> rfl

/-- **When a layer is not put on top of settings, and why.** Neither depends on the settings. -/
theorem merge_eq_error_iff (hbase : base.IsValid) {e : MergeError} :
    base.merge layer = .error e ↔ IsRefused layer ∧ e = errorOf layer := by
  have hrefused : (∀ s, check (.object (overlay base layer)) ≠ .valid s) ↔ IsRefused layer := by
    rw [← not_iff_not, ← exists_merge_eq_ok_iff hbase, not_forall_not]
    refine exists_congr fun s => ?_
    rw [merge_eq hbase, mapError_eq_ok, Checked.toExcept_eq_ok]
  have herror : MergeError.ofCheck (check (.object (overlay base layer))).errorOf =
      errorOf layer := by
    unfold Checked.errorOf errorOf
    rw [fault?_overlay]
    cases hfault : faultOf? layer with
    | some fault => rfl
    | none => exact congrArg (MergeError.refused ∘ Error.invalid) (issues_overlay hbase hfault)
  rw [merge_eq hbase, mapError_eq_error, ← hrefused, ← herror]
  simp only [Checked.toExcept_eq_error]
  constructor
  · rintro ⟨_, ⟨hnot, rfl⟩, rfl⟩
    exact ⟨hnot, rfl⟩
  · rintro ⟨hnot, rfl⟩
    exact ⟨_, ⟨hnot, rfl⟩, rfl⟩

/-- Only the last entries for the fields matter. -/
theorem merge_congr (hbase : base.IsValid)
    (h : ∀ f ∈ fields, lastFor? f.name layer = lastFor? f.name layer') :
    base.merge layer = base.merge layer' := by
  have hsame : ∀ s, base.merge layer = .ok s ↔ base.merge layer' = .ok s := fun s => by
    rw [merge_eq_ok_iff hbase, merge_eq_ok_iff hbase]
    exact forall₂_congr fun f hf => by rw [h f hf]
  have hseverity : lastFor? "minimum_severity" layer = lastFor? "minimum_severity" layer' := by
    obtain ⟨f, hf, hname⟩ : ∃ f ∈ fields, f.name = "minimum_severity" := by simp [fields]
    exact hname ▸ h f hf
  have herror : errorOf layer = errorOf layer' := by
    have hissues : issuesOf layer = issuesOf layer' :=
      List.flatMap_congr fun f hf => by rw [h f hf]
    unfold errorOf faultOf?
    rw [hseverity, hissues]
  cases hmerge : base.merge layer with
  | ok s => exact ((hsame s).mp hmerge).symm
  | error e =>
    obtain ⟨hrefused, rfl⟩ := (merge_eq_error_iff hbase).mp hmerge
    refine ((merge_eq_error_iff hbase).mpr ⟨?_, herror⟩).symm
    obtain ⟨f, hf, v, hv, hnone⟩ := hrefused
    exact ⟨f, hf, v, h f hf ▸ hv, hnone⟩

/-- **What becomes of settings that layers are put on top of one after the other**: every field
follows the last of all entries for it. -/
theorem takes_of_foldlM {layers : List Fields} (hbase : base.IsValid)
    (h : layers.foldlM merge base = .ok s) :
    ∀ f ∈ fields, f.Takes (lastFor? f.name layers.flatten) (f.get base) (f.get s) := by
  induction layers generalizing base with
  | nil =>
    cases h
    exact fun _ _ => rfl
  | cons layer rest ih =>
    rw [List.foldlM_cons] at h
    obtain ⟨t, hlayer, hrest⟩ := bind_eq_ok.mp h
    intro f hf
    rw [List.flatten_cons, lastFor?_append]
    have htakes := (merge_eq_ok_iff hbase).mp hlayer f hf
    exact htakes.trans (ih (merge_isValid hbase hlayer) hrest f hf)

/-- **Layers replace fields one by one, and the last entry for a field wins.** After any number of
layers every field of settings is the checked value of the last entry for it, or as it was where
there is none; an entry for something else changes nothing. Two layers that are accepted one after
the other can be put together first. Whether a layer is accepted, and what is wrong with it if it is
not, does not depend on the settings it would be put on top of. -/
theorem merge_layers (hbase : base.IsValid) :
    (∀ (layers : List Fields) (s : Settings), layers.foldlM merge base = .ok s →
      ∀ f ∈ fields, f.Takes (lastFor? f.name layers.flatten) (f.get base) (f.get s)) ∧
    (∀ layer : Fields, base.merge (layer.filter isKnown) = base.merge layer) ∧
    (∀ (a b : Fields) (s t : Settings), base.merge a = .ok s → s.merge b = .ok t →
      base.merge (joined a b) = .ok t) ∧
    ∀ other : Settings, other.IsValid → ∀ (layer : Fields) (e : MergeError),
      base.merge layer = .error e ↔ other.merge layer = .error e := by
  refine ⟨fun layers s h => takes_of_foldlM hbase h, fun layer => ?_, fun a b s t ha hb => ?_,
    fun other hother layer e => ?_⟩
  · exact merge_congr hbase fun f hf => lastFor?_filter_isKnown ⟨f, hf, rfl⟩
  · refine (merge_eq_ok_iff hbase).mpr fun f hf => ?_
    rw [lastFor?_joined, lastFor?_append]
    exact ((merge_eq_ok_iff hbase).mp ha f hf).trans
      ((merge_eq_ok_iff (merge_isValid hbase ha)).mp hb f hf)
  · rw [merge_eq_error_iff hbase, merge_eq_error_iff hother]

/-- A layer with two spellings of one key and a key that settings do not have. -/
def spellings : Fields :=
  [("executable", .ofString " lint "), ("max-problems", .int 5), ("maxProblems", .ofString "7"),
    ("colour", .null)].map fun (k, v) => (CodePoints.ofString k, v)

/-- A layer with a truth value for a number. -/
def lenient : Fields :=
  [(CodePoints.ofString "timeoutSeconds", .bool true)]

/-- A layer that asks for no diagnostics at all. -/
def noProblems : Fields :=
  [(CodePoints.ofString "max_problems", .int 0)]

/-- What is wrong with that. -/
def noneShown : MergeError :=
  .refused (.invalid [⟨[.field "max_problems"], .below 1⟩])

/-- What the first makes of the defaults. -/
def respelt : Settings :=
  { executable := .ofString "lint", maxProblems := some 7 }

/-- What the second makes of that. -/
def layered : Settings :=
  { respelt with timeoutSeconds := some (Binary64.ofInt 1) }

/-- The later of the two spellings wins, the key that settings do not have is passed over, and what
is refused is refused on top of either. -/
theorem merge_layers_spellings :
    IsValid {} ∧ [spellings, lenient].foldlM merge {} = .ok layered ∧
      (∀ f ∈ fields, f.Takes (lastFor? f.name [spellings, lenient].flatten) (f.get {})
        (f.get layered)) ∧
      merge {} (spellings.filter isKnown) = merge {} spellings ∧
      merge {} spellings = .ok respelt ∧ respelt.merge lenient = .ok layered ∧
      merge {} (joined spellings lenient) = .ok layered ∧
      merge {} noProblems = .error noneShown ∧
      respelt.merge noProblems = .error noneShown := by
  have hbase : IsValid {} := isValid_default
  have hfirst : merge {} spellings = .ok respelt := by decide +kernel
  have hsecond : respelt.merge lenient = .ok layered := by decide +kernel
  have hboth : [spellings, lenient].foldlM merge {} = .ok layered := by decide +kernel
  have hrefused : merge {} noProblems = .error noneShown := by decide +kernel
  obtain ⟨hfields, hknown, hjoined, hissues⟩ := merge_layers hbase
  exact ⟨hbase, hboth, hfields _ _ hboth, hknown spellings, hfirst, hsecond,
    hjoined _ _ _ _ hfirst hsecond, hrefused,
    (hissues _ (merge_isValid hbase hfirst) _ _).mp hrefused⟩

end Merge

end LintBridge.Settings
