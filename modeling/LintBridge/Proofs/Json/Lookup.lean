import LintBridge.Json.Value
import LintBridge.Proofs.Json.CodePoints
import Mathlib.Data.List.Induction
import Mathlib.Data.List.Nodup

/-!
# Looking fields up

An object is a list of fields, and what is looked up in it is the first field with the key.

* `LintBridge.Json.get?_ofFields` – the objects that the program makes have keys that are strings,
  and looking a key up in one of them is looking it up in the list of its fields;
* `LintBridge.Json.get?_perm` – the order of fields does not matter where no two share a key;
* `LintBridge.Json.ofEntries_of_nodup` – entries that are put into an object one after the other are
  the fields of the object where no two share a key;
* `LintBridge.Json.nodup_ofEntries`, `LintBridge.Json.mem_keys_ofEntries` – **no two fields of an
  object that is put together share a key**, whatever the entries, and there is one for every key of
  an entry.
-/

namespace LintBridge.Json

variable {α : Type}

theorem get?_cons (k : CodePoints) (v : α) (rest : List (CodePoints × α)) (key : String) :
    get? ((k, v) :: rest) key = if k = CodePoints.ofString key then some v else get? rest key := by
  unfold get?
  by_cases h : k = CodePoints.ofString key
  · simp [h]
  · simp [h]

theorem get?_eq_none {entries : List (CodePoints × α)} {key : String}
    (h : CodePoints.ofString key ∉ entries.map Prod.fst) : get? entries key = none := by
  induction entries with
  | nil => rfl
  | cons entry rest ih =>
    obtain ⟨k, v⟩ := entry
    rw [List.map_cons, List.mem_cons, not_or] at h
    rw [get?_cons, if_neg (Ne.symm h.1), ih h.2]

theorem get?_ofFields (fields : List (String × α)) (key : String) :
    get? (fields.map fun (k, v) => (CodePoints.ofString k, v)) key = fields.lookup key := by
  induction fields with
  | nil => rfl
  | cons field rest ih =>
    obtain ⟨k, v⟩ := field
    rw [List.map_cons, get?_cons, List.lookup_cons, ih]
    by_cases hk : key = k
    · subst hk
      simp
    · have hkeys : CodePoints.ofString k ≠ CodePoints.ofString key := fun h =>
        hk (CodePoints.ofString_injective h).symm
      rw [if_neg hkeys, beq_eq_false_iff_ne.mpr hk]

theorem getD_ofFields (fields : List (String × Value)) (key : String) :
    getD (fields.map fun (k, v) => (CodePoints.ofString k, v)) key =
      (fields.lookup key).getD .null := by
  unfold getD
  rw [get?_ofFields]

/-- **The order of the fields of an object does not matter to a look-up**, as long as no two of them
share a key. -/
theorem get?_perm {f g : List (CodePoints × α)} (h : f.Perm g) (hnodup : (f.map (·.1)).Nodup)
    (key : String) : get? f key = get? g key := by
  induction h with
  | nil => rfl
  | cons field _ ih =>
    obtain ⟨k, v⟩ := field
    rw [get?_cons, get?_cons, ih (List.nodup_cons.mp hnodup).2]
  | swap field field' rest =>
    obtain ⟨k, v⟩ := field
    obtain ⟨k', v'⟩ := field'
    have hne : k' ≠ k := fun heq => (List.nodup_cons.mp hnodup).1 (heq ▸ List.mem_cons_self)
    rw [get?_cons, get?_cons, get?_cons, get?_cons]
    by_cases hk : k = CodePoints.ofString key
    · have hk' : k' ≠ CodePoints.ofString key := fun h => hne (h.trans hk.symm)
      rw [if_pos hk, if_pos hk, if_neg hk']
    · rw [if_neg hk, if_neg hk]
  | trans hfirst _ ih ih' =>
    exact (ih hnodup).trans (ih' ((hfirst.map _).nodup_iff.mp hnodup))

/-! ### Entries put one after the other -/

/-- An entry with a new key is put after the others. -/
theorem insert_of_not_mem {entries : List (CodePoints × α)} {k : CodePoints} (v : α)
    (hk : k ∉ entries.map Prod.fst) : insert entries k v = entries ++ [(k, v)] := by
  induction entries with
  | nil => rfl
  | cons entry rest ih =>
    obtain ⟨k', v'⟩ := entry
    rw [List.map_cons, List.mem_cons, not_or] at hk
    rw [insert, if_neg (by simpa using Ne.symm hk.1), ih hk.2, List.cons_append]

theorem forall_insert {P : α → Prop} {entries : List (CodePoints × α)} {k : CodePoints} {v : α}
    (h : ∀ e ∈ entries, P e.2) (hv : P v) : ∀ e ∈ insert entries k v, P e.2 := by
  induction entries with
  | nil => exact List.forall_mem_singleton.mpr hv
  | cons entry rest ih =>
    obtain ⟨hentry, hrest⟩ := List.forall_mem_cons.mp h
    rw [insert]
    split
    · exact List.forall_mem_cons.mpr ⟨hv, hrest⟩
    · exact List.forall_mem_cons.mpr ⟨hentry, ih hrest⟩

/-- What is put into an object is what is looked up there, and the rest is as before. -/
theorem get?_insert (entries : List (CodePoints × α)) (k : CodePoints) (v : α) (key : String) :
    get? (insert entries k v) key =
      if k = CodePoints.ofString key then some v else get? entries key := by
  induction entries with
  | nil => rw [insert, get?_cons]
  | cons entry rest ih =>
    obtain ⟨k', v'⟩ := entry
    by_cases hk : k' = k
    · subst hk
      rw [insert, if_pos (beq_self_eq_true k'), get?_cons, get?_cons]
      split <;> rfl
    · rw [insert, if_neg (by simpa using hk), get?_cons, ih, get?_cons]
      by_cases hkey : k' = CodePoints.ofString key
      · rw [if_pos hkey, if_pos hkey, if_neg fun h => hk (hkey.trans h.symm)]
      · rw [if_neg hkey, if_neg hkey]

/-- An entry has its key among the others, or after them. -/
theorem keys_insert (entries : List (CodePoints × α)) (k : CodePoints) (v : α) :
    (insert entries k v).map Prod.fst =
      if k ∈ entries.map Prod.fst then entries.map Prod.fst else entries.map Prod.fst ++ [k] := by
  split
  · rename_i hmem
    induction entries with
    | nil => nomatch hmem
    | cons entry rest ih =>
      obtain ⟨k', v'⟩ := entry
      by_cases hk : k' = k
      · rw [insert, if_pos (by simpa using hk), List.map_cons, List.map_cons]
      · have hrest : k ∈ rest.map Prod.fst := (List.mem_cons.mp hmem).resolve_left (Ne.symm hk)
        rw [insert, if_neg (by simpa using hk), List.map_cons, List.map_cons, ih hrest]
  · rename_i hnot
    rw [insert_of_not_mem v hnot, List.map_append, List.map_singleton]

theorem ofEntries_append_singleton (entries : List (CodePoints × α)) (k : CodePoints) (v : α) :
    ofEntries (entries ++ [(k, v)]) = insert (ofEntries entries) k v := by
  unfold ofEntries
  rw [List.foldl_append]
  rfl

/-- **No two fields of an object that is put together share a key.** -/
theorem nodup_ofEntries (entries : List (CodePoints × α)) :
    ((ofEntries entries).map Prod.fst).Nodup := by
  induction entries using List.reverseRecOn with
  | nil => exact List.nodup_nil
  | append_singleton entries entry ih =>
    obtain ⟨k, v⟩ := entry
    rw [ofEntries_append_singleton, keys_insert]
    split
    · exact ih
    · rename_i hnot
      exact List.nodup_append.mpr ⟨ih, List.nodup_singleton k,
        fun k' hk' _ hk => ne_of_mem_of_not_mem hk' (List.mem_singleton.mp hk ▸ hnot)⟩

/-- The keys of an object that is put together are those of the entries. -/
theorem mem_keys_ofEntries {entries : List (CodePoints × α)} {k : CodePoints} :
    k ∈ (ofEntries entries).map Prod.fst ↔ k ∈ entries.map Prod.fst := by
  induction entries using List.reverseRecOn with
  | nil => rfl
  | append_singleton entries entry ih =>
    obtain ⟨k', v⟩ := entry
    rw [ofEntries_append_singleton, keys_insert, List.map_append, List.mem_append, ← ih,
      List.map_singleton, List.mem_singleton]
    split
    · rename_i hmem
      exact ⟨.inl, fun h => h.elim id fun h => h ▸ hmem⟩
    · rw [List.mem_append, List.mem_singleton]

/-- Entries with different keys make the object that they are the entries of. -/
theorem ofEntries_of_nodup {entries : List (CodePoints × α)} (h : (entries.map Prod.fst).Nodup) :
    ofEntries entries = entries := by
  induction entries using List.reverseRecOn with
  | nil => rfl
  | append_singleton entries entry ih =>
    obtain ⟨k, v⟩ := entry
    rw [List.map_append, List.nodup_append] at h
    obtain ⟨hentries, -, hdisjoint⟩ := h
    have hk : k ∉ entries.map Prod.fst := fun hmem => hdisjoint k hmem k List.mem_cons_self rfl
    rw [ofEntries_append_singleton, ih hentries, insert_of_not_mem v hk]

/-- Nothing gets into an object that is not in one of the entries. -/
theorem forall_ofEntries {P : α → Prop} {entries : List (CodePoints × α)}
    (h : ∀ e ∈ entries, P e.2) : ∀ e ∈ ofEntries entries, P e.2 := by
  induction entries using List.reverseRecOn with
  | nil => nofun
  | append_singleton entries entry ih =>
    obtain ⟨hentries, hentry⟩ := List.forall_mem_append.mp h
    rw [ofEntries_append_singleton]
    exact forall_insert (ih hentries) (hentry entry List.mem_cons_self)

end LintBridge.Json
