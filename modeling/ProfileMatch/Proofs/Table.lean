import Mathlib.Data.List.Nodup
import Mathlib.Tactic.Common
import ProfileMatch.Table
/-!
Lists of entries with distinct names, and the tables that are put together from them.

* `Table.lookup_eq_some_iff_of_nodup`, `Table.lookup_eq_of_perm`: a lookup in such a list finds
  every entry, whatever the order;
* `Table.get?_ofList`: and so does the table of the list, which has what the list has;
* `Table.ofList_entries`, `Table.perm_entries_ofList`: a table is put together again from its
  entries, and lists those that it is put together from;
* `Table.get?_ofList_filterMap`: entries whose values can be read, as a table of what was read.
-/

namespace ProfileMatch.Table

variable {α β : Type} {name : String} {value : α} {es : List (String × α)}

/-- A table lists no name twice. -/
lemma nodup_names (t : Table α) : t.names.Nodup := by
  rw [names, List.Nodup, List.pairwise_map]
  refine t.sorted.imp fun {a b} hlt heq => ?_
  rw [heq] at hlt
  exact String.lt_irrefl _ hlt

/-! ### Lookups in lists -/

/-- A lookup finds an entry. -/
lemma mem_of_lookup (h : es.lookup name = some value) : (name, value) ∈ es := by
  induction es with
  | nil => cases h
  | cons e es ih =>
      rw [lookup_cons] at h
      split_ifs at h with hname
      · cases h
        exact hname ▸ List.mem_cons_self
      · exact List.mem_cons_of_mem e (ih h)

/-- A name that no entry has is not found. -/
lemma lookup_eq_none_of_notMem (h : name ∉ es.map Prod.fst) : es.lookup name = none := by
  cases hlookup : es.lookup name with
  | none => rfl
  | some value => exact absurd (List.mem_map_of_mem (mem_of_lookup hlookup)) h

/-- Under distinct names a lookup finds every entry. -/
lemma lookup_eq_some_iff_of_nodup (h : (es.map Prod.fst).Nodup) :
    es.lookup name = some value ↔ (name, value) ∈ es := by
  refine ⟨mem_of_lookup, fun hmem => ?_⟩
  induction es with
  | nil => exact absurd hmem List.not_mem_nil
  | cons e es ih =>
      obtain ⟨hfirst, hrest⟩ := List.nodup_cons.mp h
      rw [lookup_cons]
      rcases List.mem_cons.mp hmem with rfl | hmem
      · rw [if_pos rfl]
      · have hname : name ≠ e.1 := fun heq => hfirst (heq ▸ List.mem_map_of_mem hmem)
        rw [if_neg hname, ih hrest hmem]

/-- The order of entries of distinct names does not show in lookups. -/
lemma lookup_eq_of_perm {es' : List (String × α)} (hperm : es.Perm es')
    (h : (es'.map Prod.fst).Nodup) (name : String) : es.lookup name = es'.lookup name := by
  have h' : (es.map Prod.fst).Nodup := (hperm.map Prod.fst).nodup_iff.mpr h
  ext value
  rw [lookup_eq_some_iff_of_nodup h, lookup_eq_some_iff_of_nodup h', hperm.mem_iff]

/-- Of the entries whose values can be read, a lookup finds what is read of the entry of the name.
-/
lemma lookup_filterMap {read : α → Option β} (h : (es.map Prod.fst).Nodup) (name : String) :
    (es.filterMap fun e => (read e.2).map fun b => (e.1, b)).lookup name
      = (es.lookup name).bind read := by
  induction es with
  | nil => rfl
  | cons e es ih =>
      obtain ⟨hfirst, hrest⟩ := List.nodup_cons.mp h
      rw [List.filterMap_cons, lookup_cons]
      by_cases hname : name = e.1
      · subst hname
        have hlater : (es.lookup e.1).bind read = none := by
          rw [lookup_eq_none_of_notMem hfirst, Option.bind_none]
        rw [if_pos rfl, Option.bind_some]
        cases hread : read e.2 with
        | none => exact (ih hrest).trans hlater
        | some b => exact (lookup_cons _ _ _).trans (if_pos rfl)
      · rw [if_neg hname, ← ih hrest]
        cases hread : read e.2 with
        | none => rfl
        | some b => exact (lookup_cons _ _ _).trans (if_neg hname)

/-- Entries whose values can be read keep distinct names. -/
lemma nodup_map_fst_filterMap {read : α → Option β} (h : (es.map Prod.fst).Nodup) :
    ((es.filterMap fun e => (read e.2).map fun b => (e.1, b)).map Prod.fst).Nodup := by
  refine h.sublist ?_
  clear h
  induction es with
  | nil => exact .slnil
  | cons e es ih =>
      rw [List.filterMap_cons, List.map_cons]
      cases read e.2 with
      | none => exact ih.cons e.1
      | some b => exact ih.cons_cons e.1

/-! ### Tables of lists -/

/-- Entries of distinct names are all found among those that they were added to. -/
lemma get?_foldl_insert (h : (es.map Prod.fst).Nodup) (t : Table α) (name : String) :
    (es.foldl (fun t e => t.insert e.1 e.2) t).get? name = (es.lookup name).or (t.get? name) := by
  induction es generalizing t with
  | nil => rfl
  | cons e es ih =>
      obtain ⟨hfirst, hrest⟩ := List.nodup_cons.mp h
      rw [List.foldl_cons, ih hrest, get?_insert, lookup_cons]
      by_cases hname : name = e.1
      · rw [if_pos hname, if_pos hname, hname, lookup_eq_none_of_notMem hfirst]
        rfl
      · rw [if_neg hname, if_neg hname]

/-- **The table of a list** of entries with distinct names has what the list has. -/
lemma get?_ofList (h : (es.map Prod.fst).Nodup) (name : String) :
    (ofList es).get? name = es.lookup name := by
  rw [ofList, get?_foldl_insert h, get?_empty, Option.or_none]

/-- A table is put together again from its entries. -/
lemma ofList_entries (t : Table α) : ofList t.entries = t :=
  ext_get? fun name => get?_ofList t.nodup_names name

/-- The table of a list of entries with distinct names lists them in the order of their names. -/
lemma perm_entries_ofList (h : (es.map Prod.fst).Nodup) : (ofList es).entries.Perm es := by
  refine (List.perm_ext_iff_of_nodup (ofList es).nodup_names.of_map (h.of_map)).mpr fun e => ?_
  rw [← lookup_eq_some_iff_of_nodup h, ← get?_ofList h, get?_eq_some_iff]

/-- **Reading entries by names**: the table of the entries whose values can be read has under each
name what is read of the entry of that name. -/
lemma get?_ofList_filterMap {read : α → Option β} (h : (es.map Prod.fst).Nodup) (name : String) :
    (ofList (es.filterMap fun e => (read e.2).map fun b => (e.1, b))).get? name
      = (es.lookup name).bind read := by
  rw [get?_ofList (nodup_map_fst_filterMap h), lookup_filterMap h]

end ProfileMatch.Table
