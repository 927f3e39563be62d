/-!
Tables from names to values, kept in the order of their names.

* `Table.get?_insert`, `Table.get?_erase`: what each operation does to a lookup;
* `Table.get?_mapValues`: a map over the values leaves the names alone;
* `Table.ext_get?`: two tables with the same lookups are the same table, so that equality of
  tables is equality of what they hold.
-/

namespace ProfileMatch

/-- A finite map from names to values, listed by increasing name. -/
structure Table (α : Type) where
  entries : List (String × α)
  sorted : entries.Pairwise (fun a b => a.1 < b.1) := by simp
deriving DecidableEq

namespace Table

variable {α β : Type}

/-- Of two names, one is the smaller or they are the same. -/
theorem lt_or_eq_or_lt (a b : String) : a < b ∨ a = b ∨ b < a := by
  by_cases h : a < b
  · exact .inl h
  · by_cases h' : b < a
    · exact .inr (.inr h')
    · exact .inr (.inl (String.le_antisymm (String.not_lt.1 h') (String.not_lt.1 h)))

/-- The table that holds nothing. -/
def empty : Table α := ⟨[], .nil⟩

instance : EmptyCollection (Table α) := ⟨empty⟩

instance : Inhabited (Table α) := ⟨empty⟩

/-- The value under a name, if there is one. -/
def get? (t : Table α) (name : String) : Option α :=
  t.entries.lookup name

/-- Whether a name has a value. -/
def contains (t : Table α) (name : String) : Bool :=
  (t.get? name).isSome

/-- Whether the table holds nothing. -/
def isEmpty (t : Table α) : Bool :=
  t.entries.isEmpty

/-- The number of names. -/
def size (t : Table α) : Nat :=
  t.entries.length

/-- The names in increasing order. -/
def names (t : Table α) : List String :=
  t.entries.map Prod.fst

/-- Puts an entry at its place in a list ordered by name; an entry of the same name gives way. -/
def insertEntry (name : String) (value : α) : List (String × α) → List (String × α)
  | [] => [(name, value)]
  | e :: es =>
    if name < e.1 then (name, value) :: e :: es
    else if name = e.1 then (name, value) :: es
    else e :: insertEntry name value es

/-- An entry of the longer list is the new one or was there before. -/
theorem mem_insertEntry {name : String} {value : α} {x : String × α} {es : List (String × α)}
    (h : x ∈ insertEntry name value es) : x = (name, value) ∨ x ∈ es := by
  induction es with
  | nil => simpa [insertEntry] using h
  | cons e es ih =>
    rw [insertEntry] at h
    split at h
    · simpa using h
    · split at h
      · rcases List.mem_cons.1 h with h | h
        · exact .inl h
        · exact .inr (List.mem_cons_of_mem _ h)
      · rcases List.mem_cons.1 h with h | h
        · exact .inr (h ▸ List.mem_cons_self)
        · exact (ih h).imp id (List.mem_cons_of_mem _)

/-- The order of names survives an insertion. -/
theorem pairwise_insertEntry (name : String) (value : α) {es : List (String × α)}
    (h : es.Pairwise (fun a b => a.1 < b.1)) :
    (insertEntry name value es).Pairwise (fun a b => a.1 < b.1) := by
  induction es with
  | nil => simp [insertEntry]
  | cons e es ih =>
    obtain ⟨he, hes⟩ := List.pairwise_cons.1 h
    rw [insertEntry]
    split
    · next hlt =>
      refine List.pairwise_cons.2 ⟨fun x hx => ?_, h⟩
      rcases List.mem_cons.1 hx with rfl | hx
      · exact hlt
      · exact String.lt_trans hlt (he x hx)
    · next hlt =>
      split
      · next heq => exact List.pairwise_cons.2 ⟨fun x hx => heq ▸ he x hx, hes⟩
      · next heq =>
        refine List.pairwise_cons.2 ⟨fun x hx => ?_, ih hes⟩
        rcases mem_insertEntry hx with rfl | hx
        · rcases lt_or_eq_or_lt name e.1 with h | h | h
          · exact absurd h hlt
          · exact absurd h heq
          · exact h
        · exact he x hx

/-- The table with a value under a name, in place of any value it had there. -/
def insert (t : Table α) (name : String) (value : α) : Table α :=
  ⟨insertEntry name value t.entries, pairwise_insertEntry name value t.sorted⟩

/-- The table without a name. -/
def erase (t : Table α) (name : String) : Table α :=
  ⟨t.entries.filter (fun e => e.1 != name), t.sorted.filter _⟩

/-- The table with the same names and every value replaced by its image. -/
def mapValues (f : α → β) (t : Table α) : Table β :=
  ⟨t.entries.map (fun e => (e.1, f e.2)), by
    have h := t.sorted
    rw [List.pairwise_map]
    exact h⟩

/-- The table of a list of entries; of two entries with one name the later counts. -/
def ofList (es : List (String × α)) : Table α :=
  es.foldl (fun t e => t.insert e.1 e.2) empty

/-! ### Lookups -/

@[simp]
theorem get?_empty (name : String) : (empty : Table α).get? name = none := rfl

/-- The first entry answers for its own name, the rest of the list for any other. -/
theorem lookup_cons (name : String) (e : String × α) (es : List (String × α)) :
    (e :: es).lookup name = if name = e.1 then some e.2 else es.lookup name := by
  rw [List.lookup_cons]
  by_cases h : name = e.1
  · rw [if_pos h, beq_iff_eq.2 h]
  · rw [if_neg h, beq_false_of_ne h]

theorem lookup_insertEntry (name name' : String) (value : α) (es : List (String × α)) :
    (insertEntry name value es).lookup name'
      = if name' = name then some value else es.lookup name' := by
  induction es with
  | nil => rw [insertEntry, lookup_cons]
  | cons e es ih =>
    rw [insertEntry]
    split
    · rw [lookup_cons]
    · split
      · next heq =>
        rw [lookup_cons, lookup_cons, ← heq]
        by_cases h : name' = name <;> simp [h]
      · next heq =>
        rw [lookup_cons, lookup_cons, ih]
        by_cases h : name' = e.1
        · rw [if_pos h, if_pos h, if_neg (fun h' => heq (h'.symm.trans h))]
        · rw [if_neg h, if_neg h]

/-- A lookup after an insertion finds the new value under its name and all else as before. -/
theorem get?_insert (t : Table α) (name name' : String) (value : α) :
    (t.insert name value).get? name' = if name' = name then some value else t.get? name' :=
  lookup_insertEntry name name' value t.entries

/-- A lookup after a removal finds nothing under that name and all else as before. -/
theorem get?_erase (t : Table α) (name name' : String) :
    (t.erase name).get? name' = if name' = name then none else t.get? name' := by
  obtain ⟨es, hs⟩ := t
  show (es.filter _).lookup name' = if _ then _ else es.lookup name'
  clear hs
  induction es with
  | nil => simp
  | cons e es ih =>
    by_cases he : e.1 = name
    · rw [List.filter_cons_of_neg (by simp [he]), ih, lookup_cons, he]
      by_cases h : name' = name <;> simp [h]
    · rw [List.filter_cons_of_pos (by simp [he]), lookup_cons, lookup_cons, ih]
      by_cases h : name' = e.1
      · rw [if_pos h, if_pos h, if_neg (fun h' => he (h.symm.trans h'))]
      · rw [if_neg h, if_neg h]

/-- Mapping the values maps what a lookup finds. -/
theorem get?_mapValues (f : α → β) (t : Table α) (name : String) :
    (t.mapValues f).get? name = (t.get? name).map f := by
  obtain ⟨es, hs⟩ := t
  show (es.map _).lookup name = (es.lookup name).map f
  clear hs
  induction es with
  | nil => rfl
  | cons e es ih =>
    rw [List.map_cons, lookup_cons, lookup_cons, ih]
    by_cases h : name = e.1 <;> simp [h]

/-- In a list ordered by name a lookup finds exactly the listed entries. -/
theorem lookup_eq_some_iff {es : List (String × α)} (h : es.Pairwise (fun a b => a.1 < b.1))
    {name : String} {value : α} : es.lookup name = some value ↔ (name, value) ∈ es := by
  induction es with
  | nil => simp
  | cons e es ih =>
    obtain ⟨he, hes⟩ := List.pairwise_cons.1 h
    rw [lookup_cons]
    by_cases hn : name = e.1
    · subst hn
      rw [if_pos rfl]
      constructor
      · rintro ⟨⟩
        exact List.mem_cons_self
      · intro hm
        rcases List.mem_cons.1 hm with hm | hm
        · rw [← hm]
        · exact absurd (he _ hm) (String.lt_irrefl _)
    · rw [if_neg hn]
      refine (ih hes).trans ⟨List.mem_cons_of_mem _, fun hm => ?_⟩
      rcases List.mem_cons.1 hm with hm | hm
      · exact absurd (congrArg Prod.fst hm) hn
      · exact hm

/-- A lookup in a table finds exactly its entries. -/
theorem get?_eq_some_iff {t : Table α} {name : String} {value : α} :
    t.get? name = some value ↔ (name, value) ∈ t.entries :=
  lookup_eq_some_iff t.sorted

/-- Two lists in the order of their names that hold the same entries are the same list. -/
theorem eq_of_mem_iff : ∀ {es es' : List (String × α)},
    es.Pairwise (fun a b => a.1 < b.1) → es'.Pairwise (fun a b => a.1 < b.1) →
    (∀ x, x ∈ es ↔ x ∈ es') → es = es'
  | [], [], _, _, _ => rfl
  | [], e' :: _, _, _, h => absurd ((h e').2 List.mem_cons_self) (by simp)
  | e :: _, [], _, _, h => absurd ((h e).1 List.mem_cons_self) (by simp)
  | e :: es, e' :: es', hs, hs', h => by
    obtain ⟨he, hes⟩ := List.pairwise_cons.1 hs
    obtain ⟨he', hes'⟩ := List.pairwise_cons.1 hs'
    have hee : e = e' := by
      rcases List.mem_cons.1 ((h e).1 List.mem_cons_self) with h1 | h1
      · exact h1
      · rcases List.mem_cons.1 ((h e').2 List.mem_cons_self) with h2 | h2
        · exact h2.symm
        · exact absurd (String.lt_trans (he _ h2) (he' _ h1)) (String.lt_irrefl _)
    subst hee
    have hne : ∀ {l : List (String × α)}, (∀ x ∈ l, e.1 < x.1) → e ∉ l :=
      fun hl hm => String.lt_irrefl _ (hl e hm)
    refine congrArg (e :: ·) (eq_of_mem_iff hes hes' fun x => ⟨fun hx => ?_, fun hx => ?_⟩)
    · rcases List.mem_cons.1 ((h x).1 (List.mem_cons_of_mem _ hx)) with rfl | hx'
      · exact absurd hx (hne he)
      · exact hx'
    · rcases List.mem_cons.1 ((h x).2 (List.mem_cons_of_mem _ hx)) with rfl | hx'
      · exact absurd hx (hne he')
      · exact hx'

/-- A table is determined by its lookups. -/
theorem ext_get? {t t' : Table α} (h : ∀ name, t.get? name = t'.get? name) : t = t' := by
  have he : t.entries = t'.entries :=
    eq_of_mem_iff t.sorted t'.sorted fun x => by
      rw [show x = (x.1, x.2) from rfl, ← get?_eq_some_iff, ← get?_eq_some_iff, h]
  cases t
  cases t'
  cases he
  rfl

end Table

end ProfileMatch
