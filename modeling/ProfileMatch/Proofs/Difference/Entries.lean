import Mathlib.Tactic.Common
import ProfileMatch.Difference.Between
/-!
Differences are described by their lookups.

* `get?_insert`, `get?_erase`, `get?_removeSetting`: what each operation does to a lookup; it
  changes no other key;
* `mem_entries_iff`, `mem_keys_iff`: the entries and keys listed are those that lookups find;
* `Tidy.insert`, `Tidy.erase`, `Tidy.removeSetting`: no operation leaves a setting without
  properties behind;
* `Tidy.isEmpty_iff`: so a difference is empty exactly if no key differs;
* `Tidy.ext`: and it is determined by its lookups;
* `tidy_between`: the difference of two profiles is tidy.
-/

namespace ProfileMatch

/-! ### Empty tables -/

namespace Table

variable {α : Type}

/-- A table is empty exactly if no lookup finds anything. -/
lemma isEmpty_iff_get? {t : Table α} : t.isEmpty = true ↔ ∀ name, t.get? name = none := by
  rw [isEmpty, List.isEmpty_iff]
  constructor
  · intro h name
    rw [get?, h]
    rfl
  · intro h
    cases he : t.entries with
    | nil => rfl
    | cons e es =>
        have hmem : (e.1, e.2) ∈ t.entries := by rw [he]; exact List.mem_cons_self
        have hget := get?_eq_some_iff.mpr hmem
        rw [h] at hget
        exact absurd hget (by simp)

/-- A table is not empty exactly if some lookup finds something. -/
lemma isEmpty_eq_false_iff_get? {t : Table α} :
    t.isEmpty = false ↔ ∃ name value, t.get? name = some value := by
  rw [← Bool.not_eq_true, isEmpty_iff_get?]
  constructor
  · intro h
    obtain ⟨name, hname⟩ := not_forall.mp h
    exact ⟨name, Option.ne_none_iff_exists'.mp hname⟩
  · rintro ⟨name, value, hget⟩ h
    rw [h name] at hget
    exact absurd hget (by simp)

/-- A name that is not listed has no value. -/
lemma get?_eq_none_of_notMem_names {t : Table α} {name : String} (h : name ∉ t.names) :
    t.get? name = none := by
  cases hget : t.get? name with
  | none => rfl
  | some value => exact absurd (List.mem_map_of_mem (get?_eq_some_iff.mp hget)) h

/-- Mapping the values leaves no fewer and no more of them. -/
lemma isEmpty_mapValues {β : Type} (f : α → β) (t : Table α) :
    (t.mapValues f).isEmpty = t.isEmpty :=
  List.isEmpty_map

/-- An insertion leaves an entry behind. -/
lemma isEmpty_insert (t : Table α) (name : String) (value : α) :
    (t.insert name value).isEmpty = false :=
  isEmpty_eq_false_iff_get?.mpr ⟨name, value, by rw [get?_insert, if_pos rfl]⟩

end Table

namespace Difference

variable {d : Difference} {k k' : Key} {setting : String}

/-! ### Lookups -/

@[simp] lemma get?_empty (k : Key) : empty.get? k = none := rfl

lemma contains_iff : d.contains k = true ↔ ∃ c, d.get? k = some c := by
  rw [contains, Option.isSome_iff_exists]

lemma contains_eq_false_iff : d.contains k = false ↔ d.get? k = none := by
  rw [contains, Option.isSome_eq_false_iff, Option.isNone_iff_eq_none]

/-- The entries listed are those that lookups find. -/
lemma mem_entries_iff {c : Change} : (k, c) ∈ d.entries ↔ d.get? k = some c := by
  rw [entries, List.mem_flatMap, get?, Option.bind_eq_some_iff]
  constructor
  · rintro ⟨s, hs, hentry⟩
    obtain ⟨e, he, heq⟩ := List.mem_map.mp hentry
    cases heq
    exact ⟨s.2, Table.get?_eq_some_iff.mpr hs, Table.get?_eq_some_iff.mpr he⟩
  · rintro ⟨props, hprops, hc⟩
    exact ⟨(k.setting, props), Table.get?_eq_some_iff.mp hprops,
      List.mem_map.mpr ⟨(k.property, c), Table.get?_eq_some_iff.mp hc, rfl⟩⟩

/-- The keys listed are those that differ. -/
lemma mem_keys_iff : k ∈ d.keys ↔ d.contains k = true := by
  rw [contains_iff, keys, List.mem_map]
  constructor
  · rintro ⟨⟨k', c⟩, hentry, rfl⟩
    exact ⟨c, mem_entries_iff.mp hentry⟩
  · rintro ⟨c, hc⟩
    exact ⟨(k, c), mem_entries_iff.mpr hc, rfl⟩

/-- A lookup after an insertion finds the new entry under its key and all else as before. -/
lemma get?_insert (d : Difference) (k k' : Key) (c : Change) :
    (d.insert k c).get? k' = if k' = k then some c else d.get? k' := by
  obtain ⟨s, p⟩ := k
  obtain ⟨s', p'⟩ := k'
  simp only [get?, insert, Table.get?_insert, Key.mk.injEq]
  by_cases hs : s' = s
  · subst hs
    rw [if_pos rfl, Option.bind_some, Table.get?_insert]
    by_cases hp : p' = p
    · rw [if_pos hp, if_pos ⟨rfl, hp⟩]
    · rw [if_neg hp, if_neg fun h => hp h.2]
      cases d.settings.get? s' <;> rfl
  · rw [if_neg hs, if_neg fun h => hs h.1]

/-- The removal of a key concerns its own setting alone. -/
lemma settings_erase_of_ne (d : Difference) (k : Key) (h : setting ≠ k.setting) :
    (d.erase k).settings.get? setting = d.settings.get? setting := by
  rw [erase, remove]
  cases d.settings.get? k.setting with
  | none => rfl
  | some props =>
      dsimp only
      split
      · rw [Table.get?_erase, if_neg h]
      · rw [Table.get?_insert, if_neg h]

/-- Of its own setting, the removal of a key leaves what is left of the properties, if any. -/
lemma settings_erase_self (d : Difference) (k : Key) :
    (d.erase k).settings.get? k.setting =
      (d.settings.get? k.setting).bind fun props =>
        if (props.erase k.property).isEmpty then none else some (props.erase k.property) := by
  rw [erase, remove]
  cases hprops : d.settings.get? k.setting with
  | none => exact hprops
  | some props =>
      dsimp only [Option.bind_some]
      split
      · rw [Table.get?_erase, if_pos rfl]
      · rw [Table.get?_insert, if_pos rfl]

/-- A lookup after a removal finds nothing under that key and all else as before. -/
lemma get?_erase (d : Difference) (k k' : Key) :
    (d.erase k).get? k' = if k' = k then none else d.get? k' := by
  obtain ⟨s, p⟩ := k
  obtain ⟨s', p'⟩ := k'
  by_cases hs : s' = s
  · subst hs
    rw [get?, get?, settings_erase_self]
    cases d.settings.get? s' with
    | none => simp
    | some props =>
        have hrest : ((if (props.erase p).isEmpty then none else some (props.erase p)).bind
            fun props => props.get? p') = (props.erase p).get? p' := by
          split
          · next h => rw [Table.isEmpty_iff_get?.mp h, Option.bind_none]
          · rfl
        rw [Option.bind_some, Option.bind_some, hrest, Table.get?_erase]
        by_cases hp : p' = p
        · rw [if_pos hp, if_pos (by rw [hp])]
        · rw [if_neg hp, if_neg fun h => hp (Key.mk.inj h).2]
  · rw [get?, settings_erase_of_ne d ⟨s, p⟩ hs, if_neg fun h => hs (Key.mk.inj h).1]
    rfl

/-- A lookup after the removal of a setting finds no key of it and all else as before. -/
lemma get?_removeSetting (d : Difference) (setting : String) (k : Key) :
    (d.removeSetting setting).2.get? k = if k.setting = setting then none else d.get? k := by
  simp only [get?, removeSetting, Table.get?_erase]
  by_cases hs : k.setting = setting
  · rw [if_pos hs, if_pos hs, Option.bind_none]
  · rw [if_neg hs, if_neg hs]

/-- An empty difference holds no setting, so that there is one of them alone. -/
lemma eq_empty_of_isEmpty (h : d.isEmpty = true) : d = empty := by
  rw [isEmpty, Table.isEmpty_iff_get?] at h
  have hsettings : d.settings = .empty := Table.ext_get? h
  cases d
  exact congrArg mk hsettings

/-! ### No setting without properties -/

/-- Tidiness, read off the lookups of the table of settings. -/
lemma tidy_iff :
    d.Tidy ↔ ∀ setting props, d.settings.get? setting = some props → props.isEmpty = false := by
  constructor
  · intro h setting props hget
    exact h (setting, props) (Table.get?_eq_some_iff.mp hget)
  · intro h s hs
    exact h s.1 s.2 (Table.get?_eq_some_iff.mpr hs)

lemma tidy_empty : empty.Tidy := by
  intro s hs
  exact absurd hs (by simp [empty, Table.empty])

lemma Tidy.insert (h : d.Tidy) (k : Key) (c : Change) : (d.insert k c).Tidy := by
  rw [tidy_iff] at h ⊢
  intro setting props hget
  rw [Difference.insert, Table.get?_insert] at hget
  split at hget
  · cases hget
    exact Table.isEmpty_insert _ _ _
  · exact h setting props hget

lemma Tidy.erase (h : d.Tidy) (k : Key) : (d.erase k).Tidy := by
  rw [tidy_iff] at h ⊢
  intro setting props hget
  by_cases hs : setting = k.setting
  · rw [hs, settings_erase_self] at hget
    obtain ⟨props', -, hrest⟩ := Option.bind_eq_some_iff.mp hget
    split at hrest
    · exact absurd hrest (by simp)
    · next hne =>
      cases hrest
      exact Bool.eq_false_iff.mpr hne
  · rw [settings_erase_of_ne d k hs] at hget
    exact h setting props hget

lemma Tidy.removeSetting (h : d.Tidy) (setting : String) : (d.removeSetting setting).2.Tidy := by
  rw [tidy_iff] at h ⊢
  intro setting' props hget
  rw [Difference.removeSetting, Table.get?_erase] at hget
  split at hget
  · exact absurd hget (by simp)
  · exact h setting' props hget

/-- A tidy difference holds a setting exactly if some property of it differs. -/
lemma Tidy.containsSetting_iff (h : d.Tidy) :
    d.containsSetting setting = true ↔ ∃ property, d.contains ⟨setting, property⟩ = true := by
  rw [containsSetting, Table.contains, Option.isSome_iff_exists]
  constructor
  · rintro ⟨props, hprops⟩
    obtain ⟨property, c, hget⟩ := Table.isEmpty_eq_false_iff_get?.mp (tidy_iff.mp h _ _ hprops)
    exact ⟨property, contains_iff.mpr ⟨c, by rw [get?, hprops]; exact hget⟩⟩
  · rintro ⟨property, hcontains⟩
    obtain ⟨c, hget⟩ := contains_iff.mp hcontains
    obtain ⟨props, hprops, -⟩ := Option.bind_eq_some_iff.mp hget
    exact ⟨props, hprops⟩

/-- **Emptiness**: a tidy difference is empty exactly if no key differs. -/
lemma Tidy.isEmpty_iff (h : d.Tidy) : d.isEmpty = true ↔ ∀ k, d.contains k = false := by
  rw [isEmpty, Table.isEmpty_iff_get?]
  constructor
  · intro hempty k
    rw [contains_eq_false_iff, get?, hempty, Option.bind_none]
  · intro hnone setting
    cases hprops : d.settings.get? setting with
    | none => rfl
    | some props =>
        have hin : d.containsSetting setting = true := by
          rw [containsSetting, Table.contains, hprops]
          rfl
        obtain ⟨property, hcontains⟩ := h.containsSetting_iff.mp hin
        rw [hnone] at hcontains
        exact absurd hcontains (by simp)

/-- Of two tidy differences with the same lookups, one holds the settings that the other does. -/
lemma Tidy.settings_get?_of_get? {d' : Difference} (h : d.Tidy) (hget : ∀ k, d.get? k = d'.get? k)
    {props : Table Change} (hprops : d.settings.get? setting = some props) :
    d'.settings.get? setting = some props := by
  have hsame : ∀ property, d'.get? ⟨setting, property⟩ = props.get? property := by
    intro property
    rw [← hget, get?, hprops, Option.bind_some]
  obtain ⟨property, c, hc⟩ := Table.isEmpty_eq_false_iff_get?.mp (tidy_iff.mp h _ _ hprops)
  -- the setting is there on the other side, for the sake of a property that it has
  have hin : d'.get? ⟨setting, property⟩ = some c := (hsame property).trans hc
  obtain ⟨props', hprops', -⟩ := Option.bind_eq_some_iff.mp hin
  have heq : props' = props := by
    refine Table.ext_get? fun property => ?_
    rw [← hsame, get?, hprops', Option.bind_some]
  rw [hprops', heq]

/-- **Extensionality**: a tidy difference is determined by its lookups. -/
lemma Tidy.ext {d' : Difference} (h : d.Tidy) (h' : d'.Tidy) (hget : ∀ k, d.get? k = d'.get? k) :
    d = d' := by
  have hsettings : d.settings = d'.settings := by
    refine Table.ext_get? fun setting => ?_
    cases hprops : d.settings.get? setting with
    | some props => exact (h.settings_get?_of_get? hget hprops).symm
    | none =>
        cases hprops' : d'.settings.get? setting with
        | none => rfl
        | some props' =>
            have hsome := h'.settings_get?_of_get? (fun k => (hget k).symm) hprops'
            exact hprops.symm.trans hsome
  cases d
  exact congrArg mk hsettings

/-- The difference of two profiles holds no setting without properties. -/
lemma tidy_between (generated candidate : Profile) : (between generated candidate).Tidy := by
  have key : ∀ (ks : List Key) (d : Difference), d.Tidy →
      (ks.foldl (compareKey generated candidate) d).Tidy := by
    intro ks
    induction ks with
    | nil => exact fun d h => h
    | cons k ks ih =>
        intro d h
        rw [List.foldl_cons]
        refine ih _ ?_
        simp only [compareKey]
        split
        · exact h
        · exact h.insert k _
  exact key _ _ tidy_empty

end Difference

end ProfileMatch
