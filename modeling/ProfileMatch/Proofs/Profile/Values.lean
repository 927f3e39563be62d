import Mathlib.Tactic.Common
import ProfileMatch.Profile.Basic
/-!
What the schema says of a key, and what a profile holds under it.

* `Property.of?_eq_some_iff`: the schema lists no setting and no property of a setting twice, so
  that a search in it finds what it lists;
* `Key.Inferrable`: the keys of the properties that take part in comparisons;
* `Profile.get?_set`, `Profile.get?_addSetting`: what each operation does to a lookup;
* `Profile.effective?_set`: and to the values in which the defaults are filled in.
-/

namespace ProfileMatch

/-! ### The schema -/

/-- Where no two items have a name in common, the search for a name finds the item of that name. -/
lemma find?_eq_some_iff_of_nodup {α : Type} {name : α → String} {xs : List α}
    (h : (xs.map name).Nodup) {x : α} {n : String} :
    xs.find? (fun y => name y == n) = some x ↔ x ∈ xs ∧ name x = n := by
  constructor
  · intro hfind
    have hname := List.find?_some hfind
    exact ⟨List.mem_of_find?_eq_some hfind, beq_iff_eq.mp hname⟩
  · rintro ⟨hx, rfl⟩
    induction xs with
    | nil => exact absurd hx List.not_mem_nil
    | cons y ys ih =>
        rw [List.map_cons, List.nodup_cons] at h
        rcases List.mem_cons.mp hx with rfl | hx
        · rw [List.find?_cons, beq_self_eq_true]
        · have hne : name y ≠ name x := fun heq => h.1 (heq ▸ List.mem_map_of_mem hx)
          rw [List.find?_cons, beq_false_of_ne hne]
          exact ih h.2 hx

lemma nodup_names_schema : (schema.map SettingSchema.name).Nodup := by decide

lemma nodup_names_properties : ∀ s ∈ schema, (s.properties.map Property.name).Nodup := by decide

lemma SettingSchema.of?_eq_some_iff {setting : String} {s : SettingSchema} :
    SettingSchema.of? setting = some s ↔ s ∈ schema ∧ s.name = setting :=
  find?_eq_some_iff_of_nodup nodup_names_schema

/-- The schema knows a key exactly if it lists a property under it. -/
lemma Property.of?_eq_some_iff {k : Key} {p : Property} :
    Property.of? k = some p ↔
      ∃ s ∈ schema, s.name = k.setting ∧ p ∈ s.properties ∧ p.name = k.property := by
  rw [Property.of?, Option.bind_eq_some_iff]
  constructor
  · rintro ⟨s, hs, hp⟩
    obtain ⟨hmem, hname⟩ := SettingSchema.of?_eq_some_iff.mp hs
    exact ⟨s, hmem, hname, (find?_eq_some_iff_of_nodup (nodup_names_properties s hmem)).mp hp⟩
  · rintro ⟨s, hmem, hname, hp⟩
    exact ⟨s, SettingSchema.of?_eq_some_iff.mpr ⟨hmem, hname⟩,
      (find?_eq_some_iff_of_nodup (nodup_names_properties s hmem)).mpr hp⟩

/-- The schema lists a property under the key that takes part in comparisons. -/
def Key.Inferrable (k : Key) : Prop :=
  ∃ s ∈ schema, s.name = k.setting ∧ ∃ p ∈ s.properties, p.name = k.property ∧ p.inferrable = true

instance : DecidablePred Key.Inferrable := fun k =>
  inferInstanceAs (Decidable (∃ s ∈ schema, s.name = k.setting ∧
    ∃ p ∈ s.properties, p.name = k.property ∧ p.inferrable = true))

lemma Key.inferrable_of_of? {k : Key} {p : Property} (h : Property.of? k = some p)
    (hp : p.inferrable = true) : k.Inferrable := by
  obtain ⟨s, hs, hname, hmem, hproperty⟩ := Property.of?_eq_some_iff.mp h
  exact ⟨s, hs, hname, p, hmem, hproperty, hp⟩

/-! ### Stored and effective values -/

namespace Profile

variable {p q : Profile} {k k' : Key}

/-- Of a setting that is not there, nothing is stored. -/
lemma get?_of_settings_eq_none (h : p.settings.get? k.setting = none) : p.get? k = none := by
  rw [get?, h, Option.bind_none]

/-- The values of a setting, which has none if it is not there. -/
lemma get?_settingOrEmpty (p : Profile) (setting property : String) :
    (p.settingOrEmpty setting).get? property = p.get? ⟨setting, property⟩ := by
  rw [settingOrEmpty, get?]
  cases p.settings.get? setting <;> rfl

/-- A lookup after a value was set finds it under its key and all else as before. -/
lemma get?_set (p : Profile) (k k' : Key) (v : Value) :
    (p.set k v).get? k' = if k' = k then some v else p.get? k' := by
  obtain ⟨s, n⟩ := k
  obtain ⟨s', n'⟩ := k'
  rw [get?, set, Table.get?_insert]
  simp only [Key.mk.injEq]
  by_cases hs : s' = s
  · subst hs
    rw [if_pos rfl, Option.bind_some, Table.get?_insert, get?_settingOrEmpty]
    simp only [true_and]
  · rw [if_neg hs, if_neg fun h => hs h.1]
    rfl

/-- The presence of a setting stores nothing. -/
lemma get?_addSetting (p : Profile) (setting : String) (k : Key) :
    (p.addSetting setting).get? k = p.get? k := by
  obtain ⟨s, n⟩ := k
  rw [get?, addSetting, Table.get?_insert]
  by_cases hs : s = setting
  · subst hs
    rw [if_pos rfl, Option.bind_some, get?_settingOrEmpty]
  · rw [if_neg hs]
    rfl

/-- Whether a family may stay without an address does not go by the presence of its setting: one
that is not there allows it, just as one that does not say. -/
lemma getD_ipMayFail? (p : Profile) (f : Family) :
    (p.ipMayFail? f).getD true = ((p.get? (.ipMayFail f)).bind Value.bool?).getD true := by
  simp only [ipMayFail?, get?, Key.ipMayFail]
  cases p.settings.get? f.name <;> rfl

/-- Where two profiles store the same, they have the same effective value. -/
lemma effective?_eq_of_get?_eq (h : p.get? k = q.get? k) : p.effective? k = q.effective? k := by
  rw [effective?, effective?, h]

/-- A value that is set is effective; all else is as before. -/
lemma effective?_set (p : Profile) (k k' : Key) (v : Value) :
    (p.set k v).effective? k' = if k' = k then some v else p.effective? k' := by
  rw [effective?, get?_set]
  by_cases hk : k' = k
  · rw [if_pos hk, if_pos hk, Option.some_or]
  · rw [if_neg hk, if_neg hk, effective?]

end Profile

end ProfileMatch
