import Mathlib.Tactic.Common
import ProfileMatch.Proofs.Json.Members
import ProfileMatch.Proofs.Profile.Stored
import ProfileMatch.Proofs.Profile.Values
/-!
Profiles that are read by the names of their settings and properties.

* `Json.DistinctNames`: no setting is named twice, and in no setting a property;
* `Profile.addProperty_eq_enter`, `Profile.foldlM_addMember`: settings and properties are read in
  turn as the members of any object are;
* `Profile.readSetting_settingOrNull`, `Profile.ofJson_property?`: so each setting and each property
  of a profile that was read is read off its own member;
* `Profile.hasSetting_of_ofJson`: and there are the settings that were written, and no others.
-/

namespace ProfileMatch

/-! ### Settings and properties in a JSON value -/

namespace Json

/-- The members of an object; a value of another kind has none. -/
def members : Json → List (String × Json)
  | object ms => ms
  | _ => []

lemma member?_eq_lookup_members (name : String) (v : Json) :
    v.member? name = v.members.lookup name := by
  cases v <;> rfl

/-- The value of a setting, null if it is not there. -/
def settingOrNull (v : Json) (setting : String) : Json :=
  (v.member? setting).getD .null

/-- No setting is named twice, and in no setting a property. -/
def DistinctNames (v : Json) : Prop :=
  (memberNames v.members).Nodup ∧ ∀ m ∈ v.members, (memberNames m.2.members).Nodup

instance : DecidablePred DistinctNames := fun v =>
  inferInstanceAs (Decidable ((memberNames v.members).Nodup
    ∧ ∀ m ∈ v.members, (memberNames m.2.members).Nodup))

lemma DistinctNames.settingOrNull {v : Json} (h : v.DistinctNames) (setting : String) :
    (memberNames (v.settingOrNull setting).members).Nodup := by
  rw [Json.settingOrNull, member?_eq_lookup_members]
  cases hmember : v.members.lookup setting with
  | none => exact List.nodup_nil
  | some value => exact h.2 _ (Table.mem_of_lookup hmember)

/-- The value of a property, if it is there. -/
def property? (v : Json) (k : Key) : Option Json :=
  (v.member? k.setting).bind (member? k.property)

end Json

/-! ### Reading them in turn -/

namespace Profile

variable {v : Json} {p : Profile} {k : Key}

lemma addProperty_eq_enter (setting : String) :
    addProperty setting = Table.enter fun name value => Value.ofJson ⟨setting, name⟩ value := by
  funext s m
  rw [addProperty, Table.enter]
  cases Value.ofJson ⟨setting, m.1⟩ m.2 with
  | error e => rfl
  | ok o => cases o <;> rfl

/-- A setting that was read was read off the members of its value. -/
lemma foldlM_enter_of_readSetting {setting : String} {value : Json} {s : Setting}
    (h : readSetting setting value = .ok s) :
    value.members.foldlM (Table.enter fun name value => Value.ofJson ⟨setting, name⟩ value) .empty
      = .ok s := by
  rw [← addProperty_eq_enter]
  rcases readSetting_cases h with ⟨ms, rfl, hfold⟩ | ⟨rfl, rfl⟩
  · exact hfold
  · rfl

/-- Settings are read off the members of a profile in turn. -/
lemma foldlM_addMember (ms : List (String × Json)) (p : Profile) :
    ms.foldlM addMember p =
      (ms.foldlM (Table.enter fun setting value => (readSetting setting value).map some)
        p.settings).map Profile.mk := by
  induction ms generalizing p with
  | nil => rfl
  | cons m ms ih =>
      rw [List.foldlM_cons, List.foldlM_cons, addMember, Table.enter]
      cases readSetting m.1 m.2 with
      | error e => rfl
      | ok s => exact ih ⟨p.settings.insert m.1 s⟩

/-- A profile that was read was read off the members of its value. -/
lemma foldlM_enter_of_ofJson (h : ofJson v = .ok p) :
    v.members.foldlM (Table.enter fun setting value => (readSetting setting value).map some) .empty
      = .ok p.settings := by
  obtain ⟨ms, rfl, hfold⟩ := exists_of_ofJson h
  rw [foldlM_addMember] at hfold
  obtain ⟨settings, hsettings, rfl⟩ := map_eq_ok_iff.mp hfold
  exact hsettings

/-! ### Reading them by their names -/

/-- Settings are those that were written, also those without properties. -/
lemma hasSetting_of_ofJson (h : ofJson v = .ok p) (hnames : v.DistinctNames) (setting : String) :
    p.hasSetting setting = (v.member? setting).isSome := by
  rw [hasSetting, Table.contains, Json.member?_eq_lookup_members]
  rcases Table.lookup_cases_of_foldlM_enter hnames.1 (foldlM_enter_of_ofJson h) setting with
    ⟨hlookup, hget⟩ | ⟨value, hlookup, hread⟩
  · rw [hlookup, hget]
    rfl
  · obtain ⟨s, -, hsome⟩ := map_eq_ok_iff.mp hread
    rw [hlookup, ← hsome]
    rfl

/-- **Each setting** of a profile that was read is read off its own member. -/
lemma readSetting_settingOrNull (h : ofJson v = .ok p) (hnames : v.DistinctNames)
    (setting : String) :
    readSetting setting (v.settingOrNull setting) = .ok (p.settingOrEmpty setting) := by
  rw [Json.settingOrNull, Json.member?_eq_lookup_members, settingOrEmpty]
  rcases Table.lookup_cases_of_foldlM_enter hnames.1 (foldlM_enter_of_ofJson h) setting with
    ⟨hlookup, hget⟩ | ⟨value, hlookup, hread⟩
  · rw [hlookup, hget]
    rfl
  · obtain ⟨s, hs, hsome⟩ := map_eq_ok_iff.mp hread
    rw [hlookup, ← hsome]
    exact hs

/-- **Each property** of a profile that was read is read off its own member. -/
lemma ofJson_property? (h : ofJson v = .ok p) (hnames : v.DistinctNames) {x : Json}
    (hx : v.property? k = some x) : Value.ofJson k x = .ok (p.get? k) := by
  obtain ⟨value, hvalue, hproperty⟩ := Option.bind_eq_some_iff.mp hx
  have hsetting := readSetting_settingOrNull h hnames k.setting
  have hdistinct := hnames.settingOrNull k.setting
  rw [Json.settingOrNull, hvalue, Option.getD_some] at hsetting hdistinct
  rw [Json.member?_eq_lookup_members] at hproperty
  rcases Table.lookup_cases_of_foldlM_enter hdistinct (foldlM_enter_of_readSetting hsetting)
    k.property with ⟨hlookup, -⟩ | ⟨x', hlookup, hread⟩
  · rw [hlookup] at hproperty
    cases hproperty
  · obtain rfl : x' = x := Option.some.inj (hlookup.symm.trans hproperty)
    rwa [get?_settingOrEmpty] at hread

end Profile

end ProfileMatch
