import Mathlib.Tactic.Common
import ProfileMatch.Profile.Reader
import ProfileMatch.Proofs.Route.RoundTrip
/-!
What a profile that was read can hold.

* `Value.Stored`: the values that are stored under a key; that of a property of the schema is of
  its kind;
* `Value.stored_of_ofJson`: what is read for a key is stored under it;
* `Profile.addProperty_cases`, `Profile.exists_of_addMember`: what a member of a setting and one of
  a profile can do;
* `Profile.Decoded`: all values of a profile are those that are stored under their keys, which every
  such step keeps, so that a profile that was read is such (`Profile.decoded_of_ofJson`).
-/

namespace ProfileMatch

/-- The schema allows values of a kind under a key: it gives the property that kind or does not
hold it. -/
def Key.Allows (key : Key) (kind : Kind) : Prop :=
  ∀ p, Property.of? key = some p → p.kind = kind

namespace Value

/-- **The values stored under a key**: they are of a kind that the schema allows, integers have 64
bits, texts of the schema are not empty, and routes, which no other property has, are those that
can be read and are of the family of the setting. -/
inductive Stored (key : Key) : Value → Prop
  | bool (b : Bool) (kind : key.Allows .bool) : Stored key (.bool b)
  | int (i : Int) (kind : key.Allows .int) (holds : IntegerRange.i64.holds i = true) :
      Stored key (.int i)
  | text (s : String) (kind : key.Allows .text)
      (nonempty : (Property.of? key).isSome → s ≠ "") : Stored key (.text s)
  | list (items : List String) (kind : key.Allows .list) : Stored key (.list items)
  | map (entries : Table String) (kind : key.Allows .map) : Stored key (.map entries)
  | routes (rs : List Route) (known : (Property.of? key).isSome) (kind : key.Allows .routes)
      (readable : ∀ r ∈ rs, r.Readable ∧ r.family = routeFamily key.setting) :
      Stored key (.routes rs)

/-! ### Values by kind -/

variable {key : Key} {value : Json} {v : Value}

lemma orBad_eq_ok_iff {read : Option Value} :
    orBad key value read = .ok (some v) ↔ read = some v := by
  cases read with
  | none => simp [orBad]
  | some v' => rw [orBad, Except.ok.injEq]

lemma exists_of_readBool (h : readBool value = some v) : ∃ b, v = .bool b := by
  cases value with
  | bool b => exact ⟨b, (Option.some.inj h).symm⟩
  | string s =>
      rw [readBool] at h
      split_ifs at h
      · exact ⟨true, (Option.some.inj h).symm⟩
      · exact ⟨false, (Option.some.inj h).symm⟩
  | null => cases h
  | number n => cases h
  | array items => cases h
  | object members => cases h

/-- An integer is read in the range of 64 bits, as a number or as text. -/
lemma exists_of_readInt (h : readInt value = some v) :
    ∃ i, v = .int i ∧ IntegerRange.i64.holds i = true := by
  cases value with
  | number n =>
      obtain ⟨i, hi, rfl⟩ := Option.map_eq_some_iff.mp h
      exact ⟨i, rfl, Json.Number.holds_of_within? hi⟩
  | string s =>
      obtain ⟨i, hi, rfl⟩ := Option.map_eq_some_iff.mp h
      exact ⟨i, rfl, IntegerRange.holds_of_read? (by decide) (by decide) hi⟩
  | null => cases h
  | bool b => cases h
  | array items => cases h
  | object members => cases h

/-- A text of the schema is not empty: the empty one leaves the property unset. -/
lemma exists_of_ofText (h : ofText key value = .ok (some v)) : ∃ s, v = .text s ∧ s ≠ "" := by
  rw [ofText.eq_def] at h
  split at h
  · cases h
  · next hvalue =>
      obtain ⟨s, hs, rfl⟩ := Option.map_eq_some_iff.mp (orBad_eq_ok_iff.mp h)
      refine ⟨s, rfl, ?_⟩
      rintro rfl
      exact hvalue (Json.eq_empty_of_scalarText? hs)

lemma exists_of_readList (h : readList value = some v) : ∃ items, v = .list items := by
  cases value with
  | array values =>
      obtain ⟨items, -, rfl⟩ := Option.map_eq_some_iff.mp h
      exact ⟨items, rfl⟩
  | string s => exact ⟨Text.listItems s, (Option.some.inj h).symm⟩
  | null => cases h
  | bool b => cases h
  | number n => cases h
  | object members => cases h

lemma exists_of_readMap (h : readMap value = some v) : ∃ entries, v = .map entries := by
  cases value with
  | object members =>
      obtain ⟨es, -, rfl⟩ := Option.map_eq_some_iff.mp h
      exact ⟨.ofList es, rfl⟩
  | null => cases h
  | bool b => cases h
  | number n => cases h
  | string s => cases h
  | array items => cases h

/-- Routes are read one by one. -/
lemma exists_of_ofRoutes (h : ofRoutes key value = .ok (some v)) :
    ∃ rs, v = .routes rs ∧ ∀ r ∈ rs, r.Readable ∧ r.family = routeFamily key.setting := by
  cases value with
  | array items =>
      rw [ofRoutes] at h
      cases hread : items.mapM (Route.ofJson (routeFamily key.setting)) with
      | error cause =>
          rw [hread] at h
          cases h
      | ok rs =>
          rw [hread] at h
          cases h
          refine ⟨rs, rfl, fun r hr => ?_⟩
          obtain ⟨item, -, hitem⟩ := exists_of_mem_mapM hread hr
          exact Route.readable_of_ofJson hitem
  | null => cases h
  | bool b => cases h
  | number n => cases h
  | string s => cases h
  | object members => cases h

/-! ### Values by key -/

/-- A property of the schema is read by its kind. -/
lemma stored_of_ofKind {p : Property} (hp : Property.of? key = some p)
    (h : ofKind p.kind key value = .ok (some v)) : v.Stored key := by
  have hknown : (Property.of? key).isSome := by rw [hp]; rfl
  have hallows : ∀ {kind : Kind}, p.kind = kind → key.Allows kind := by
    intro kind hkind p' hp'
    rwa [Option.some.inj (hp'.symm.trans hp)]
  cases hkind : p.kind with
  | bool =>
      rw [hkind] at h
      obtain ⟨b, rfl⟩ := exists_of_readBool (orBad_eq_ok_iff.mp h)
      exact .bool b (hallows hkind)
  | int =>
      rw [hkind] at h
      obtain ⟨i, rfl, hholds⟩ := exists_of_readInt (orBad_eq_ok_iff.mp h)
      exact .int i (hallows hkind) hholds
  | text =>
      rw [hkind] at h
      obtain ⟨s, rfl, hne⟩ := exists_of_ofText h
      exact .text s (hallows hkind) fun _ => hne
  | list =>
      rw [hkind] at h
      obtain ⟨items, rfl⟩ := exists_of_readList (orBad_eq_ok_iff.mp h)
      exact .list items (hallows hkind)
  | map =>
      rw [hkind] at h
      obtain ⟨entries, rfl⟩ := exists_of_readMap (orBad_eq_ok_iff.mp h)
      exact .map entries (hallows hkind)
  | routes =>
      rw [hkind] at h
      obtain ⟨rs, rfl, hreadable⟩ := exists_of_ofRoutes h
      exact .routes rs hknown (hallows hkind) hreadable

/-- A property that the schema does not hold takes any form but that of routes. -/
lemma stored_of_ofUnknown (hp : Property.of? key = none) (h : ofUnknown value = some v) :
    v.Stored key := by
  have hallows : ∀ kind, key.Allows kind := by
    intro kind p hsome
    rw [hp] at hsome
    cases hsome
  cases value with
  | null => cases h
  | bool b =>
      cases h
      exact .bool b (hallows _)
  | number n =>
      rw [ofUnknown] at h
      cases hwithin : n.within? .i64 with
      | some i =>
          rw [hwithin] at h
          cases h
          exact .int i (hallows _) (Json.Number.holds_of_within? hwithin)
      | none =>
          rw [hwithin] at h
          cases h
          exact .text n.text (hallows _) fun _ => n.text_ne_empty
  | string s =>
      cases h
      exact .text s (hallows _) fun hknown => absurd hknown (by rw [hp]; decide)
  | array items =>
      cases h
      exact .list _ (hallows _)
  | object members =>
      cases h
      exact .map _ (hallows _)

/-- A value other than null is read by the kind of its property, or without the schema. -/
lemma ofJson_of_ne_null (h : value ≠ .null) :
    ofJson key value = match Property.of? key with
      | some p => ofKind p.kind key value
      | none => .ok (ofUnknown value) := by
  rw [ofJson.eq_def]
  split
  · exact absurd rfl h
  · rfl

/-- **What is read for a key is stored under it.** -/
lemma stored_of_ofJson (h : ofJson key value = .ok (some v)) : v.Stored key := by
  by_cases hvalue : value = .null
  · rw [hvalue] at h
    cases h
  · rw [ofJson_of_ne_null hvalue] at h
    cases hp : Property.of? key with
    | some p =>
        rw [hp] at h
        exact stored_of_ofKind hp h
    | none =>
        rw [hp] at h
        exact stored_of_ofUnknown hp (Except.ok.inj h)

end Value

namespace Profile

/-! ### Steps of the reader -/

/-- A member of a setting adds its property, or nothing if it leaves it unset. -/
lemma addProperty_cases {setting : String} {s s' : Setting} {m : String × Json}
    (h : addProperty setting s m = .ok s') :
    (Value.ofJson ⟨setting, m.1⟩ m.2 = .ok none ∧ s' = s)
      ∨ ∃ v, Value.ofJson ⟨setting, m.1⟩ m.2 = .ok (some v) ∧ s' = s.insert m.1 v := by
  rw [addProperty] at h
  cases hread : Value.ofJson ⟨setting, m.1⟩ m.2 with
  | error e =>
      rw [hread] at h
      cases h
  | ok v? =>
      rw [hread] at h
      cases v? with
      | none =>
          cases h
          exact .inl ⟨rfl, rfl⟩
      | some v =>
          cases h
          exact .inr ⟨v, rfl, rfl⟩

/-- A setting is read off its members in turn, or it is null and holds none. -/
lemma readSetting_cases {setting : String} {value : Json} {s : Setting}
    (h : readSetting setting value = .ok s) :
    (∃ members, value = .object members ∧ members.foldlM (addProperty setting) .empty = .ok s)
      ∨ value = .null ∧ s = .empty := by
  cases value with
  | object members => exact .inl ⟨members, rfl, h⟩
  | null =>
      cases h
      exact .inr ⟨rfl, rfl⟩
  | bool b => cases h
  | number n => cases h
  | string s => cases h
  | array items => cases h

/-- A member of a profile puts its setting in place of any that was read under the name before. -/
lemma exists_of_addMember {p p' : Profile} {m : String × Json} (h : addMember p m = .ok p') :
    ∃ s, readSetting m.1 m.2 = .ok s ∧ p' = ⟨p.settings.insert m.1 s⟩ := by
  rw [addMember] at h
  cases hread : readSetting m.1 m.2 with
  | error e =>
      rw [hread] at h
      cases h
  | ok s =>
      rw [hread] at h
      cases h
      exact ⟨s, rfl, rfl⟩

/-- A profile is read off the members of an object in turn. -/
lemma exists_of_ofJson {value : Json} {p : Profile} (h : ofJson value = .ok p) :
    ∃ members, value = .object members ∧ members.foldlM addMember empty = .ok p := by
  cases value with
  | object members => exact ⟨members, rfl, h⟩
  | null => cases h
  | bool b => cases h
  | number n => cases h
  | string s => cases h
  | array items => cases h

/-! ### Decoded profiles -/

/-- Every value of a setting is one that is stored under its key. -/
def DecodedSetting (setting : String) (s : Setting) : Prop :=
  ∀ name v, s.get? name = some v → v.Stored ⟨setting, name⟩

/-- **Decoded profiles**: every value is one that is stored under its key. -/
def Decoded (p : Profile) : Prop :=
  ∀ k v, p.get? k = some v → v.Stored k

lemma decodedSetting_empty (setting : String) : DecodedSetting setting .empty := by
  intro name v hv
  cases hv

/-- A property that was read keeps a setting decoded. -/
lemma DecodedSetting.addProperty {setting : String} {s s' : Setting} {m : String × Json}
    (hs : DecodedSetting setting s) (h : addProperty setting s m = .ok s') :
    DecodedSetting setting s' := by
  rcases addProperty_cases h with ⟨-, rfl⟩ | ⟨w, hread, rfl⟩
  · exact hs
  · intro name v hv
    rw [Table.get?_insert] at hv
    split_ifs at hv with hname
    · cases hv
      rw [hname]
      exact Value.stored_of_ofJson hread
    · exact hs name v hv

lemma decodedSetting_of_readSetting {setting : String} {value : Json} {s : Setting}
    (h : readSetting setting value = .ok s) : DecodedSetting setting s := by
  rcases readSetting_cases h with ⟨members, -, hfold⟩ | ⟨-, rfl⟩
  · exact foldlM_invariant (fun s m s' hs hadd => hs.addProperty hadd)
      (decodedSetting_empty setting) hfold
  · exact decodedSetting_empty setting

/-- A setting that was read keeps a profile decoded. -/
lemma Decoded.addMember {p p' : Profile} {m : String × Json} (hp : p.Decoded)
    (h : addMember p m = .ok p') : p'.Decoded := by
  obtain ⟨s, hread, rfl⟩ := exists_of_addMember h
  intro k v hv
  rw [get?, Table.get?_insert] at hv
  split_ifs at hv with hname
  · have hstored := decodedSetting_of_readSetting hread k.property v hv
    rwa [← hname] at hstored
  · exact hp k v hv

/-- **A profile that was read is decoded.** -/
lemma decoded_of_ofJson {value : Json} {p : Profile} (h : ofJson value = .ok p) : p.Decoded := by
  obtain ⟨members, -, hfold⟩ := exists_of_ofJson h
  refine foldlM_invariant (fun p m p' hp hadd => hp.addMember hadd) ?_ hfold
  intro k v hv
  cases hv

end Profile

end ProfileMatch
