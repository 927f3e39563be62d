import Mathlib.Tactic.Common
import ProfileMatch.Matching.Identifier
import ProfileMatch.Matching.Waiver
import ProfileMatch.Proofs.Difference.Comparison
import ProfileMatch.Proofs.Profile.Members
import ProfileMatch.Proofs.Profile.RoundTrip
/-!
Properties that are written out with their defaults.

* `Json.setProperty`: a JSON value with a property of a setting put into it;
* `Profile.ofJson_setProperty`: what is read of it is the profile with that property set;
* `Property.default_cases`: the defaults of the schema are values that are stored under their keys,
  except those of routes, which are lists of texts;
* `Profile.ofJson_setProperty_default`: so a profile in which a default is written out cannot be
  told from the one in which it is left out, unless the property holds routes: then the two differ
  in just this property;
* `Profile.routes_default_not_interchangeable`: an empty list of routes that is written out makes
  an equal profile one whose difference is waived.
-/

namespace ProfileMatch

/-! ### Properties put into a JSON value -/

/-- An object of settings with a property of a setting put into it, along with the setting if that
is not there. -/
def Json.setProperty (v : Json) (k : Key) (value : Json) : Json :=
  .object (putMember k.setting
    (.object (putMember k.property value (v.settingOrNull k.setting).members)) v.members)

namespace Profile

variable {v : Json} {p : Profile} {k : Key}

/-- **A property that is put into a JSON value** is set in the profile that is read of it. -/
lemma ofJson_setProperty (h : ofJson v = .ok p) (hnames : v.DistinctNames) {value : Json}
    {w : Value} (hread : Value.ofJson k value = .ok (some w)) :
    ofJson (v.setProperty k value) = .ok (p.set k w) := by
  have hsetting : readSetting k.setting
      (.object (Json.putMember k.property value (v.settingOrNull k.setting).members))
      = .ok ((p.settingOrEmpty k.setting).insert k.property w) := by
    have hfold := foldlM_enter_of_readSetting (readSetting_settingOrNull h hnames k.setting)
    rw [readSetting, addProperty_eq_enter]
    exact Table.foldlM_enter_putMember (hnames.settingOrNull k.setting) hfold hread
  have hfold := Table.foldlM_enter_putMember hnames.1 (foldlM_enter_of_ofJson h)
    (congrArg (Except.map some) hsetting)
  rw [Json.setProperty, ofJson, foldlM_addMember, empty, hfold]
  rfl

end Profile

/-! ### Defaults of the schema -/

/-- A value that is read back as it is for every key of its kind. -/
def Value.plain : Value → Bool
  | .int i => IntegerRange.i64.holds i
  | .text s => s != ""
  | .routes _ => false
  | _ => true

lemma Value.stored_of_plain {k : Key} {d : Value} (hkind : k.Allows d.kind)
    (hplain : d.plain = true) : d.Stored k := by
  cases d with
  | bool b => exact .bool b hkind
  | int i => exact .int i hkind hplain
  | text s => exact .text s hkind fun _ => by simpa [plain] using hplain
  | list items => exact .list items hkind
  | map entries => exact .map entries hkind
  | routes rs => exact absurd hplain Bool.false_ne_true

lemma Value.kind_ne_routes_of_plain {d : Value} (hplain : d.plain = true) : d.kind ≠ .routes := by
  intro hkind
  cases d with
  | routes rs => exact absurd hplain Bool.false_ne_true
  | _ => cases hkind

/-- Every default is a plain value of the kind of its property, but that of routes is the empty list
of texts. -/
lemma schema_defaults : ∀ s ∈ schema, ∀ p ∈ s.properties, ∀ d ∈ p.default,
    (d.kind = p.kind ∧ d.plain = true) ∨ (p.kind = .routes ∧ d = .list []) := by
  decide

/-- The port type has no default, by either of its names. -/
lemma Property.ne_portType_of_default {k : Key} {p : Property} {d : Value}
    (hk : Property.of? k = some p) (hdefault : p.default = some d) :
    k ≠ .portType ∧ k ≠ .slaveType := by
  have hsome : (Property.of? k).bind Property.default = some d := by
    rw [hk, Option.bind_some, hdefault]
  have hport : (Property.of? .portType).bind Property.default = none := by decide
  have hslave : (Property.of? .slaveType).bind Property.default = none := by decide
  constructor
  · rintro rfl
    exact absurd (hport.symm.trans hsome) (by simp)
  · rintro rfl
    exact absurd (hslave.symm.trans hsome) (by simp)

/-- **Defaults are stored under their keys**, except those of routes, which are lists of texts. -/
lemma Property.default_cases {k : Key} {p : Property} {d : Value} (hk : Property.of? k = some p)
    (hdefault : p.default = some d) :
    (p.kind ≠ .routes ∧ d.Stored k) ∨ (p.kind = .routes ∧ d = .list []) := by
  obtain ⟨s, hs, -, hmem, -⟩ := Property.of?_eq_some_iff.mp hk
  rcases schema_defaults s hs p hmem d hdefault with ⟨hkind, hplain⟩ | hroutes
  · have hstored : d.Stored k := by
      refine Value.stored_of_plain (fun p' hp' => ?_) hplain
      rw [hkind, Option.some.inj (hp'.symm.trans hk)]
    refine .inl ⟨fun hroutes => ?_, hstored⟩
    exact Value.kind_ne_routes_of_plain hplain (hkind.trans hroutes)
  · exact .inr hroutes

/-- An empty list that is written for routes is read as one of routes. -/
lemma Value.ofJson_empty_routes {k : Key} {p : Property} (hk : Property.of? k = some p)
    (hkind : p.kind = .routes) : Value.ofJson k (.array []) = .ok (some (.routes [])) := by
  rw [Value.ofJson.eq_def]
  simp only [hk, hkind]
  rfl

/-! ### Profiles with a default written out -/

namespace Profile

variable {v : Json} {p : Profile} {k : Key} {property : Property} {d : Value}

/-- A default that is set where nothing was stored changes no effective value. -/
lemma effective?_set_default (hk : Property.of? k = some property)
    (hdefault : property.default = some d) (hunset : p.get? k = none) (k' : Key) :
    p.effective? k' = (p.set k d).effective? k' := by
  rw [effective?_set]
  by_cases hkey : k' = k
  · rw [if_pos hkey, hkey, effective?, hunset, Option.none_or, hk, Option.bind_some, hdefault]
  · rw [if_neg hkey]

/-- Where the port type is not concerned, a value that is set is the one compared, and all else is
compared as before. -/
lemma folded?_set (hport : k ≠ .portType) (hslave : k ≠ .slaveType) (p : Profile) (w : Value)
    (k' : Key) : (p.set k w).folded? k' = if k' = k then some w else p.folded? k' := by
  rw [folded?, effective?_set, effective?_set, effective?_set, if_neg hport.symm,
    if_neg hslave.symm]
  by_cases hk' : k' = .portType
  · rw [if_pos hk', hk', if_neg hport.symm, folded?, if_pos rfl]
  · rw [if_neg hk', folded?, if_neg hk']

/-- A value other than the default that is set where nothing was stored is the only difference. -/
lemma get?_between_set {w : Value} (hk : Property.of? k = some property)
    (hinferrable : property.inferrable = true) (hdefault : property.default = some d)
    (hunset : p.get? k = none) (hw : w ≠ d) (k' : Key) :
    (Difference.between p (p.set k w)).get? k' =
      if k' = k then some (some d, some w) else none := by
  obtain ⟨hport, hslave⟩ := Property.ne_portType_of_default hk hdefault
  have hcompared : k.Compared := ⟨Key.inferrable_of_of? hk hinferrable, hslave⟩
  rw [Difference.get?_between, folded?_set hport hslave]
  by_cases hkey : k' = k
  · subst hkey
    have hvalue : p.folded? k' = some d := by
      rw [folded?, if_neg hport, effective?, hunset, Option.none_or, hk, Option.bind_some,
        hdefault]
    have hne : some d ≠ some w := fun heq => hw (Option.some.inj heq).symm
    rw [if_pos rfl, if_pos rfl, hvalue, if_pos ⟨hcompared, hne⟩]
  · rw [if_neg hkey, if_neg hkey, if_neg fun h => h.2 rfl]

/-- **Writing a default out**: where a JSON value leaves an inferrable property with a default
unset, the default can be put into it, and a profile is still read. Unless the property holds
routes, it has no difference to the one that was read before, and both have the same difference to
any other. If it holds routes, the two differ in this property, and in no other: the default is an
empty list of texts, but what is read is one of routes. -/
theorem ofJson_setProperty_default (hv : ofJson v = .ok p) (hnames : v.DistinctNames)
    (hk : Property.of? k = some property) (hinferrable : property.inferrable = true)
    (hdefault : property.default = some d) (hunset : p.get? k = none) :
    ∃ p', ofJson (v.setProperty k d.toJson) = .ok p'
      ∧ (property.kind ≠ .routes → (Difference.between p p').isEmpty = true
          ∧ ∀ q, Difference.between p q = Difference.between p' q
            ∧ Difference.between q p = Difference.between q p')
      ∧ (property.kind = .routes → ∀ k', (Difference.between p p').get? k' =
          if k' = k then some (some (.list []), some (.routes [])) else none) := by
  rcases Property.default_cases hk hdefault with ⟨hkind, hstored⟩ | ⟨hkind, rfl⟩
  · have hread := ofJson_setProperty hv hnames (Value.ofJson_toJson hstored)
    have hsame := Difference.between_congr_both fun k' _ =>
      effective?_set_default hk hdefault hunset k'
    refine ⟨p.set k d, hread, fun _ => ⟨?_, hsame⟩, fun hroutes => absurd hroutes hkind⟩
    rw [← (hsame p).2]
    exact Difference.equivalence_isEmpty_between.refl p
  · have hread := ofJson_setProperty hv hnames (Value.ofJson_empty_routes hk hkind)
    refine ⟨p.set k (.routes []), hread, fun hroutes => absurd hkind hroutes, fun _ k' => ?_⟩
    exact get?_between_set hk hinferrable hdefault hunset (by simp) k'

/-- A text that was empty, a map of a setting that was not there, and routes. -/
theorem setProperty_defaults_mixed :
    let v : Json := .object [("ipv6", .object [("method", .string ""), ("dns", .string "::1")])]
    let method : Key := .ipMethod .v6
    let options : Key := ⟨"bond", "options"⟩
    v.setProperty method (.string "auto")
        = .object [("ipv6", .object [("method", .string "auto"), ("dns", .string "::1")])]
      ∧ v.setProperty options (.object [])
        = .object [("ipv6", .object [("method", .string ""), ("dns", .string "::1")]),
            ("bond", .object [("options", .object [])])]
      ∧ ∃ p, ofJson v = .ok p
        ∧ (∃ p', ofJson (v.setProperty method (.string "auto")) = .ok p'
          ∧ (Difference.between p p').isEmpty = true)
        ∧ (∃ p', ofJson (v.setProperty options (.object [])) = .ok p'
          ∧ (Difference.between p p').isEmpty = true)
        ∧ ∃ p', ofJson (v.setProperty (.ipRoutes .v6) (.array [])) = .ok p'
          ∧ (Difference.between p p').get? (.ipRoutes .v6)
            = some (some (.list []), some (.routes [])) := by
  intro v method options
  have hnames : v.DistinctNames := by decide
  refine ⟨rfl, rfl, ?_⟩
  have hv : ofJson v = .ok (Profile.empty.set ⟨"ipv6", "dns"⟩ (.list ["::1"])) := by rfl
  refine ⟨_, hv, ?_, ?_, ?_⟩
  · obtain ⟨p', hp', hsame, -⟩ := ofJson_setProperty_default (k := method) hv hnames rfl rfl rfl
      (by decide)
    exact ⟨p', hp', (hsame (by decide)).1⟩
  · obtain ⟨p', hp', hsame, -⟩ := ofJson_setProperty_default (k := options) hv hnames rfl rfl rfl
      (by decide)
    exact ⟨p', hp', (hsame (by decide)).1⟩
  · obtain ⟨p', hp', -, hroutes⟩ := ofJson_setProperty_default (k := .ipRoutes .v6) hv hnames rfl
      rfl rfl (by decide)
    exact ⟨p', hp', hroutes rfl (.ipRoutes .v6)⟩

/-- An empty list of routes that is written out where the profile has none: the two profiles differ,
the one is equal to itself and the other is not equal to it but only a possible match. -/
theorem routes_default_not_interchangeable :
    let v : Json := .object [("ipv4", .object [])]
    let v' : Json := .object [("ipv4", .object [("routes", .array [])])]
    let k : Key := .ipRoutes .v4
    ∃ property p p', ofJson v = .ok p ∧ v.DistinctNames
      ∧ Property.of? k = some property ∧ property.inferrable = true
      ∧ property.default = some (.list []) ∧ p.get? k = none
      ∧ v' = v.setProperty k (Value.list []).toJson ∧ ofJson v' = .ok p'
      ∧ (Difference.between p p).isEmpty = true ∧ (Difference.between p p').isEmpty = false
      ∧ isPossibleMatch p p' .default (.among isUuid []) = true := by
  intro v v' k
  have hv : ofJson v = .ok (Profile.empty.addSetting "ipv4") := by rfl
  have hv' : ofJson v' = .ok (Profile.empty.set k (.routes [])) := by rfl
  refine ⟨.inferred "routes" .routes (some (.list [])), _, _, hv, ?_, rfl, rfl, rfl, rfl, rfl, hv',
    ?_, ?_, ?_⟩
  · decide
  · decide +kernel
  · decide +kernel
  · decide +kernel

end Profile

end ProfileMatch
