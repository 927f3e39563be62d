import Mathlib.Tactic.Common
import ProfileMatch.Proofs.Profile.Stored
import ProfileMatch.Proofs.Table
/-!
Profiles are read back from what they are written as, although the kinds of values are not written.

* `Table.foldlM_mapValues`: a table is put together again by a reader that adds its entries one by
  one;
* `Value.ofJson_toJson`: a value is read back for every key that it is stored under;
* `Profile.ofJson_toJson`: a decoded profile is read back;
* `Profile.roundTrip_of_ofJson`: in particular, any that was read.
-/

namespace ProfileMatch

namespace Table

variable {α : Type}

/-- A table is put together again by a reader that adds its entries one by one. -/
lemma foldlM_mapValues {β σ ε : Type} (wrap : Table α → σ) {write : α → β}
    {step : σ → String × β → Except ε σ} {t : Table α}
    (h : ∀ s, ∀ e ∈ t.entries,
      step (wrap s) (e.1, write e.2) = .ok (wrap (s.insert e.1 e.2))) :
    (t.mapValues write).entries.foldlM step (wrap empty) = .ok (wrap t) := by
  rw [mapValues, foldlM_map_eq_ok h, ← ofList, ofList_entries]

end Table

/-! ### Values -/

namespace Value

variable {key : Key}

/-- What is read back both by a kind that the schema allows and without the schema is read back. -/
lemma ofJson_eq_of_allows {kind : Kind} {value : Json} {v : Value} (hvalue : value ≠ .null)
    (hallows : key.Allows kind)
    (hknown : (Property.of? key).isSome → ofKind kind key value = .ok (some v))
    (hunknown : Property.of? key = none → ofUnknown value = some v) :
    ofJson key value = .ok (some v) := by
  rw [ofJson_of_ne_null hvalue]
  cases hp : Property.of? key with
  | some p =>
      simp only
      rw [hallows p hp]
      exact hknown (by rw [hp]; rfl)
  | none =>
      simp only
      rw [hunknown hp]

lemma readEntry_string (e : String × String) : readEntry (e.1, .string e.2) = some e := rfl

/-- **Values are read back** for every key that they are stored under. -/
lemma ofJson_toJson {v : Value} (h : v.Stored key) : ofJson key v.toJson = .ok (some v) := by
  cases h with
  | bool b hkind => exact ofJson_eq_of_allows (by simp [toJson]) hkind (fun _ => rfl) fun _ => rfl
  | int i hkind hholds =>
      have hwithin : (Json.Number.whole i).within? .i64 = some i := if_pos hholds
      refine ofJson_eq_of_allows (by simp [toJson, Json.int]) hkind (fun _ => ?_) fun _ => ?_
      · rw [ofKind, orBad_eq_ok_iff, toJson, Json.int, readInt, hwithin]
        rfl
      · rw [toJson, Json.int, ofUnknown, hwithin]
  | text s hkind hnonempty =>
      refine ofJson_eq_of_allows (by simp [toJson]) hkind (fun hknown => ?_) fun _ => rfl
      rw [ofKind, toJson, ofText]
      · rfl
      · intro hempty
        exact hnonempty hknown (Json.string.inj hempty)
  | list items hkind =>
      refine ofJson_eq_of_allows (by simp [toJson]) hkind (fun _ => ?_) fun _ => ?_
      · have hitems : (items.map Json.string).mapM Json.scalarText? = some items :=
          mapM_map_eq_pure fun _ _ => rfl
        rw [ofKind, orBad_eq_ok_iff, toJson, readList, hitems]
        rfl
      · simp [toJson, ofUnknown, List.filterMap_map, Function.comp_def, Json.scalarText?]
  | map entries hkind =>
      refine ofJson_eq_of_allows (by simp [toJson]) hkind (fun _ => ?_) fun _ => ?_
      · rw [ofKind, orBad_eq_ok_iff, toJson, readMap,
          mapM_map_eq_pure fun e _ => readEntry_string e]
        exact congrArg (fun t => some (map t)) (Table.ofList_entries entries)
      · simp [toJson, ofUnknown, List.filterMap_map, Function.comp_def, readEntry_string,
          Table.ofList_entries]
  | routes rs hknown hkind hreadable =>
      refine ofJson_eq_of_allows (by simp [toJson]) hkind (fun _ => ?_) fun hp => ?_
      · rw [ofKind, toJson, ofRoutes, mapM_map_eq_pure fun r hr => ?_]
        · rfl
        · obtain ⟨hr, hfamily⟩ := hreadable r hr
          rw [← hfamily]
          exact Route.ofJson_toJson hr
      · rw [hp] at hknown
        exact absurd hknown (by decide)

end Value

/-! ### Profiles -/

namespace Profile

/-- A setting is read back. -/
lemma readSetting_settingToJson {setting : String} {s : Setting} (h : DecodedSetting setting s) :
    readSetting setting (settingToJson s) = .ok s := by
  refine Table.foldlM_mapValues id fun s' e he => ?_
  have hread := Value.ofJson_toJson (h e.1 e.2 (Table.get?_eq_some_iff.mpr he))
  rw [id, addProperty, hread]
  rfl

/-- **Decoded profiles are read back.** -/
lemma ofJson_toJson {p : Profile} (h : p.Decoded) : ofJson p.toJson = .ok p := by
  refine Table.foldlM_mapValues Profile.mk fun settings s hs => ?_
  have hsetting : DecodedSetting s.1 s.2 := by
    intro name v hv
    refine h ⟨s.1, name⟩ v ?_
    rw [get?, Table.get?_eq_some_iff.mpr hs]
    exact hv
  rw [addMember, readSetting_settingToJson hsetting]

/-- **Profile round trip**: whatever was read as a profile is read back, unchanged, from what the
profile is written as. -/
theorem roundTrip_of_ofJson {v : Json} {p : Profile} (h : ofJson v = .ok p) :
    ofJson p.toJson = .ok p :=
  ofJson_toJson (decoded_of_ofJson h)

/-- A profile with a setting that is null, a list and a number written as text, a text written as
a number, a route on a line, and a setting that the schema does not hold. -/
theorem roundTrip_mixed :
    let v : Json := .object
      [("ipv6", .object
        [("routes", .array [.string "2001:db8:0:0::1/64 fe80::1 300"]),
         ("dns", .string "::1, ,2001:db8::2"), ("route-metric", .string "-1")]),
       ("bond", .null),
       ("connection", .object [("id", .int 7), ("zone", .string "")]),
       ("user", .object [("data", .object [("a", .bool true), ("b", .null)])])]
    ∃ p, ofJson v = .ok p
      ∧ p.ipRoutes .v6 = [⟨.v6, "2001:db8::1", 64, some "fe80::1", 300⟩]
      ∧ p.id? = some "7" ∧ p.hasSetting "bond" = true
      ∧ ofJson p.toJson = .ok p := by
  intro v
  have hvalues : (ofJson v).toOption.map (fun p => (p.ipRoutes .v6, p.id?, p.hasSetting "bond"))
      = some ([⟨.v6, "2001:db8::1", 64, some "fe80::1", 300⟩], some "7", true) := by
    decide +kernel
  cases h : ofJson v with
  | error e =>
      rw [h] at hvalues
      cases hvalues
  | ok p =>
      rw [h] at hvalues
      simp only [Except.toOption, Option.map_some, Option.some.injEq, Prod.mk.injEq] at hvalues
      exact ⟨p, rfl, hvalues.1, hvalues.2.1, hvalues.2.2, roundTrip_of_ofJson h⟩

end Profile

end ProfileMatch
