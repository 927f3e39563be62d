import Mathlib.Tactic.Common
import ProfileMatch.Proofs.Json.Reordered
import ProfileMatch.Proofs.Profile.Members
import ProfileMatch.Proofs.Route.Written
/-!
The order of members does not show in a profile.

One lemma for each reader, from routes and values up to settings and profiles: of two JSON values
that differ in the order of members alone it reads the same, or it fails on both. The fault that is
reported can be another, since the first one counts and the value is named as it was written.

* `Route.toOption_ofJson_eq`, `Value.toOption_ofJson_eq`, `Profile.toOption_readSetting_eq`: routes,
  values of properties, settings;
* `Profile.ofJson_eq_of_reorders`: profiles.
-/

namespace ProfileMatch

open Json (Reorders)

variable {x y : Json}

/-! ### Routes -/

namespace Route

lemma destinationOf_eq (h : x.Reorders y) (dest : String) :
    destinationOf x dest = destinationOf y dest := by
  rw [destinationOf, destinationOf, h.bind_member?_eq fun _ _ hxy => hxy.within?_eq _]

/-- The members of an object are read by their names. -/
lemma toOption_ofObject_eq (h : x.Reorders y) : (ofObject x).toOption = (ofObject y).toOption := by
  rw [ofObject, ofObject, h.bind_member?_eq fun _ _ hxy => hxy.string?_eq,
    h.bind_member?_eq fun _ _ hxy => hxy.string?_eq,
    h.bind_member?_eq fun _ _ hxy => hxy.within?_eq _]
  cases (y.member? "dest").bind Json.string? with
  | none => rfl
  | some dest => simp only [destinationOf_eq h]

lemma toOption_ofValue_eq (h : x.Reorders y) : (ofValue x).toOption = (ofValue y).toOption := by
  cases h with
  | object names order members => exact toOption_ofObject_eq (.object names order members)
  | _ => rfl

/-- **A route** of a family is read alike. -/
lemma toOption_ofJson_eq (h : x.Reorders y) (family : Family) :
    (ofJson family x).toOption = (ofJson family y).toOption := by
  ext r
  rw [toOption_eq_some_iff, toOption_eq_some_iff, ofJson_eq_ok_iff_ofValue,
    ofJson_eq_ok_iff_ofValue, ← toOption_eq_some_iff, ← toOption_eq_some_iff, toOption_ofValue_eq h]

end Route

/-! ### Values -/

namespace Value

lemma readList_eq (h : x.Reorders y) : readList x = readList y := by
  cases h with
  | array items => rw [readList, readList, Reorders.mapM_eq items fun _ _ hxy => hxy.scalarText?_eq]
  | _ => rfl

/-- What the members with scalar values write stands under their names. -/
lemma get?_ofList_readEntry {ms : List (String × Json)} (h : (Json.memberNames ms).Nodup)
    (name : String) :
    (Table.ofList (ms.filterMap readEntry)).get? name = (ms.lookup name).bind Json.scalarText? :=
  Table.get?_ofList_filterMap h name

lemma ofList_filterMap_readEntry_eq {ms os : List (String × Json)}
    (h : Reorders (.object ms) (.object os)) :
    Table.ofList (ms.filterMap readEntry) = Table.ofList (os.filterMap readEntry) := by
  refine Table.ext_get? fun name => ?_
  rw [get?_ofList_readEntry h.nodup_left, get?_ofList_readEntry h.nodup_right,
    h.bind_lookup_eq fun _ _ hxy => hxy.scalarText?_eq]

lemma readMap_eq (h : x.Reorders y) : readMap x = readMap y := by
  cases h with
  | @object ms _ os names order members =>
      have h : Reorders (.object ms) (.object os) := .object names order members
      have hall : (∀ m ∈ ms, (readEntry m).isSome = true) ↔ ∀ m ∈ os, (readEntry m).isSome = true :=
        h.forall_mem_iff (P := fun name x => (readEntry (name, x)).isSome = true)
          fun name x y hxy => by rw [readEntry, readEntry, hxy.scalarText?_eq]
      rw [readMap, readMap, mapM_eq_ite, mapM_eq_ite]
      by_cases hreadable : ∀ m ∈ ms, (readEntry m).isSome = true
      · rw [if_pos hreadable, if_pos (hall.mp hreadable), Option.map_some, Option.map_some,
          ofList_filterMap_readEntry_eq h]
      · rw [if_neg hreadable, if_neg fun hos => hreadable (hall.mpr hos)]
  | _ => rfl

lemma ofUnknown_eq (h : x.Reorders y) : ofUnknown x = ofUnknown y := by
  cases h with
  | array items =>
      rw [ofUnknown, ofUnknown, Reorders.filterMap_eq items fun _ _ hxy => hxy.scalarText?_eq]
  | object names order members =>
      rw [ofUnknown, ofUnknown, ofList_filterMap_readEntry_eq (.object names order members)]
  | _ => rfl

lemma toOption_orBad (key : Key) (value : Json) (read : Option Value) :
    (orBad key value read).toOption = read.map some := by
  cases read <;> rfl

lemma toOption_ofRoutes (key : Key) (items : List Json) :
    (ofRoutes key (.array items)).toOption
      = (items.mapM (Route.ofJson (routeFamily key.setting))).toOption.map fun rs =>
          some (.routes rs) := by
  rw [ofRoutes]
  cases items.mapM (Route.ofJson (routeFamily key.setting)) <;> rfl

lemma toOption_ofRoutes_eq (key : Key) (h : x.Reorders y) :
    (ofRoutes key x).toOption = (ofRoutes key y).toOption := by
  cases h with
  | array items =>
      rw [toOption_ofRoutes, toOption_ofRoutes, toOption_mapM, toOption_mapM,
        Reorders.mapM_eq items fun _ _ hxy => Route.toOption_ofJson_eq hxy _]
  | _ => rfl

/-- A value of a known kind is read alike. -/
lemma toOption_ofKind_eq (kind : Kind) (key : Key) (h : x.Reorders y) :
    (ofKind kind key x).toOption = (ofKind kind key y).toOption := by
  cases kind with
  | bool =>
      rw [ofKind, ofKind, toOption_orBad, toOption_orBad]
      cases h <;> rfl
  | int =>
      rw [ofKind, ofKind, toOption_orBad, toOption_orBad]
      cases h <;> rfl
  | text =>
      rw [ofKind, ofKind]
      cases h <;> rfl
  | list => rw [ofKind, ofKind, toOption_orBad, toOption_orBad, readList_eq h]
  | map => rw [ofKind, ofKind, toOption_orBad, toOption_orBad, readMap_eq h]
  | routes => rw [ofKind, ofKind, toOption_ofRoutes_eq key h]

/-- **A value** of a property is read alike. -/
lemma toOption_ofJson_eq (key : Key) (h : x.Reorders y) :
    (ofJson key x).toOption = (ofJson key y).toOption := by
  by_cases hx : x = .null
  · subst hx
    cases h
    rfl
  · have hy : y ≠ .null := by
      rintro rfl
      cases h
      exact hx rfl
    rw [ofJson_of_ne_null hx, ofJson_of_ne_null hy]
    cases Property.of? key with
    | some p => exact toOption_ofKind_eq p.kind key h
    | none => exact congrArg some (ofUnknown_eq h)

end Value

/-! ### Settings and profiles -/

namespace Profile

/-- **A setting** is read alike. -/
lemma toOption_readSetting_eq (setting : String) (h : x.Reorders y) :
    (readSetting setting x).toOption = (readSetting setting y).toOption := by
  cases h with
  | object names order members =>
      rw [readSetting, readSetting, addProperty_eq_enter]
      exact Reorders.toOption_foldlM_enter_eq (.object names order members)
        (fun name _ _ hxy => Value.toOption_ofJson_eq ⟨setting, name⟩ hxy) .empty
  | _ => rfl

lemma toOption_ofJson_eq (h : x.Reorders y) : (ofJson x).toOption = (ofJson y).toOption := by
  cases h with
  | object names order members =>
      rw [ofJson, ofJson, foldlM_addMember, foldlM_addMember, toOption_map, toOption_map,
        Reorders.toOption_foldlM_enter_eq (.object names order members) fun setting _ _ hxy => by
          rw [toOption_map, toOption_map, toOption_readSetting_eq setting hxy]]
  | _ => rfl

/-- **The order of members does not show**: of two JSON values that differ in the order of members
alone, in objects at any depth, the same profile is read, or none of either. -/
theorem ofJson_eq_of_reorders {v w : Json} (h : v.Reorders w) :
    (∃ p, ofJson v = .ok p ∧ ofJson w = .ok p)
      ∨ (∃ e, ofJson v = .error e) ∧ ∃ e, ofJson w = .error e := by
  have hsame := toOption_ofJson_eq h
  cases hv : ofJson v with
  | ok p =>
      rw [hv] at hsame
      exact .inl ⟨p, rfl, toOption_eq_some_iff.mp hsame.symm⟩
  | error e =>
      cases hw : ofJson w with
      | ok p =>
          rw [hv, hw] at hsame
          cases hsame
      | error e' => exact .inr ⟨⟨e, rfl⟩, e', rfl⟩

/-- Two settings, two properties, a map of texts, the members of a route and those of a value that
no schema knows change places, and a profile is read; two faults change places, and none is read. -/
theorem ofJson_eq_of_reorders_nested :
    let route : Json := .object [("dest", .string "10.0.0.0/8"), ("metric", .int 5)]
    let route' : Json := .object [("metric", .int 5), ("dest", .string "10.0.0.0/8")]
    let options : Json := .object [("mode", .string "active-backup"), ("miimon", .int 100)]
    let options' : Json := .object [("miimon", .int 100), ("mode", .string "active-backup")]
    let data : Json := .object [("a", .object [("x", .int 1), ("y", .null)]), ("b", .bool true)]
    let data' : Json := .object [("b", .bool true), ("a", .object [("y", .null), ("x", .int 1)])]
    let v : Json := .object [
      ("ipv4", .object [("method", .string "manual"), ("routes", .array [route])]),
      ("bond", .object [("options", options)]), ("user", .object [("data", data)])]
    let w : Json := .object [("bond", .object [("options", options')]),
      ("ipv4", .object [("routes", .array [route']), ("method", .string "manual")]),
      ("user", .object [("data", data')])]
    let faulty : Json := .object [("bond", .int 1), ("vlan", .int 2)]
    let faulty' : Json := .object [("vlan", .int 2), ("bond", .int 1)]
    v.Reorders w ∧ (∃ p, ofJson v = .ok p ∧ ofJson w = .ok p)
      ∧ faulty.Reorders faulty' ∧ ofJson faulty = .error (.noProperties "bond" (.int 1))
      ∧ ofJson faulty' = .error (.noProperties "vlan" (.int 2)) := by
  intro route route' options options' data data' v w faulty faulty'
  have hroute : route.Reorders route' :=
    .object (by decide) (.swap _ _ _)
      (.cons (.mk _ (.number _)) (.cons (.mk _ (.string _)) .nil))
  have hoptions : options.Reorders options' :=
    .object (by decide) (.swap _ _ _)
      (.cons (.mk _ (.number _)) (.cons (.mk _ (.string _)) .nil))
  have hdata : data.Reorders data' :=
    .object (by decide) (.swap _ _ _) (.cons (.mk _ (.bool _)) (.cons (.mk _
      (.object (by decide) (.swap _ _ _) (.cons (.mk _ .null) (.cons (.mk _ (.number _)) .nil))))
        .nil))
  have hv : v.Reorders w := by
    refine .object (by decide) (.swap _ _ _) (.cons (.mk _ ?_) (.cons (.mk _ ?_)
      (.cons (.mk _ ?_) .nil)))
    · exact .object (by decide) (.refl _) (.cons (.mk _ hoptions) .nil)
    · exact .object (by decide) (.swap _ _ _)
        (.cons (.mk _ (.array (.cons hroute .nil))) (.cons (.mk _ (.string _)) .nil))
    · exact .object (by decide) (.refl _) (.cons (.mk _ hdata) .nil)
  have hfaulty : faulty.Reorders faulty' :=
    .object (by decide) (.swap _ _ _)
      (.cons (.mk _ (.number _)) (.cons (.mk _ (.number _)) .nil))
  refine ⟨hv, ?_, hfaulty, rfl, rfl⟩
  have hread : (ofJson v).toOption.isSome = true := by decide +kernel
  rcases ofJson_eq_of_reorders hv with hsame | ⟨⟨e, he⟩, -⟩
  · exact hsame
  · rw [he] at hread
    cases hread

end Profile

end ProfileMatch
