import Mathlib.Data.List.Perm.Basic
import Mathlib.Tactic.Common
import ProfileMatch.Proofs.Json.Reordered
import ProfileMatch.Proofs.Profile.Members
/-!
What a profile keeps of properties that the schema does not hold.

* `Json.Preserved`: a value that is written as it was read, up to the order of members and to
  scalars that are written as texts;
* `Json.preserved_iff`: of a value whose scalars inside are kept in this way, the whole is kept
  exactly if all that is inside is a scalar, since whatever else is there is lost;
* `Value.exists_preserved_of_ofUnknown`: the scalars inside of a value are kept where the schema
  does not hold the property;
* `Profile.settings_and_unknown_preserved`: so all settings of a profile are written again, and of
  a property that the schema does not hold the scalars are, but nothing that is nested deeper;
* `Profile.exists_unknown_not_preserved`: a list in a list and a null are lost without a word.
-/

namespace ProfileMatch

/-! ### Values written again -/

namespace Json

/-- What is inside of a value: the items of an array, the values of the members of an object. -/
def parts : Json → List Json
  | array items => items
  | object ms => ms.map Prod.snd
  | _ => []

/-- A value in which only scalars are left inside: no nulls, arrays or objects. -/
def pruned : Json → Json
  | array items => array (items.filter fun x => x.scalarText?.isSome)
  | object ms => object (ms.filter fun m => m.2.scalarText?.isSome)
  | x => x

/-- What the inside of a value may be written as: a scalar as the text that it stands for, all else
as it is. -/
inductive WrittenInside : Json → Json → Prop
  | same (x : Json) : WrittenInside x x
  | null : WrittenInside .null (.string "null")
  | scalar {x : Json} {s : String} (text : x.scalarText? = some s) : WrittenInside x (.string s)
  | array {xs ys : List Json} (items : List.Forall₂ WrittenInside xs ys) :
      WrittenInside (.array xs) (.array ys)
  | object {ms os : List (String × Json)} (members : List.Forall₂ (MemberRel WrittenInside) ms os) :
      WrittenInside (.object ms) (.object os)

/-- What a value may be written as: itself, where a number that has no 64 bits may be a text, and so
may the scalars inside. -/
inductive WrittenAs : Json → Json → Prop
  | same (x : Json) : WrittenAs x x
  | number {n : Json.Number} (h : n.within? .i64 = none) : WrittenAs (.number n) (.string n.text)
  | array {xs ys : List Json} (items : List.Forall₂ WrittenInside xs ys) :
      WrittenAs (.array xs) (.array ys)
  | object {ms os : List (String × Json)} (members : List.Forall₂ (MemberRel WrittenInside) ms os) :
      WrittenAs (.object ms) (.object os)

/-- **Preserved values**: up to the order of members the one is written as the other. -/
def Preserved (x y : Json) : Prop :=
  ∃ w, x.Reorders w ∧ w.WrittenAs y

variable {x y : Json}

/-- A scalar has no members, so it is not reordered. -/
lemma Reorders.of_scalarText? (h : x.scalarText?.isSome = true) : x.Reorders x := by
  cases x with
  | bool b => exact .bool b
  | number n => exact .number n
  | string s => exact .string s
  | null => cases h
  | array items => cases h
  | object ms => cases h

/-! ### Nothing is lost of a preserved value -/

lemma Reorders.length_parts (h : x.Reorders y) : x.parts.length = y.parts.length := by
  cases h with
  | array items => exact items.length_eq
  | object names order members =>
      rw [parts, parts, List.length_map, List.length_map, order.length_eq, members.length_eq]
  | _ => rfl

lemma WrittenAs.length_parts (h : x.WrittenAs y) : x.parts.length = y.parts.length := by
  cases h with
  | array items => exact items.length_eq
  | object members => rw [parts, parts, List.length_map, List.length_map, members.length_eq]
  | _ => rfl

/-- **As many items or members** are written as there were. -/
lemma Preserved.length_parts (h : x.Preserved y) : x.parts.length = y.parts.length := by
  obtain ⟨w, horder, hwritten⟩ := h
  exact horder.length_parts.trans hwritten.length_parts

lemma parts_pruned (x : Json) : x.pruned.parts = x.parts.filter fun x => x.scalarText?.isSome := by
  cases x with
  | object ms => rw [pruned, parts, parts, List.filter_map]; rfl
  | _ => rfl

/-- Of a value with nothing but scalars inside, all is left. -/
lemma pruned_eq_self (h : ∀ part ∈ x.parts, part.scalarText?.isSome = true) : x.pruned = x := by
  cases x with
  | array items => exact congrArg array (List.filter_eq_self.mpr h)
  | object ms =>
      refine congrArg object (List.filter_eq_self.mpr fun m hm => ?_)
      exact h m.2 (List.mem_map_of_mem hm)
  | _ => rfl

/-- **Preserved as a whole**: if the scalars inside of a value are preserved, the value itself is
exactly if there is nothing else inside. -/
lemma preserved_iff (h : x.pruned.Preserved y) :
    x.Preserved y ↔ ∀ part ∈ x.parts, part.scalarText?.isSome = true := by
  constructor
  · intro hwhole
    have hlength : x.pruned.parts.length = x.parts.length := calc
      x.pruned.parts.length = y.parts.length := h.length_parts
      _ = x.parts.length := hwhole.length_parts.symm
    rw [parts_pruned] at hlength
    exact List.length_filter_eq_length_iff.mp hlength
  · intro hall
    rwa [pruned_eq_self hall] at h

end Json

/-! ### Values that the schema does not hold -/

namespace Value

open Json (MemberRel Preserved Reorders WrittenInside)

lemma preserved_items (items : List Json) :
    (Json.array items).pruned.Preserved
      (.array ((items.filterMap Json.scalarText?).map .string)) := by
  refine ⟨_, .array (List.forall₂_same.mpr fun x hx => ?_), .array ?_⟩
  · exact Reorders.of_scalarText? (List.mem_filter.mp hx).2
  · exact List.forall₂_map_right_iff.mpr (forall₂_filter_filterMap.imp fun x s hs => .scalar hs)

/-- The members come in the order of their names. -/
lemma preserved_members {ms : List (String × Json)} (h : (Json.memberNames ms).Nodup) :
    (Json.object ms).pruned.Preserved (Value.map (.ofList (ms.filterMap readEntry))).toJson := by
  have hentries : (ms.filterMap readEntry).map Prod.fst |>.Nodup :=
    Table.nodup_map_fst_filterMap h
  have hread : List.Forall₂ (fun e m => readEntry m = some e) (ms.filterMap readEntry)
      (ms.filter fun m => (readEntry m).isSome) := forall₂_filter_filterMap.flip
  obtain ⟨ns, hns, horder⟩ := List.perm_comp_forall₂ (Table.perm_entries_ofList hentries) hread
  have hscalar : (fun m : String × Json => (readEntry m).isSome)
      = fun m => m.2.scalarText?.isSome := by
    funext m
    rw [readEntry, Option.isSome_map]
  rw [hscalar] at horder
  refine ⟨.object ns, .object ?_ horder.symm (List.forall₂_same.mpr fun m hm => ?_), .object ?_⟩
  · exact h.sublist (List.filter_sublist.map Prod.fst)
  · have hm : m.2.scalarText?.isSome = true := (List.mem_filter.mp (horder.mem_iff.mp hm)).2
    exact .mk m.1 (Reorders.of_scalarText? hm)
  · refine List.forall₂_map_right_iff.mpr (hns.flip.imp fun m e he => ?_)
    obtain ⟨s, hs, rfl⟩ := Option.map_eq_some_iff.mp he
    exact .mk m.1 (.scalar hs)

/-- **Scalars are preserved** of a value that is read without the schema. -/
lemma exists_preserved_of_ofUnknown {x : Json} (hx : x ≠ .null)
    (hnames : (Json.memberNames x.members).Nodup) :
    ∃ w, ofUnknown x = some w ∧ x.pruned.Preserved w.toJson := by
  cases x with
  | null => exact absurd rfl hx
  | bool b => exact ⟨.bool b, rfl, _, .bool b, .same _⟩
  | number n =>
      rw [ofUnknown]
      cases hwithin : n.within? .i64 with
      | some i =>
          have hjson : (Json.number n).within? .i64 = some i := hwithin
          rw [(Json.within?_eq_some_iff.mp hjson).1]
          exact ⟨.int i, rfl, _, .number _, .same _⟩
      | none => exact ⟨.text n.text, rfl, _, .number n, .number hwithin⟩
  | string s => exact ⟨.text s, rfl, _, .string s, .same _⟩
  | array items => exact ⟨_, rfl, preserved_items items⟩
  | object ms => exact ⟨_, rfl, preserved_members hnames⟩

end Value

/-! ### Profiles -/

namespace Profile

variable {v : Json} {p : Profile} {k : Key}

lemma member?_toJson (p : Profile) (setting : String) :
    p.toJson.member? setting = (p.settings.get? setting).map settingToJson :=
  Table.get?_mapValues settingToJson p.settings setting

/-- What is stored is written. -/
lemma property?_toJson (p : Profile) (k : Key) :
    p.toJson.property? k = (p.get? k).map Value.toJson := by
  rw [Json.property?, member?_toJson, get?, Option.bind_map, Option.map_bind]
  refine congrArg _ (funext fun s => ?_)
  exact Table.get?_mapValues Value.toJson s k.property

/-- Settings are written again, also those without properties. -/
lemma isSome_member?_toJson (h : ofJson v = .ok p) (hnames : v.DistinctNames) (setting : String) :
    (p.toJson.member? setting).isSome = (v.member? setting).isSome := by
  rw [member?_toJson, Option.isSome_map, ← hasSetting_of_ofJson h hnames, hasSetting,
    Table.contains]

/-- **What is preserved**: of a JSON value that is read as a profile all settings are written again,
and no others. A property that the schema does not hold is written again unless it is null; the
scalars inside of it are preserved, and the whole of it exactly if nothing else is inside: nulls,
arrays and objects in an array or an object are left out. -/
theorem settings_and_unknown_preserved (h : ofJson v = .ok p) (hnames : v.DistinctNames) :
    (∀ setting, (p.toJson.member? setting).isSome = (v.member? setting).isSome)
      ∧ ∀ k x, Property.of? k = none → v.property? k = some x → x ≠ .null →
          (Json.memberNames x.members).Nodup →
          ∃ y, p.toJson.property? k = some y ∧ x.pruned.Preserved y
            ∧ (x.Preserved y ↔ ∀ part ∈ x.parts, part.scalarText?.isSome = true) := by
  refine ⟨isSome_member?_toJson h hnames, fun k x hk hx hnull hmembers => ?_⟩
  obtain ⟨w, hw, hpruned⟩ := Value.exists_preserved_of_ofUnknown hnull hmembers
  have hread := ofJson_property? h hnames hx
  rw [Value.ofJson_of_ne_null hnull, hk, hw] at hread
  refine ⟨w.toJson, ?_, hpruned, Json.preserved_iff hpruned⟩
  rw [property?_toJson, ← Except.ok.inj hread, Option.map_some]

/-- A setting that is null, a map whose members are not in order, and a list of an unknown property
of a known setting. -/
theorem settings_and_unknown_preserved_flat :
    let data : Json := .object [("b", .bool true), ("a", .int 5)]
    let notes : Json := .array [.int 1, .string "x"]
    let v : Json := .object [("user", .object [("data", data)]), ("bond", .null),
      ("connection", .object [("notes", notes)])]
    ∃ p, ofJson v = .ok p ∧ (p.toJson.member? "bond").isSome = true
      ∧ (∃ y, p.toJson.property? ⟨"user", "data"⟩ = some y ∧ data.Preserved y)
      ∧ ∃ y, p.toJson.property? ⟨"connection", "notes"⟩ = some y ∧ notes.Preserved y := by
  intro data notes v
  have hv : ofJson v = .ok (((Profile.empty.set ⟨"user", "data"⟩
      (.map (.ofList [("b", "true"), ("a", "5")]))).addSetting "bond").set ⟨"connection", "notes"⟩
        (.list ["1", "x"])) :=
    eq_ok_of_toOption (by decide +kernel)
  obtain ⟨hsettings, hproperties⟩ := settings_and_unknown_preserved hv (by decide)
  refine ⟨_, hv, hsettings "bond", ?_, ?_⟩
  · obtain ⟨y, hy, -, hwhole⟩ :=
      hproperties ⟨"user", "data"⟩ data (by decide) rfl (by simp [data]) (by decide)
    exact ⟨y, hy, hwhole.mpr (by simp [data, Json.parts, Json.scalarText?, Json.int])⟩
  · obtain ⟨y, hy, -, hwhole⟩ :=
      hproperties ⟨"connection", "notes"⟩ notes (by decide) rfl (by simp [notes]) (by decide)
    exact ⟨y, hy, hwhole.mpr (by simp [notes, Json.parts, Json.scalarText?, Json.int])⟩

/-- **Losses without a word**: a list in a list, and a null in a map. -/
theorem exists_unknown_not_preserved :
    let data : Json := .array [.string "a", .array [.string "b"]]
    let notes : Json := .object [("a", .string "1"), ("b", .null)]
    let v : Json := .object [("user", .object [("data", data), ("notes", notes)])]
    ∃ p, ofJson v = .ok p
      ∧ (∃ y, p.toJson.property? ⟨"user", "data"⟩ = some y ∧ ¬data.Preserved y)
      ∧ ∃ y, p.toJson.property? ⟨"user", "notes"⟩ = some y ∧ ¬notes.Preserved y := by
  intro data notes v
  have hv : ofJson v = .ok ((Profile.empty.set ⟨"user", "data"⟩ (.list ["a"])).set
      ⟨"user", "notes"⟩ (.map (.ofList [("a", "1")]))) :=
    eq_ok_of_toOption (by decide +kernel)
  refine ⟨_, hv, ⟨_, rfl, fun h => ?_⟩, _, rfl, fun h => ?_⟩
  · exact absurd h.length_parts (by decide)
  · exact absurd h.length_parts (by decide)

end Profile

end ProfileMatch
