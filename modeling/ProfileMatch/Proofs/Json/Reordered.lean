import Mathlib.Data.List.Forall2
import Mathlib.Tactic.Common
import ProfileMatch.Proofs.Json.Members
import ProfileMatch.Proofs.Reading
/-!
JSON values in which members stand in another order.

* `Json.Reorders`: two values that differ in the order of members alone, in objects at any depth;
* `Json.Reorders.lookup_cases`: lookups in two such objects find two such values, or nothing in
  both;
* `Json.Reorders.bind_member?_eq`: so what is read of a member does not depend on the order, if its
  reader does not;
* `Json.Reorders.toOption_foldlM_enter_eq`: and the same holds of what is read of all members in
  turn. Which fault is found first does depend on it, but not whether there is one.
-/

namespace ProfileMatch.Json

/-- Members of one name whose values are related. -/
inductive MemberRel (R : Json → Json → Prop) : String × Json → String × Json → Prop
  | mk (name : String) {x y : Json} (value : R x y) : MemberRel R (name, x) (name, y)

/-- **Values that differ in the order of members alone**: in an object, whose members have distinct
names, they can change their places, and the same holds in the values of members and the items of
arrays. -/
inductive Reorders : Json → Json → Prop
  | null : Reorders .null .null
  | bool (b : Bool) : Reorders (.bool b) (.bool b)
  | number (n : Json.Number) : Reorders (.number n) (.number n)
  | string (s : String) : Reorders (.string s) (.string s)
  | array {xs ys : List Json} (items : List.Forall₂ Reorders xs ys) :
      Reorders (.array xs) (.array ys)
  | object {ms ns os : List (String × Json)} (names : (memberNames ms).Nodup) (order : ms.Perm ns)
      (members : List.Forall₂ (MemberRel Reorders) ns os) : Reorders (.object ms) (.object os)

/-! ### Related members -/

section Members

variable {R : Json → Json → Prop} {ms os : List (String × Json)}

lemma memberNames_eq_of_forall₂ (h : List.Forall₂ (MemberRel R) ms os) :
    memberNames ms = memberNames os := by
  induction h with
  | nil => rfl
  | cons hm _ ih =>
      cases hm with
      | mk name _ => exact congrArg (name :: ·) ih

/-- Among related members lookups find related values, or nothing on either side. -/
lemma lookup_cases_of_forall₂ (h : List.Forall₂ (MemberRel R) ms os) (name : String) :
    (ms.lookup name = none ∧ os.lookup name = none)
      ∨ ∃ x y, ms.lookup name = some x ∧ os.lookup name = some y ∧ R x y := by
  induction h with
  | nil => exact .inl ⟨rfl, rfl⟩
  | cons hm _ ih =>
      cases hm with
      | @mk name' x y hvalue =>
          rw [Table.lookup_cons, Table.lookup_cons]
          by_cases hname : name = name'
          · rw [if_pos hname, if_pos hname]
            exact .inr ⟨x, y, rfl, rfl, hvalue⟩
          · rw [if_neg hname, if_neg hname]
            exact ih

end Members

namespace Reorders

/-! ### Scalars -/

section Values

variable {x y : Json}

lemma scalarText?_eq (h : x.Reorders y) : x.scalarText? = y.scalarText? := by
  cases h <;> rfl

lemma string?_eq (h : x.Reorders y) : x.string? = y.string? := by
  cases h <;> rfl

lemma within?_eq (r : IntegerRange) (h : x.Reorders y) : x.within? r = y.within? r := by
  cases h <;> rfl

/-- Items are read alike one by one. -/
lemma mapM_eq {α : Type} {read : Json → Option α} {xs ys : List Json}
    (h : List.Forall₂ Reorders xs ys) (hread : ∀ x y, Reorders x y → read x = read y) :
    xs.mapM read = ys.mapM read := by
  induction h with
  | nil => rfl
  | cons hitem _ ih => rw [List.mapM_cons, List.mapM_cons, hread _ _ hitem, ih]

/-- Of the items that can be read, the same is read. -/
lemma filterMap_eq {α : Type} {read : Json → Option α} {xs ys : List Json}
    (h : List.Forall₂ Reorders xs ys) (hread : ∀ x y, Reorders x y → read x = read y) :
    xs.filterMap read = ys.filterMap read := by
  induction h with
  | nil => rfl
  | cons hitem _ ih => rw [List.filterMap_cons, List.filterMap_cons, hread _ _ hitem, ih]

end Values

/-! ### Objects -/

section Objects

variable {ms os : List (String × Json)}

lemma nodup_left (h : Reorders (.object ms) (.object os)) : (memberNames ms).Nodup := by
  cases h with
  | object names order members => exact names

lemma nodup_right (h : Reorders (.object ms) (.object os)) : (memberNames os).Nodup := by
  cases h with
  | object names order members =>
      rw [← memberNames_eq_of_forall₂ members]
      exact (order.map Prod.fst).nodup_iff.mp names

/-- **Lookups** in two objects that differ in the order of members find two such values, or nothing
in both. -/
lemma lookup_cases (h : Reorders (.object ms) (.object os)) (name : String) :
    (ms.lookup name = none ∧ os.lookup name = none)
      ∨ ∃ x y, ms.lookup name = some x ∧ os.lookup name = some y ∧ Reorders x y := by
  cases h with
  | @object _ ns _ names order members =>
      have hnames : (ns.map Prod.fst).Nodup := (order.map Prod.fst).nodup_iff.mp names
      rw [Table.lookup_eq_of_perm order hnames]
      exact lookup_cases_of_forall₂ members name

/-- What is read of the member of a name is the same. -/
lemma bind_lookup_eq {α : Type} {read : Json → Option α}
    (h : Reorders (.object ms) (.object os)) (hread : ∀ x y, Reorders x y → read x = read y)
    (name : String) : (ms.lookup name).bind read = (os.lookup name).bind read := by
  rcases h.lookup_cases name with ⟨hms, hos⟩ | ⟨x, y, hms, hos, hvalue⟩
  · rw [hms, hos]
  · rw [hms, hos, Option.bind_some, Option.bind_some, hread x y hvalue]

/-- What holds of each member of the one holds of each member of the other. -/
lemma forall_mem_iff {P : String → Json → Prop} (h : Reorders (.object ms) (.object os))
    (hP : ∀ name x y, Reorders x y → (P name x ↔ P name y)) :
    (∀ m ∈ ms, P m.1 m.2) ↔ ∀ m ∈ os, P m.1 m.2 := by
  have hlookup : ∀ {ms : List (String × Json)}, (memberNames ms).Nodup →
      ((∀ m ∈ ms, P m.1 m.2) ↔ ∀ name, ∀ x ∈ ms.lookup name, P name x) := by
    intro ms hnames
    constructor
    · exact fun hall name x hx => hall (name, x) (Table.mem_of_lookup hx)
    · exact fun hall m hm =>
        hall m.1 m.2 ((Table.lookup_eq_some_iff_of_nodup hnames).mpr hm)
  rw [hlookup h.nodup_left, hlookup h.nodup_right]
  refine forall_congr' fun name => ?_
  rcases h.lookup_cases name with ⟨hms, hos⟩ | ⟨x, y, hms, hos, hvalue⟩
  · rw [hms, hos]
  · rw [hms, hos]
    simpa using hP name x y hvalue

/-- **Members in turn**: a reader that puts what it reads of each member under its name succeeds on
both objects with the same, or on neither. -/
lemma toOption_foldlM_enter_eq {α ε : Type} {read : String → Json → Except ε (Option α)}
    (h : Reorders (.object ms) (.object os))
    (hread : ∀ name x y, Reorders x y → (read name x).toOption = (read name y).toOption)
    (t : Table α) :
    (ms.foldlM (Table.enter read) t).toOption = (os.foldlM (Table.enter read) t).toOption := by
  have hall : (∀ m ∈ ms, ∃ o, read m.1 m.2 = .ok o) ↔ ∀ m ∈ os, ∃ o, read m.1 m.2 = .ok o := by
    refine h.forall_mem_iff (P := fun name x => ∃ o, read name x = .ok o) fun name x y hxy => ?_
    simp only [← toOption_eq_some_iff, hread name x y hxy]
  have hunder : ∀ name, Table.readUnder read ms name = Table.readUnder read os name :=
    fun name => h.bind_lookup_eq (fun x y hxy => by rw [hread name x y hxy]) name
  ext t'
  rw [toOption_eq_some_iff, toOption_eq_some_iff,
    Table.foldlM_enter_eq_ok_iff h.nodup_left, Table.foldlM_enter_eq_ok_iff h.nodup_right, hall]
  simp only [hunder]

end Objects

/-- What is read of a member by its name is the same. -/
lemma bind_member?_eq {α : Type} {read : Json → Option α} {x y : Json} (h : x.Reorders y)
    (hread : ∀ x y, Reorders x y → read x = read y) (name : String) :
    (x.member? name).bind read = (y.member? name).bind read := by
  cases x with
  | object ms =>
      cases y with
      | object os => exact h.bind_lookup_eq hread name
      | _ => cases h
  | _ => cases h; rfl

end Reorders

end ProfileMatch.Json
