import Mathlib.Tactic.Common
import ProfileMatch.Proofs.Address.Spelling
import ProfileMatch.Route.Reader
/-!
Prefixes: an address, and behind a slash a length, which may be left out.

* `WritesPrefix`: the form of such a text, with lengths of a range of integers;
* `writesPrefix_iff`: no address has a slash in it, so that the text is cut at its first slash;
* `Route.readDestination_eq_ok_iff`: the destinations that are read are of this form, with lengths
  that the address has room for.
-/

namespace ProfileMatch

/-- A text writes a prefix: an address alone, or an address, a slash and a length. -/
inductive WritesPrefix (range : IntegerRange) : String → Address → Option ℕ → Prop
  | host {text : String} {a : Address} (h : Address.read? text = some a) :
      WritesPrefix range text a none
  | network {front back : String} {a : Address} {n : ℕ} (h : Address.read? front = some a)
      (hn : range.read? back = some (n : Int)) :
      WritesPrefix range (front ++ "/" ++ back) a (some n)

namespace Route

/-! ### The cut at the slash -/

section Cut

variable {text front : String} {a : Address}

lemma slash_notMem_of_read? (h : Address.read? text = some a) : '/' ∉ text.toList := by
  intro hmem
  rw [Address.read?_eq_none_of_mem Address.foreign_slash hmem] at h
  cases h

/-- A text without a slash is not cut. -/
lemma cutPrefix_of_notMem (h : '/' ∉ text.toList) : cutPrefix text = (text, none) := by
  rw [cutPrefix, Text.cut?_eq_none_iff.mpr h]

/-- A text with a slash has something behind it. -/
lemma exists_of_slash_mem (h : '/' ∈ text.toList) : ∃ back, (cutPrefix text).2 = some back := by
  rw [cutPrefix]
  cases hcut : Text.cut? '/' text.toList with
  | none => exact absurd h (Text.cut?_eq_none_iff.mp hcut)
  | some sides => exact ⟨_, rfl⟩

/-- A text is cut at the first slash. -/
lemma cutPrefix_append (h : '/' ∉ front.toList) (back : String) :
    cutPrefix (front ++ "/" ++ back) = (front, some back) := by
  have hchars : (front ++ "/" ++ back).toList = front.toList ++ '/' :: back.toList := by simp
  rw [cutPrefix, hchars, Text.cut?_append h]
  simp

/-- A text is left whole, or it has a slash at which it is cut. -/
lemma cutPrefix_cases (text : String) :
    cutPrefix text = (text, none)
      ∨ ∃ front back, text = front ++ "/" ++ back ∧ cutPrefix text = (front, some back) := by
  by_cases h : '/' ∈ text.toList
  · right
    obtain ⟨front, back, hchars, hfront⟩ := List.eq_append_cons_of_mem h
    have htext : text = String.ofList front ++ "/" ++ String.ofList back := by
      rw [← String.toList_inj, hchars]
      simp
    refine ⟨_, _, htext, ?_⟩
    conv_lhs => rw [htext]
    exact cutPrefix_append (by simpa using hfront) _
  · exact .inl (cutPrefix_of_notMem h)

end Cut

end Route

/-! ### Reading prefixes -/

section Prefix

variable {range : IntegerRange} {text : String} {a : Address} {length? : Option ℕ}

/-- **The form of a prefix** is told at the first slash: an address in front of it and, if there is
one, a length behind it. -/
lemma writesPrefix_iff : WritesPrefix range text a length? ↔
    Address.read? (Route.cutPrefix text).1 = some a
      ∧ (Route.cutPrefix text).2.map range.read? = length?.map fun n => some (n : Int) := by
  constructor
  · intro h
    cases h with
    | host h =>
        rw [Route.cutPrefix_of_notMem (Route.slash_notMem_of_read? h)]
        exact ⟨h, rfl⟩
    | network h hn =>
        rw [Route.cutPrefix_append (Route.slash_notMem_of_read? h)]
        exact ⟨h, congrArg some hn⟩
  · rintro ⟨haddress, hlength⟩
    rcases Route.cutPrefix_cases text with hcut | ⟨front, back, rfl, hcut⟩
    · rw [hcut] at haddress hlength
      cases length? with
      | none => exact .host haddress
      | some n => cases hlength
    · rw [hcut] at haddress hlength
      cases length? with
      | none => cases hlength
      | some n => exact .network haddress (Option.some.inj hlength)

/-- Natural numbers are read from ranges without others. -/
lemma IntegerRange.exists_nat_of_read? {r : IntegerRange} {s : String} {i : Int}
    (hl : r.least = 0) (hg : 0 ≤ r.greatest) (h : r.read? s = some i) : ∃ n : ℕ, i = n := by
  have hbounds := IntegerRange.holds_iff.mp (IntegerRange.holds_of_read? hl.le hg h)
  exact Int.eq_ofNat_of_zero_le (hl ▸ hbounds.1)

/-- The length behind a slash is read as it is written. -/
lemma Route.readLength_eq_ok_iff (destination : String) {back? : Option String} :
    Route.readLength destination back? = .ok length? ↔
      back?.map IntegerRange.u32.read? = length?.map fun n => some (n : Int) := by
  cases back? with
  | none =>
      rw [Route.readLength]
      cases length? <;> simp
  | some back =>
      rw [Route.readLength]
      cases hread : IntegerRange.u32.read back with
      | error e =>
          have hnone : IntegerRange.u32.read? back = none := by
            rw [IntegerRange.read?, hread]
            rfl
          cases length? <;> simp [hnone]
      | ok i =>
          have hsome := IntegerRange.read?_eq_some_iff.mpr hread
          obtain ⟨n, rfl⟩ := IntegerRange.exists_nat_of_read? rfl (by decide) hsome
          cases length? <;> simp [hsome]

/-- An address and a length go together if the address has room for it. -/
lemma Route.fitLength_eq_ok_iff {destination : String} {a' : Address} {got : Option ℕ} :
    Route.fitLength destination a length? = .ok (a', got) ↔
      a = a' ∧ length? = got ∧ length?.getD a.family.width ≤ a.family.width := by
  cases length? with
  | none => simp [Route.fitLength]
  | some n =>
      rw [Route.fitLength]
      by_cases hlong : a.family.width < n
      · simp [hlong]
      · simp [hlong, Nat.le_of_not_lt hlong]

/-- **Destinations of routes** are prefixes whose length, if there is one, the address has room
for. -/
lemma Route.readDestination_eq_ok_iff :
    Route.readDestination text = .ok (a, length?) ↔
      WritesPrefix .u32 text a length? ∧ length?.getD a.family.width ≤ a.family.width := by
  rw [writesPrefix_iff, ← Route.readLength_eq_ok_iff text, Route.readDestination, bind_eq_ok_iff]
  cases haddress : Address.read? (Route.cutPrefix text).1 with
  | none =>
      constructor
      · rintro ⟨_, -, h⟩
        cases h
      · rintro ⟨⟨h, -⟩, -⟩
        cases h
  | some a' =>
      simp only [Route.fitLength_eq_ok_iff]
      constructor
      · rintro ⟨_, hlength, rfl, rfl, hfit⟩
        exact ⟨⟨rfl, hlength⟩, hfit⟩
      · rintro ⟨⟨h, hlength⟩, hfit⟩
        cases h
        exact ⟨length?, hlength, rfl, rfl, hfit⟩

end Prefix

end ProfileMatch
