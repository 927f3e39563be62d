import Mathlib.Tactic.Common
import ProfileMatch.Json.Basic
import ProfileMatch.Proofs.Number.Digits
/-!
What is read off scalars.

* `Json.holds_of_within?`, `Json.within?_eq_some_iff`: an integer of a range;
* `Json.eq_empty_of_scalarText?`: a text, which is empty for the empty text alone.
-/

namespace ProfileMatch.Json

variable {value : Json}

lemma Number.holds_of_within? {r : IntegerRange} {n : Json.Number} {i : Int}
    (h : n.within? r = some i) : r.holds i = true := by
  cases n with
  | whole j =>
      rw [within?] at h
      split_ifs at h with hholds
      rwa [← Option.some.inj h]
  | double d => cases h

lemma Number.text_ne_empty (n : Json.Number) : n.text ≠ "" := by
  cases n with
  | whole i => exact ProfileMatch.Number.decimal_ne_empty i
  | double d => exact d.text_ne_empty

/-- An integer that is read in a range lies in it. -/
lemma holds_of_within? {r : IntegerRange} {i : Int} (h : value.within? r = some i) :
    r.holds i = true := by
  cases value with
  | number n => exact Number.holds_of_within? h
  | null => cases h
  | bool b => cases h
  | string s => cases h
  | array items => cases h
  | object members => cases h

/-- An integer is read in a range exactly if it lies in it. -/
lemma within?_eq_some_iff {r : IntegerRange} {i : Int} :
    value.within? r = some i ↔ value = .int i ∧ r.holds i = true := by
  constructor
  · intro h
    refine ⟨?_, holds_of_within? h⟩
    cases value with
    | number n =>
        cases n with
        | whole j =>
            rw [within?, Number.within?] at h
            split_ifs at h
            rw [Option.some.inj h, int]
        | double d => cases h
    | null => cases h
    | bool b => cases h
    | string s => cases h
    | array items => cases h
    | object members => cases h
  · rintro ⟨rfl, h⟩
    exact if_pos h

/-- Only the empty text stands for it. -/
lemma eq_empty_of_scalarText? (h : value.scalarText? = some "") : value = .string "" := by
  cases value with
  | string s => exact congrArg Json.string (Option.some.inj h)
  | number n => exact absurd (Option.some.inj h) n.text_ne_empty
  | bool b => cases b <;> exact absurd (Option.some.inj h) (by decide)
  | null => cases h
  | array items => cases h
  | object members => cases h

end ProfileMatch.Json
