import Mathlib.Tactic.Common
import Mathlib.Tactic.Ring
import ProfileMatch.Proofs.Address.Masking
/-!
Networks as numbers.

* `truncated`, `value_network_eq`: the number of a network is that of the address without the
  remainder by a power of two;
* `masked_network`: clearing the bits of a network again changes nothing;
* `compare_octets`: octets, as many on one side as on the other, are in the order of their numbers;
* `maskedTraced`: clearing bits with a record of the shifts made for it. It finds the same octets
  (`maskedTraced_fst`) and shifts at most once, in the octet in which the prefix ends, by what the
  prefix leaves of that octet (`maskedTraced_snd`), so by 1 to 7 places.
-/

namespace ProfileMatch.Address

variable {length start : ℕ} {o : UInt8} {os os' : List UInt8}

/-! ### Numbers of networks -/

/-- The number of an address rounded down to a multiple of the power of two that the bits behind a
prefix make. -/
def truncated (a : Address) (length : ℕ) : ℕ :=
  a.value - a.value % 2 ^ (a.family.width - length)

lemma value_network_eq (a : Address) (length : ℕ) :
    (a.network length).value = a.truncated length := by
  rw [value_network, truncated, Nat.div_mul_self_eq_mod_sub_self]

/-- A network has no bits left to be cleared. -/
lemma masked_network (a : Address) (length : ℕ) :
    (a.network length).masked length = a.masked length := by
  refine valueOf_injective (length_maskFrom length 0 (a.masked length)) ?_
  have htwice := value_network (a.network length) length
  rw [value_network a length, show (a.network length).family = a.family from rfl,
    Nat.mul_div_cancel _ (Nat.two_pow_pos _), ← value_network a length] at htwice
  exact htwice

/-! ### The order of octets -/

/-- Numbers of two digits are compared by the first digit, and by the second where the first is the
same. -/
lemma compare_mul_add {x x' y y' b : ℕ} (hy : y < b) (hy' : y' < b) :
    compare (x * b + y) (x' * b + y') = (compare x x').then (compare y y') := by
  have hless : ∀ {u v w : ℕ} (z : ℕ), u < v → w < b → u * b + w < v * b + z := by
    intro u v w z huv hw
    calc u * b + w < u * b + b := by omega
      _ = (u + 1) * b := by ring
      _ ≤ v * b := Nat.mul_le_mul_right b huv
      _ ≤ v * b + z := Nat.le_add_right _ z
  rcases Nat.lt_trichotomy x x' with hx | rfl | hx
  · rw [Nat.compare_eq_lt.mpr hx, Nat.compare_eq_lt.mpr (hless y' hx hy)]
    rfl
  · rw [Nat.compare_eq_eq.mpr rfl, Ordering.eq_then]
    rcases Nat.lt_trichotomy y y' with hyy | rfl | hyy
    · rw [Nat.compare_eq_lt.mpr hyy, Nat.compare_eq_lt.mpr (by omega)]
    · rw [Nat.compare_eq_eq.mpr rfl, Nat.compare_eq_eq.mpr rfl]
    · rw [Nat.compare_eq_gt.mpr hyy, Nat.compare_eq_gt.mpr (by omega)]
  · rw [Nat.compare_eq_gt.mpr hx, Nat.compare_eq_gt.mpr (hless y hx hy')]
    rfl

lemma compare_octet (o o' : UInt8) : compare o o' = compare o.toNat o'.toNat := by
  rcases Nat.lt_trichotomy o.toNat o'.toNat with h | h | h
  · rw [Nat.compare_eq_lt.mpr h, Std.compare_eq_lt]
    exact UInt8.lt_iff_toNat_lt.mpr h
  · rw [UInt8.toNat_inj.mp h, Std.compare_self, Std.compare_self]
  · rw [Nat.compare_eq_gt.mpr h, Std.compare_eq_gt]
    exact UInt8.lt_iff_toNat_lt.mpr h

/-- **Octets are in the order of their numbers**, as long as there are as many on both sides. -/
lemma compare_octets (hlength : os.length = os'.length) :
    compare os os' = compare (valueOf os) (valueOf os') := by
  induction os generalizing os' with
  | nil =>
      rw [List.eq_nil_of_length_eq_zero hlength.symm]
      rfl
  | cons o os ih =>
      cases os' with
      | nil => exact absurd hlength (by simp)
      | cons o' os' =>
          have hrest : os.length = os'.length := by simpa using hlength
          have hlt := valueOf_lt os
          rw [hrest] at hlt
          rw [List.compare_cons_cons, ih hrest, valueOf_cons, valueOf_cons, hrest, compare_octet,
            compare_mul_add hlt (valueOf_lt os')]

/-! ### Shifts -/

/-- What is left of an octet as `maskOctet` finds it, with the number of places by which ones are
shifted for that, if they are. -/
def maskOctetTraced (length start : ℕ) (o : UInt8) : UInt8 × List ℕ :=
  if length ≤ start then (0, [])
  else if start + 8 ≤ length then (o, [])
  else (o &&& (0xff <<< UInt8.ofNat (8 - (length - start))), [8 - (length - start)])

/-- What is left of octets as `maskFrom` finds it, with the places of all shifts, in order. -/
def maskFromTraced (length start : ℕ) : List UInt8 → List UInt8 × List ℕ
  | [] => ([], [])
  | o :: os =>
    ((maskOctetTraced length start o).1 :: (maskFromTraced length (start + 8) os).1,
      (maskOctetTraced length start o).2 ++ (maskFromTraced length (start + 8) os).2)

/-- The octets with all but the first `length` bits cleared, with the places of all shifts. -/
def maskedTraced (a : Address) (length : ℕ) : List UInt8 × List ℕ :=
  maskFromTraced length 0 a.octets

lemma maskOctetTraced_fst : (maskOctetTraced length start o).1 = maskOctet length start o := by
  rw [maskOctetTraced, maskOctet]
  split_ifs <;> rfl

lemma maskFromTraced_fst : (maskFromTraced length start os).1 = maskFrom length start os := by
  induction os generalizing start with
  | nil => rfl
  | cons o os ih => rw [maskFromTraced, maskFrom, maskOctetTraced_fst, ih]

/-- The record changes nothing of what is found. -/
lemma maskedTraced_fst (a : Address) (length : ℕ) : (a.maskedTraced length).1 = a.masked length :=
  maskFromTraced_fst

/-- Ones are shifted for an octet only if the prefix ends within it, by the bits behind its end. -/
lemma maskOctetTraced_snd (hstart : 8 ∣ start) :
    (maskOctetTraced length start o).2
      = if start < length ∧ length < start + 8 then [8 - length % 8] else [] := by
  rw [maskOctetTraced]
  by_cases hbefore : length ≤ start
  · rw [if_pos hbefore, if_neg (by omega)]
  · by_cases hbehind : start + 8 ≤ length
    · rw [if_neg hbefore, if_pos hbehind, if_neg (by omega)]
    · rw [if_neg hbefore, if_neg hbehind, if_pos (by omega),
        show 8 - (length - start) = 8 - length % 8 by omega]

/-- Over all octets, ones are shifted if the prefix ends within one of them. -/
lemma maskFromTraced_snd (hstart : 8 ∣ start) :
    (maskFromTraced length start os).2
      = if start < length ∧ length < start + 8 * os.length ∧ ¬ 8 ∣ length then [8 - length % 8]
        else [] := by
  induction os generalizing start with
  | nil => rw [maskFromTraced, if_neg (by rw [List.length_nil]; omega)]
  | cons o os ih =>
      rw [maskFromTraced, maskOctetTraced_snd hstart, ih (by omega), List.length_cons]
      by_cases hfirst : start < length ∧ length < start + 8
      · rw [if_pos hfirst, if_neg (by omega), if_pos (by omega), List.append_nil]
      · rw [if_neg hfirst, List.nil_append]
        by_cases hrest : start + 8 < length ∧ length < start + 8 + 8 * os.length ∧ ¬ 8 ∣ length
        · rw [if_pos hrest, if_pos (by omega)]
        · rw [if_neg hrest, if_neg (by omega)]

/-- **Shifts**: there is one if the prefix ends within an octet, by the bits of that octet behind
the end, and none else. -/
lemma maskedTraced_snd {a : Address} (hlength : length ≤ a.family.width) :
    (a.maskedTraced length).2 = if 8 ∣ length then [] else [8 - length % 8] := by
  have hwidth : a.family.width = 8 * a.octets.length := by rw [a.length_octets, Family.width_eq]
  rw [maskedTraced, maskFromTraced_snd (Nat.dvd_zero 8)]
  by_cases hends : 8 ∣ length
  · rw [if_neg (by omega), if_pos hends]
  · rw [if_pos (by omega), if_neg hends]

end ProfileMatch.Address
