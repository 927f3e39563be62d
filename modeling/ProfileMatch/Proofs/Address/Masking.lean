import Mathlib.Tactic.Common
import Mathlib.Tactic.Ring
import ProfileMatch.Address.Basic
/-!
Clearing the bits behind a prefix.

* `valueOf_cons`, `valueOf_injective`: octets are the digits of their number;
* `toNat_maskOctet`: what is left of an octet is its number rounded down to a power of two;
* `valueOf_maskFrom`: and so it is with all octets of an address;
* `bit`: the bits of an address, the most significant first;
* `masked_eq_iff`: two addresses of a family have the same network exactly if they agree on the bits
  in front.
-/

namespace ProfileMatch.Address

/-! ### Octets as digits -/

lemma foldl_octets (n : ℕ) (os : List UInt8) :
    os.foldl (fun n o => n * 256 + o.toNat) n = n * 2 ^ (8 * os.length) + valueOf os := by
  induction os generalizing n with
  | nil => simp [valueOf]
  | cons o os ih =>
      rw [valueOf, List.foldl_cons, List.foldl_cons, ih, ih (0 * 256 + o.toNat), List.length_cons]
      ring

lemma valueOf_cons (o : UInt8) (os : List UInt8) :
    valueOf (o :: os) = o.toNat * 2 ^ (8 * os.length) + valueOf os := by
  rw [valueOf, List.foldl_cons, foldl_octets, Nat.zero_mul, Nat.zero_add]

lemma valueOf_lt (os : List UInt8) : valueOf os < 2 ^ (8 * os.length) := by
  induction os with
  | nil => simp [valueOf]
  | cons o os ih =>
      have ho : o.toNat + 1 ≤ 256 := o.toNat_lt
      rw [valueOf_cons, List.length_cons]
      calc o.toNat * 2 ^ (8 * os.length) + valueOf os
          < o.toNat * 2 ^ (8 * os.length) + 2 ^ (8 * os.length) := by omega
        _ = (o.toNat + 1) * 2 ^ (8 * os.length) := by ring
        _ ≤ 256 * 2 ^ (8 * os.length) := Nat.mul_le_mul_right _ ho
        _ = 2 ^ (8 * (os.length + 1)) := by ring

/-- The first octet and the rest are quotient and remainder of the number. -/
lemma valueOf_cons_div_mod (o : UInt8) (os : List UInt8) :
    valueOf (o :: os) / 2 ^ (8 * os.length) = o.toNat
      ∧ valueOf (o :: os) % 2 ^ (8 * os.length) = valueOf os := by
  have hlt := valueOf_lt os
  rw [valueOf_cons, Nat.mul_comm]
  refine ⟨?_, ?_⟩
  · rw [Nat.mul_add_div (by omega), Nat.div_eq_of_lt hlt, Nat.add_zero]
  · rw [Nat.mul_add_mod, Nat.mod_eq_of_lt hlt]

/-- **Octets are determined by their number**, as long as it is known how many there are. -/
lemma valueOf_injective {os os' : List UInt8} (hlength : os.length = os'.length)
    (h : valueOf os = valueOf os') : os = os' := by
  induction os generalizing os' with
  | nil => exact (List.eq_nil_of_length_eq_zero hlength.symm).symm
  | cons o os ih =>
      cases os' with
      | nil => exact absurd hlength (by simp)
      | cons o' os' =>
          have hrest : os.length = os'.length := by simpa using hlength
          obtain ⟨hdiv, hmod⟩ := valueOf_cons_div_mod o os
          obtain ⟨hdiv', hmod'⟩ := valueOf_cons_div_mod o' os'
          rw [h, hrest] at hdiv hmod
          have ho : o = o' := UInt8.toNat_inj.mp (hdiv.symm.trans hdiv')
          rw [ho, ih hrest (hmod.symm.trans hmod')]

/-! ### Cleared bits -/

/-- Ones in front of `j` zeros keep all of an octet but its last `j` bits. -/
lemma toNat_and_ones_shiftLeft (o : UInt8) {j : ℕ} (hj : j < 8) :
    (o &&& (0xff <<< UInt8.ofNat j)).toNat = o.toNat / 2 ^ j * 2 ^ j := by
  have hones : ((0xff : UInt8) <<< UInt8.ofNat j).toNat = (2 ^ 8 - 1) * 2 ^ j % 2 ^ 8 := by
    have hshift : (UInt8.ofNat j).toNat % 8 = j := by simp; omega
    rw [UInt8.toNat_shiftLeft, hshift, Nat.shiftLeft_eq]
    rfl
  refine Nat.eq_of_testBit_eq fun i => ?_
  rw [UInt8.toNat_and, hones, Nat.testBit_and, Nat.testBit_mod_two_pow, Nat.testBit_mul_two_pow,
    Nat.testBit_mul_two_pow, Nat.testBit_two_pow_sub_one, Nat.testBit_div_two_pow]
  by_cases hi : i < 8
  · by_cases hij : j ≤ i
    · have hsub : i - j < 8 := by omega
      simp [hi, hij, hsub]
    · simp [hij]
  · have hfalse : o.toNat.testBit i = false := Nat.testBit_lt_two_pow
      (Nat.lt_of_lt_of_le o.toNat_lt (Nat.pow_le_pow_right (by omega) (by omega)))
    have hij : j ≤ i := by omega
    simp [hi, hij, hfalse]

/-- **What is left of an octet** is its number without the remainder by a power of two: all of it if
the prefix reaches behind it, and nothing if the prefix ends before it. -/
lemma toNat_maskOctet (length start : ℕ) (o : UInt8) :
    (maskOctet length start o).toNat
      = o.toNat / 2 ^ (start + 8 - length) * 2 ^ (start + 8 - length) := by
  have hlt : o.toNat < 2 ^ 8 := o.toNat_lt
  rw [maskOctet]
  split_ifs with hbefore hbehind
  · have hle : 2 ^ 8 ≤ 2 ^ (start + 8 - length) := Nat.pow_le_pow_right (by omega) (by omega)
    rw [Nat.div_eq_of_lt (by omega), Nat.zero_mul]
    rfl
  · rw [show start + 8 - length = 0 by omega]
    simp
  · rw [show 8 - (length - start) = start + 8 - length by omega]
    exact toNat_and_ones_shiftLeft o (by omega)

/-- Two digits of a number that is rounded down to a power of two: where the power ends in the
second, the first is kept, and else nothing of the second is. -/
lemma div_mul_two_pow_add (x y m k : ℕ) (hy : y < 2 ^ m) :
    x / 2 ^ (k - m) * 2 ^ (k - m) * 2 ^ m + y / 2 ^ k * 2 ^ k
      = (x * 2 ^ m + y) / 2 ^ k * 2 ^ k := by
  by_cases hk : k ≤ m
  · obtain ⟨j, rfl⟩ := Nat.exists_eq_add_of_le hk
    have hsplit : x * 2 ^ (k + j) + y = 2 ^ k * (x * 2 ^ j) + y := by ring
    rw [Nat.sub_eq_zero_of_le hk, hsplit, Nat.mul_add_div (Nat.two_pow_pos k), Nat.pow_zero,
      Nat.div_one]
    ring
  · obtain ⟨j, rfl⟩ := Nat.exists_eq_add_of_le (Nat.le_of_not_le hk)
    have hle : 2 ^ m ≤ 2 ^ (m + j) := Nat.pow_le_pow_right (by omega) (by omega)
    have hsplit : (x * 2 ^ m + y) / 2 ^ (m + j) = x / 2 ^ j := by
      rw [Nat.pow_add, ← Nat.div_div_eq_div_mul, Nat.mul_comm x,
        Nat.mul_add_div (Nat.two_pow_pos m), Nat.div_eq_of_lt hy, Nat.add_zero]
    rw [Nat.add_sub_cancel_left, hsplit, Nat.div_eq_of_lt (Nat.lt_of_lt_of_le hy hle)]
    ring

/-- **What is left of octets** is their number without the remainder by a power of two. -/
lemma valueOf_maskFrom (length start : ℕ) (os : List UInt8) :
    valueOf (maskFrom length start os)
      = valueOf os / 2 ^ (start + 8 * os.length - length)
        * 2 ^ (start + 8 * os.length - length) := by
  induction os generalizing start with
  | nil => simp [maskFrom, valueOf]
  | cons o os ih =>
      have hfirst : start + 8 - length = start + 8 * (os.length + 1) - length - 8 * os.length := by
        omega
      have hrest : start + 8 + 8 * os.length - length = start + 8 * (os.length + 1) - length := by
        omega
      rw [maskFrom, valueOf_cons, toNat_maskOctet, length_maskFrom, ih, valueOf_cons,
        List.length_cons, hfirst, hrest]
      exact div_mul_two_pow_add _ _ _ _ (valueOf_lt os)

/-! ### Bits -/

/-- The bits of an address, the most significant first. -/
def bit (a : Address) (i : ℕ) : Bool :=
  a.value.testBit (a.family.width - 1 - i)

section Network

variable {a b : Address} {length : ℕ}

lemma value_lt (a : Address) : a.value < 2 ^ a.family.width := by
  rw [Family.width_eq, ← a.length_octets]
  exact valueOf_lt a.octets

/-- **The number of a network** is that of the address without the remainder by a power of two. -/
lemma value_network (a : Address) (length : ℕ) :
    (a.network length).value
      = a.value / 2 ^ (a.family.width - length) * 2 ^ (a.family.width - length) := by
  have h := valueOf_maskFrom length 0 a.octets
  rwa [Nat.zero_add, a.length_octets, ← Family.width_eq] at h

/-- The bits in front are those of the number without the last bits. -/
lemma bit_eq_testBit_div {i : ℕ} (hi : i < length) (hlength : length ≤ a.family.width) :
    a.bit i = (a.value / 2 ^ (a.family.width - length)).testBit (length - 1 - i) := by
  rw [Nat.testBit_div_two_pow, bit]
  congr 1
  omega

/-- Numbers of networks are the same exactly if the bits in front are. -/
lemma div_two_pow_eq_iff (hfamily : a.family = b.family) (hlength : length ≤ a.family.width) :
    a.value / 2 ^ (a.family.width - length) = b.value / 2 ^ (b.family.width - length) ↔
      ∀ i < length, a.bit i = b.bit i := by
  constructor
  · intro h i hi
    rw [bit_eq_testBit_div hi hlength, bit_eq_testBit_div hi (hfamily ▸ hlength), h]
  · intro h
    refine Nat.eq_of_testBit_eq fun j => ?_
    by_cases hj : j < length
    · have hbit := h (length - 1 - j) (by omega)
      rw [bit_eq_testBit_div (by omega) hlength,
        bit_eq_testBit_div (by omega) (hfamily ▸ hlength)] at hbit
      rwa [show length - 1 - (length - 1 - j) = j by omega] at hbit
    · have hzero : ∀ c : Address, length ≤ c.family.width →
          (c.value / 2 ^ (c.family.width - length)).testBit j = false := by
        intro c hc
        rw [Nat.testBit_div_two_pow]
        exact Nat.testBit_lt_two_pow
          (Nat.lt_of_lt_of_le c.value_lt (Nat.pow_le_pow_right (by omega) (by omega)))
      rw [hzero a hlength, hzero b (hfamily ▸ hlength)]

/-- **Networks and bits**: two addresses of a family are of one network exactly if they agree on the
bits in front. -/
lemma masked_eq_iff (hfamily : a.family = b.family) (hlength : length ≤ a.family.width) :
    a.masked length = b.masked length ↔ ∀ i < length, a.bit i = b.bit i := by
  have hcount : (a.masked length).length = (b.masked length).length := by
    rw [masked, masked, length_maskFrom, length_maskFrom, a.length_octets, b.length_octets, hfamily]
  have hvalue : a.masked length = b.masked length ↔
      (a.network length).value = (b.network length).value :=
    ⟨congrArg valueOf, valueOf_injective hcount⟩
  rw [hvalue, value_network, value_network, ← div_two_pow_eq_iff hfamily hlength, ← hfamily,
    Nat.mul_right_cancel_iff (Nat.two_pow_pos _)]

end Network

end ProfileMatch.Address
