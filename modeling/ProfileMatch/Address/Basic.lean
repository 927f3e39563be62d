/-!
Network addresses of the two families.

* `Address`: a family and as many octets as it has, the most significant first;
* `Address.value`: the octets as one number;
* `Address.masked`: the octets with the bits behind a prefix cleared.
-/

namespace ProfileMatch

/-- A family of addresses. -/
inductive Family
  | v4
  | v6
deriving DecidableEq, Repr

namespace Family

/-- The number of bits of an address. -/
def width : Family → Nat
  | .v4 => 32
  | .v6 => 128

/-- The number of octets of an address. -/
def octetCount : Family → Nat
  | .v4 => 4
  | .v6 => 16

/-- The name of the family, which is also that of the setting that configures it. -/
def name : Family → String
  | .v4 => "ipv4"
  | .v6 => "ipv6"

/-- The other family. -/
def other : Family → Family
  | .v4 => .v6
  | .v6 => .v4

/-- Families are ordered by the width of their addresses. -/
instance : Ord Family := ⟨fun f g => compare f.width g.width⟩

theorem width_eq (f : Family) : f.width = 8 * f.octetCount := by
  cases f <;> rfl

theorem width_injective {f g : Family} (h : f.width = g.width) : f = g := by
  cases f <;> cases g <;> simp_all [width]

end Family

/-- An address: the octets of a family, the most significant first. -/
structure Address where
  family : Family
  octets : List UInt8
  length_octets : octets.length = family.octetCount := by simp [Family.octetCount]
deriving DecidableEq

namespace Address

/-- The address whose bits are all zero. -/
def unspecified (family : Family) : Address :=
  ⟨family, List.replicate family.octetCount 0, List.length_replicate⟩

/-- Octets as one number, the most significant first. -/
def valueOf (octets : List UInt8) : Nat :=
  octets.foldl (fun n o => n * 256 + o.toNat) 0

/-- The address as one number. -/
def value (a : Address) : Nat :=
  valueOf a.octets

/-- What is left of an octet when `start` bits of the address stand before it and only the first
`length` bits of the address are kept. -/
def maskOctet (length start : Nat) (o : UInt8) : UInt8 :=
  if length ≤ start then 0
  else if start + 8 ≤ length then o
  else o &&& (0xff <<< UInt8.ofNat (8 - (length - start)))

/-- Octets that stand behind `start` bits, with all but the first `length` bits of the address
cleared. -/
def maskFrom (length start : Nat) : List UInt8 → List UInt8
  | [] => []
  | o :: os => maskOctet length start o :: maskFrom length (start + 8) os

/-- The octets with all but the first `length` bits cleared. -/
def masked (a : Address) (length : Nat) : List UInt8 :=
  maskFrom length 0 a.octets

/-- Clearing bits keeps the number of octets. -/
theorem length_maskFrom (length start : Nat) (os : List UInt8) :
    (maskFrom length start os).length = os.length := by
  induction os generalizing start with
  | nil => rfl
  | cons o os ih => simp [maskFrom, ih]

/-- The address with all but the first `length` bits cleared. -/
def network (a : Address) (length : Nat) : Address :=
  ⟨a.family, a.masked length, (length_maskFrom length 0 a.octets).trans a.length_octets⟩

/-! ### Groups of two octets -/

/-- Pairs of octets as numbers of 16 bits. -/
def groupsOf : List UInt8 → List Nat
  | hi :: lo :: os => (hi.toNat * 256 + lo.toNat) :: groupsOf os
  | _ => []

/-- Numbers of 16 bits as pairs of octets. -/
def octetsOf (groups : List Nat) : List UInt8 :=
  groups.flatMap fun g => [UInt8.ofNat (g / 256), UInt8.ofNat (g % 256)]

theorem length_octetsOf (groups : List Nat) : (octetsOf groups).length = 2 * groups.length := by
  induction groups with
  | nil => rfl
  | cons g gs ih =>
    rw [show octetsOf (g :: gs) = UInt8.ofNat (g / 256) :: UInt8.ofNat (g % 256) :: octetsOf gs
      from rfl]
    simp only [List.length_cons, ih]
    omega

/-- The address of the wide family with eight groups. -/
def ofGroups? (groups : List Nat) : Option Address :=
  if h : groups.length = 8 then
    some ⟨.v6, octetsOf groups, by rw [length_octetsOf, h]; rfl⟩
  else none

end Address

end ProfileMatch
