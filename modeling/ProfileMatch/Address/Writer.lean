import ProfileMatch.Address.Basic
/-!
Writing addresses.

* `Address.dotted`: octets in decimal between points;
* `Address.grouped`: groups in hexadecimal between colons, with a double colon in place of the
  longest run of two or more groups of zero, the first of equally long ones;
* `Address.text`: the first for the narrow family, the second for the wide one, whose addresses
  that stand for a narrow one end in a dotted part.
-/

namespace ProfileMatch.Address

/-- Octets in decimal between points. -/
def dotted (os : List UInt8) : List Char :=
  List.intercalate ['.'] (os.map fun o => Nat.toDigits 10 o.toNat)

/-- Groups in hexadecimal between colons. -/
def colonText (gs : List Nat) : List Char :=
  List.intercalate [':'] (gs.map (Nat.toDigits 16))

/-- The number of zeros at the start of a list. -/
def leadingZeros : List Nat → Nat
  | 0 :: gs => leadingZeros gs + 1
  | _ => 0

/-- The place and length of the longest run of zeros, the first of equally long ones, in groups of
which the first stands at `start`; a run has to be longer than `best` to count. -/
def longestRun (start : Nat) (best : Nat × Nat) : List Nat → Nat × Nat
  | [] => best
  | g :: gs =>
    let n := leadingZeros (g :: gs)
    longestRun (start + 1) (if best.2 < n then (start, n) else best) gs

/-- Groups with the longest run of zeros left out. -/
def grouped (gs : List Nat) : List Char :=
  let (start, n) := longestRun 0 (0, 0) gs
  if 1 < n then colonText (gs.take start) ++ [':', ':'] ++ colonText (gs.drop (start + n))
  else colonText gs

/-- The octets of the narrow address that a wide one stands for: those behind ten octets of zero
and two of 255. -/
def mapped? (os : List UInt8) : Option (List UInt8) :=
  if os.take 12 = List.replicate 10 0 ++ [255, 255] then some (os.drop 12) else none

/-- The characters of an address. -/
def chars (a : Address) : List Char :=
  match a.family with
  | .v4 => dotted a.octets
  | .v6 =>
    match mapped? a.octets with
    | some os => [':', ':', 'f', 'f', 'f', 'f', ':'] ++ dotted os
    | none => grouped (groupsOf a.octets)

/-- An address as text. -/
def text (a : Address) : String :=
  String.ofList a.chars

end ProfileMatch.Address
