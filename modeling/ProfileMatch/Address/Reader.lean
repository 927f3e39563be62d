import ProfileMatch.Address.Basic
import ProfileMatch.Number.Digits
/-!
Reading addresses from text.

* `Address.readDotted?`: four decimal octets between points, none with a zero in front;
* `Address.readGrouped?`: groups of one to four hexadecimal digits between colons, the last two of
  which may be dotted, and one double colon for the groups of zero that are left out;
* `Address.read?`: either of the two.
-/

namespace ProfileMatch.Address

/-- A decimal octet of one to three digits, without a zero in front. -/
def readOctet? (cs : List Char) : Option UInt8 :=
  if 3 < cs.length ∨ (cs.head? = some '0' ∧ cs.length ≠ 1) then none
  else
    match Number.ofDigitText? 10 cs with
    | some n => if n < 256 then some (UInt8.ofNat n) else none
    | none => none

/-- Four octets between points. -/
def readDottedOctets? (cs : List Char) : Option (List UInt8) :=
  ((cs.splitOn '.').mapM readOctet?).filter (fun os => os.length == 4)

/-- An address of the narrow family. -/
def readDotted? (cs : List Char) : Option Address :=
  match readDottedOctets? cs with
  | some os => if h : os.length = 4 then some ⟨.v4, os, h⟩ else none
  | none => none

/-- A group of one to four hexadecimal digits. -/
def readGroup? (cs : List Char) : Option Nat :=
  if 4 < cs.length then none else Number.ofDigitText? 16 cs

/-- Groups in order; if `tail` is set the last one may be dotted and then counts for two. -/
def readGroupList? (tail : Bool) : List (List Char) → Option (List Nat)
  | [] => some []
  | [p] =>
    match readGroup? p with
    | some g => some [g]
    | none => if tail then (readDottedOctets? p).map groupsOf else none
  | p :: ps =>
    match readGroup? p, readGroupList? tail ps with
    | some g, some gs => some (g :: gs)
    | _, _ => none

/-- The groups of a part of an address, which may have none. -/
def readPart? (tail : Bool) (cs : List Char) : Option (List Nat) :=
  if cs.isEmpty then some [] else readGroupList? tail (cs.splitOn ':')

/-- The two sides of the first double colon, if there is one. -/
def cutDouble? : List Char → Option (List Char × List Char)
  | ':' :: ':' :: cs => some ([], cs)
  | c :: cs => (cutDouble? cs).map fun p => (c :: p.1, p.2)
  | [] => none

/-- An address of the wide family. A double colon stands for one group of zero at least. -/
def readGrouped? (cs : List Char) : Option Address :=
  match cutDouble? cs with
  | none => (readPart? true cs).bind ofGroups?
  | some (front, back) =>
    match readPart? false front, readPart? true back with
    | some gs, some gs' =>
      if gs.length + gs'.length ≤ 7 then
        ofGroups? (gs ++ List.replicate (8 - (gs.length + gs'.length)) 0 ++ gs')
      else none
    | _, _ => none

/-- An address of either family. -/
def readChars? (cs : List Char) : Option Address :=
  (readDotted? cs).or (readGrouped? cs)

/-- The address that a text writes, if it writes one. -/
def read? (s : String) : Option Address :=
  readChars? s.toList

end ProfileMatch.Address
