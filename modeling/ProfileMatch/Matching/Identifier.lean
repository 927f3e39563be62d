import ProfileMatch.Number.Digits
import ProfileMatch.Text.Blank
/-!
The syntax of universally unique identifiers.

* `isUuid`: thirty-two hexadecimal digits on their own, or in groups of 8, 4, 4, 4 and 12 between
  hyphens; the grouped form may stand in braces or behind `urn:uuid:`.
-/

namespace ProfileMatch

/-- Whether all characters are hexadecimal digits and there are so many of them. -/
def isHexOf (count : Nat) (cs : List Char) : Bool :=
  cs.length == count && cs.all fun c => (Number.digit? 16 c).isSome

/-- Whether the characters are five groups of digits between hyphens. -/
def isGroupedUuid (cs : List Char) : Bool :=
  match cs.splitOn '-' with
  | [a, b, c, d, e] => isHexOf 8 a && isHexOf 4 b && isHexOf 4 c && isHexOf 4 d && isHexOf 12 e
  | _ => false

/-- What stands between braces, if the characters are in braces. -/
def insideBraces? : List Char → Option (List Char)
  | '\x7b' :: cs => if cs.getLast? = some '\x7d' then some cs.dropLast else none
  | _ => none

/-- What stands behind `urn:uuid:`, in letters of either case. -/
def afterUrn? (cs : List Char) : Option (List Char) :=
  if (cs.take 9).map Char.toLower = "urn:uuid:".toList then some (cs.drop 9) else none

/-- Whether a text is an identifier. -/
def isUuid (s : String) : Bool :=
  let cs := s.toList
  isHexOf 32 cs || isGroupedUuid cs
    || (insideBraces? cs).elim false isGroupedUuid
    || (afterUrn? cs).elim false isGroupedUuid

end ProfileMatch
