/-!
Digits of a base up to sixteen and the numbers they write.

* `digit?`: the value of a digit, letters of either case standing for ten and above;
* `ofDigits`: the number that digit values write, most significant first;
* `decimal`: an integer in decimal.
-/

namespace ProfileMatch.Number

/-- The value of a digit in a base. -/
def digit? (base : Nat) (c : Char) : Option Nat :=
  let value :=
    if '0' ≤ c ∧ c ≤ '9' then some (c.toNat - '0'.toNat)
    else if 'a' ≤ c ∧ c ≤ 'f' then some (c.toNat - 'a'.toNat + 10)
    else if 'A' ≤ c ∧ c ≤ 'F' then some (c.toNat - 'A'.toNat + 10)
    else none
  value.filter (· < base)

/-- The number that digit values write, most significant first. -/
def ofDigits (base : Nat) (ds : List Nat) : Nat :=
  ds.foldl (fun n d => n * base + d) 0

/-- The number that a text of digits alone writes; the empty text writes none. -/
def ofDigitText? (base : Nat) (cs : List Char) : Option Nat :=
  if cs.isEmpty then none else (cs.mapM (digit? base)).map (ofDigits base)

/-- An integer in decimal, with a minus sign in front of one below zero. -/
def decimal : Int → String
  | .ofNat n => n.repr
  | .negSucc n => "-" ++ (n + 1).repr

end ProfileMatch.Number
