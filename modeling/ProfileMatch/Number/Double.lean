import ProfileMatch.Number.Digits
/-!
Numbers of double precision: a sign, a significand of at most 53 bits and a power of two.

* `Double.ofRatio`: the nearest such number to a quotient, a tie going to the even significand;
* `Double.mul`, `Double.div`: the exact product and quotient, rounded so;
* `Double.ofDecimal`: the nearest number to a decimal;
* `Double.ofWord`: a decimal read through a 64-bit word and a power of ten, each rounded on its
  own, so that the last bit may differ from that of the nearest number.
-/

namespace ProfileMatch

/-- The number `± significand * 2 ^ exponent`. -/
structure Double where
  negative : Bool
  significand : Nat
  exponent : Int
deriving DecidableEq, Repr

namespace Double

/-- The bits of a significand. -/
def precision : Nat := 53

/-- The least exponent: below it the significand loses bits instead. -/
def leastExponent : Int := -1074

/-- The greatest exponent of a full significand. -/
def greatestExponent : Int := 971

/-- Zero of either sign. -/
def zero (negative : Bool) : Double := ⟨negative, 0, leastExponent⟩

/-- Whether the number is a zero. -/
def isZero (d : Double) : Bool := d.significand == 0

/-- The number with the given sign. -/
def withSign (d : Double) (negative : Bool) : Double := { d with negative }

/-- The natural number nearest to a quotient, a tie going to the even one. -/
def roundQuotient (num den : Nat) : Nat :=
  let q := num / den
  let r := num % den
  if 2 * r < den then q
  else if den < 2 * r then q + 1
  else if q % 2 = 0 then q else q + 1

/-- The numerator and denominator of a quotient divided by a power of two. -/
def scale (num den : Nat) (exponent : Int) : Nat × Nat :=
  if exponent < 0 then (num * Nat.pow 2 exponent.natAbs, den)
  else (num, den * Nat.pow 2 exponent.natAbs)

/-- The exponent for a positive quotient: with it the significand has 53 bits or, if that would
put it below the least exponent, fewer. -/
def exponentFor (num den : Nat) : Int :=
  let guess : Int := (num.log2 : Int) - (den.log2 : Int) - (precision : Int)
  let (n, d) := scale num den guess
  -- the quotient by the guess has 53 or 54 bits
  let fitted := if Nat.pow 2 precision * d ≤ n then guess + 1 else guess
  max fitted leastExponent

/-- The number nearest to the quotient of two natural numbers, if it is not too large. -/
def ofRatio (negative : Bool) (num den : Nat) : Option Double :=
  if num = 0 then some (zero negative)
  else
    let e := exponentFor num den
    let (n, d) := scale num den e
    let m := roundQuotient n d
    let (m, e) := if m = Nat.pow 2 precision then (Nat.pow 2 (precision - 1), e + 1) else (m, e)
    if greatestExponent < e then none else some ⟨negative, m, e⟩

/-- The nearest number to a natural number. -/
def ofNat (n : Nat) : Option Double := ofRatio false n 1

/-- The magnitude as a quotient of two natural numbers. -/
def ratio (d : Double) : Nat × Nat :=
  if d.exponent < 0 then (d.significand, Nat.pow 2 d.exponent.natAbs)
  else (d.significand * Nat.pow 2 d.exponent.natAbs, 1)

/-- The rounded product. -/
def mul (a b : Double) : Option Double :=
  ofRatio (a.negative != b.negative) (a.ratio.1 * b.ratio.1) (a.ratio.2 * b.ratio.2)

/-- The rounded quotient by a number other than zero. -/
def div (a b : Double) : Option Double :=
  ofRatio (a.negative != b.negative) (a.ratio.1 * b.ratio.2) (a.ratio.2 * b.ratio.1)

/-! ### Decimals -/

/-- The number nearest to `digits * 10 ^ exponent`, if it is not too large. Decimals of 310 digits
before the point are all too large, and those below the 330th place behind it are all nearest to
zero. -/
def ofDecimal (negative : Bool) (digits : Nat) (exponent : Int) : Option Double :=
  let magnitude : Int := exponent + (Nat.toDigits 10 digits).length
  if digits = 0 ∨ magnitude < -330 then some (zero negative)
  else if 310 < magnitude then none
  else ofRatio negative (digits * Nat.pow 10 exponent.toNat) (Nat.pow 10 (-exponent).toNat)

/-- The exponent of the greatest power of ten of double precision. -/
def greatestTen : Nat := 308

/-- A power of ten, rounded. -/
def ten (k : Nat) : Option Double := ofNat (Nat.pow 10 k)

/-- What a word times a power of ten comes to when each is rounded before they are multiplied or
divided. A divisor beyond the greatest power of ten is divided by in two steps, and a word is zero
when both are such powers. -/
def ofWord (negative : Bool) (word : Nat) (exponent : Int) : Option Double := do
  let d ← ofNat word
  let k := exponent.natAbs
  let magnitude ←
    if 0 ≤ exponent then
      if k ≤ greatestTen then do d.mul (← ten k) else if word = 0 then some d else none
    else if k ≤ greatestTen then do d.div (← ten k)
    else if k ≤ 2 * greatestTen then do (← d.div (← ten greatestTen)).div (← ten (k - greatestTen))
    else some (zero false)
  return magnitude.withSign negative

end Double

end ProfileMatch
