import ProfileMatch.Number.Double
/-!
The shortest decimal of a number of double precision: of the decimals that round to the number, one
with the fewest digits, and of these the nearest.

* `Double.shortest`: digits and exponent of that decimal;
* `Double.text`: its notation: positional between the fifth place behind the point and the
  sixteenth before it, with a fraction even if it is zero, and with an exponent elsewhere.
-/

namespace ProfileMatch.Double

/-- A decimal `digits * 10 ^ exponent`. -/
structure Decimal where
  digits : Nat
  exponent : Int
deriving DecidableEq, Repr

/-- Compares a decimal with a quotient. -/
def Decimal.compareRatio (x : Decimal) (num den : Nat) : Ordering :=
  compare (x.digits * Nat.pow 10 x.exponent.toNat * den) (num * Nat.pow 10 (-x.exponent).toNat)

/-- A number of double precision in units of a quarter of its last bit: those units, and their
number of units to the ends of the interval of reals that round to it. The interval is half as long
below a power of two. -/
structure Interval where
  low : Nat
  value : Nat
  high : Nat
  unit : Int
  closed : Bool

/-- The reals that round to a positive number. -/
def interval (d : Double) : Interval :=
  let m := d.significand
  let narrow := m == Nat.pow 2 (precision - 1) && leastExponent < d.exponent
  { low := if narrow then 4 * m - 1 else 4 * m - 2
    value := 4 * m
    high := 4 * m + 2
    unit := d.exponent - 2
    closed := m % 2 == 0 }

/-- A count of units of `2 ^ unit` as a quotient. -/
def Interval.ratio (i : Interval) (count : Nat) : Nat × Nat :=
  (count * Nat.pow 2 i.unit.toNat, Nat.pow 2 (-i.unit).toNat)

/-- Whether a decimal lies in the interval. -/
def Interval.holds (i : Interval) (x : Decimal) : Bool :=
  let (ln, ld) := i.ratio i.low
  let (hn, hd) := i.ratio i.high
  match x.compareRatio ln ld, x.compareRatio hn hd with
  | .gt, .lt => true
  | .eq, _ | _, .eq => i.closed
  | _, _ => false

/-- The number of digits of a quotient before the point, or zero and below for the place of its
first digit behind it. -/
def placesOf (num den : Nat) : Int :=
  if den ≤ num then ((Nat.toDigits 10 (num / den)).length : Int)
  else 1 - ((Nat.toDigits 10 ((den - 1) / num)).length : Int)

/-- Of the two neighbours of the value on the grid of a power of ten, the nearer one that lies in
the interval; of two equally near ones the even. -/
def Interval.onGrid (i : Interval) (exponent : Int) : Option Decimal :=
  let (vn, vd) := i.ratio i.value
  let n := vn * Nat.pow 10 (-exponent).toNat
  let d := vd * Nat.pow 10 exponent.toNat
  let below : Decimal := ⟨n / d, exponent⟩
  let above : Decimal := ⟨n / d + 1, exponent⟩
  let r := n % d
  let belowFirst := 2 * r < d || (2 * r == d && (n / d) % 2 == 0)
  let (first, second) := if belowFirst then (below, above) else (above, below)
  if i.holds first then some first else if i.holds second then some second else none

/-- The decimal with the fewest digits, from seventeen on down the list of finer grids; seventeen
digits always suffice. -/
def Interval.search (i : Interval) (places : Int) : List Nat → Decimal
  | [] => ⟨i.value, 0⟩
  | n :: ns =>
    match i.onGrid (places - n) with
    | some x => x
    | none => i.search places ns

/-- A decimal without zeros at its end. -/
def Decimal.trimmed (x : Decimal) : Nat → Decimal
  | 0 => x
  | fuel + 1 =>
    if x.digits % 10 = 0 ∧ x.digits ≠ 0 then
      Decimal.trimmed ⟨x.digits / 10, x.exponent + 1⟩ fuel
    else x

/-- The shortest decimal of the magnitude. -/
def shortest (d : Double) : Decimal :=
  if d.isZero then ⟨0, 0⟩
  else
    let i := d.interval
    let (n, den) := i.ratio i.value
    (i.search (placesOf n den) ((List.range 17).map (· + 1))).trimmed 17

/-- The least and the greatest exponent of the first digit that are written positionally. -/
def positionalExponents : Int × Int := (-5, 15)

/-- The notation of a decimal: `12.5`, `1000.0` and `0.001` positionally, else `1e+16` and
`2.5e-7`. -/
def Decimal.written (x : Decimal) : String :=
  let ds := Nat.toDigits 10 x.digits
  let first : Int := x.exponent + (ds.length : Int) - 1
  if x.digits = 0 then "0.0"
  else if positionalExponents.1 ≤ first ∧ first ≤ positionalExponents.2 then
    if 0 ≤ x.exponent then
      String.ofList (ds ++ List.replicate x.exponent.toNat '0' ++ ['.', '0'])
    else if 0 ≤ first then
      String.ofList (ds.take (first.toNat + 1) ++ '.' :: ds.drop (first.toNat + 1))
    else String.ofList ('0' :: '.' :: List.replicate (-first - 1).toNat '0' ++ ds)
  else
    let fraction := if ds.length ≤ 1 then [] else '.' :: ds.drop 1
    let sign := if first < 0 then '-' else '+'
    String.ofList (ds.take 1 ++ fraction ++ 'e' :: sign :: Nat.toDigits 10 first.natAbs)

/-- A number as the shortest decimal that reads back as it. -/
def text (d : Double) : String :=
  if d.negative then "-" ++ d.shortest.written else d.shortest.written

end ProfileMatch.Double
