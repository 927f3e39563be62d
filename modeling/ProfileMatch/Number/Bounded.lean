import ProfileMatch.Number.Digits
/-!
Integers of a bounded range, read from text.

* `IntegerRange.read`: the reader: an optional sign, then digits and nothing else; the first
  character that spoils the text or carries it out of the range decides which fault it is;
* `IntegerFault.message`: the words for each fault.
-/

namespace ProfileMatch

/-- Why a text is not an integer of a range. -/
inductive IntegerFault
  | empty
  | invalidDigit
  | tooLarge
  | tooSmall
deriving DecidableEq, Repr

/-- The words for a fault. -/
def IntegerFault.message : IntegerFault → String
  | .empty => "cannot parse integer from empty string"
  | .invalidDigit => "invalid digit found in string"
  | .tooLarge => "number too large to fit in target type"
  | .tooSmall => "number too small to fit in target type"

/-- The integers from `least` to `greatest`, under the name by which messages call them. -/
structure IntegerRange where
  name : String
  least : Int
  greatest : Int
deriving DecidableEq

namespace IntegerRange

def u8 : IntegerRange := ⟨"u8", 0, 255⟩

def u16 : IntegerRange := ⟨"u16", 0, 65535⟩

def u32 : IntegerRange := ⟨"u32", 0, 4294967295⟩

def u64 : IntegerRange := ⟨"u64", 0, 18446744073709551615⟩

def i32 : IntegerRange := ⟨"i32", -2147483648, 2147483647⟩

def i64 : IntegerRange := ⟨"i64", -9223372036854775808, 9223372036854775807⟩

/-- Whether an integer lies in the range. -/
def holds (r : IntegerRange) (i : Int) : Bool :=
  r.least ≤ i && i ≤ r.greatest

/-- Appends digits to a number that is counted upwards, as long as it stays in the range. -/
def countUp (r : IntegerRange) (base : Nat) : Int → List Char → Except IntegerFault Int
  | n, [] => .ok n
  | n, c :: cs =>
    match Number.digit? base c with
    | none => .error .invalidDigit
    | some d =>
      let n' := n * base + d
      if r.greatest < n' then .error .tooLarge else countUp r base n' cs

/-- Appends digits to a number that is counted downwards, as long as it stays in the range. -/
def countDown (r : IntegerRange) (base : Nat) : Int → List Char → Except IntegerFault Int
  | n, [] => .ok n
  | n, c :: cs =>
    match Number.digit? base c with
    | none => .error .invalidDigit
    | some d =>
      let n' := n * base - d
      if n' < r.least then .error .tooSmall else countDown r base n' cs

/-- Reads an integer: a plus sign may come first, in a range with negative numbers a minus sign
too, then at least one digit of the base, and nothing else. -/
def readChars (r : IntegerRange) (base : Nat) : List Char → Except IntegerFault Int
  | [] => .error .empty
  | ['+'] => .error .invalidDigit
  | ['-'] => .error .invalidDigit
  | '+' :: cs => r.countUp base 0 cs
  | '-' :: cs => if r.least < 0 then r.countDown base 0 cs else .error .invalidDigit
  | cs => r.countUp base 0 cs

/-- Reads a decimal integer of the range. -/
def read (r : IntegerRange) (s : String) : Except IntegerFault Int :=
  r.readChars 10 s.toList

/-- The decimal integer of the range that a text writes, if it writes one. -/
def read? (r : IntegerRange) (s : String) : Option Int :=
  (r.read s).toOption

end IntegerRange

end ProfileMatch
