import ProfileMatch.Json.Basic
/-!
Reading JSON values from text, in two formats. They share the grammar of JSON and differ in what
its scalars mean.

* `Format.json`: a number is read through a 64-bit word, a minus zero is of double precision, and
  two escapes may write one character as a pair of surrogates;
* `Format.yaml`: the text is one flow value of a YAML document. A number is the nearest one, a
  whole number beyond 64 bits is refused up to 128 bits, one beyond double precision is a text;
  line breaks between quotes are folded, a name stands on one line with its colon, and control
  characters and byte order marks may stand nowhere.

`Json.read` is the reader; a member that occurs twice keeps its first place and its last value.
-/

namespace ProfileMatch.Json

/-- What the scalars of a JSON text mean. -/
inductive Format
  | json
  | yaml
deriving DecidableEq

/-! ### Numbers -/

/-- A number as it is written: sign, digits before and behind the point, exponent. -/
structure Numeral where
  lexeme : List Char
  negative : Bool
  integral : List Nat
  fraction : Option (List Nat)
  exponent : Option Int

/-- Whether the numeral has neither fraction nor exponent. -/
def Numeral.isWhole (n : Numeral) : Bool :=
  n.fraction.isNone && n.exponent.isNone

/-- The digits at the start of a text, and the rest. -/
def spanDigits : List Char → List Nat × List Char
  | [] => ([], [])
  | c :: cs =>
    match Number.digit? 10 c with
    | some d => let (ds, rest) := spanDigits cs; (d :: ds, rest)
    | none => ([], c :: cs)

/-- The fraction of a numeral, which has a digit at least if there is a point. -/
def readFraction : List Char → Option (Option (List Nat) × List Char)
  | '.' :: cs =>
    match spanDigits cs with
    | ([], _) => none
    | (ds, rest) => some (some ds, rest)
  | cs => some (none, cs)

/-- The digits of an exponent, of which there is one at least. -/
def readExponentDigits (negative : Bool) (cs : List Char) : Option (Option Int × List Char) :=
  match spanDigits cs with
  | ([], _) => none
  | (ds, rest) =>
    let e : Int := Number.ofDigits 10 ds
    some (some (if negative then -e else e), rest)

/-- The exponent of a numeral, with a sign or without. -/
def readExponent : List Char → Option (Option Int × List Char)
  | c :: cs =>
    if c = 'e' ∨ c = 'E' then
      match cs with
      | '+' :: cs => readExponentDigits false cs
      | '-' :: cs => readExponentDigits true cs
      | cs => readExponentDigits false cs
    else some (none, c :: cs)
  | [] => some (none, [])

/-- A numeral: no zero stands in front of another digit. -/
def readNumeral (cs : List Char) : Option (Numeral × List Char) := do
  let (negative, body) := match cs with
    | '-' :: cs => (true, cs)
    | cs => (false, cs)
  let (integral, cs₁) := spanDigits body
  if integral = [] ∨ (integral.head? = some 0 ∧ integral.length ≠ 1) then none
  let (fraction, cs₂) ← readFraction cs₁
  let (exponent, rest) ← readExponent cs₂
  return (⟨cs.take (cs.length - rest.length), negative, integral, fraction, exponent⟩, rest)

/-- The leading digits of a numeral that fit a 64-bit word, from a word that is there already, and
the digits that do not fit. -/
def fillWord : Nat → List Nat → Nat × List Nat
  | word, [] => (word, [])
  | word, d :: ds =>
    if word * 10 + d ≤ IntegerRange.u64.greatest then fillWord (word * 10 + d) ds
    else (word, d :: ds)

/-- The meaning of a numeral read through a 64-bit word. Digits before the point that do not fit
raise the exponent, those behind it that do not fit are dropped. -/
def Numeral.byWord (n : Numeral) : Option Json.Number :=
  let (word, excess) := fillWord 0 n.integral
  if n.isWhole ∧ excess = [] ∧ ¬ n.negative then some (.whole word)
  else if n.isWhole ∧ excess = [] ∧ word ≠ 0 ∧ word ≤ -IntegerRange.i64.least then
    some (.whole (-word))
  else
    let places := n.fraction.getD []
    let (word, dropped) := fillWord word places
    let exponent : Int := excess.length - (places.length - dropped.length : Nat) + n.exponent.getD 0
    (Double.ofWord n.negative word exponent).map .double

/-- The nearest number of double precision to a numeral, if it is not too large. -/
def Numeral.nearest (n : Numeral) : Option Double :=
  let places := n.fraction.getD []
  Double.ofDecimal n.negative (Number.ofDigits 10 (n.integral ++ places))
    (n.exponent.getD 0 - places.length)

/-- The meaning of a numeral in a YAML document. -/
def Numeral.inDocument (n : Numeral) : Option Json :=
  let magnitude : Int := Number.ofDigits 10 n.integral
  let i := if n.negative then -magnitude else magnitude
  if n.isWhole ∧ IntegerRange.i64.least ≤ i ∧ i ≤ IntegerRange.u64.greatest then some (int i)
  else if n.isWhole ∧ -(Nat.pow 2 127 : Nat) ≤ i ∧ i < (Nat.pow 2 128 : Nat) then none
  else match n.nearest with
    | some d => some (.number (.double d))
    | none => some (.string (String.ofList n.lexeme))

/-- The value that a numeral writes. -/
def Numeral.value? : Format → Numeral → Option Json
  | .json, n => n.byWord.map .number
  | .yaml, n => n.inDocument

/-! ### Texts -/

/-- A part of a text between quotes: a character itself, or one written by an escape, or a code
unit written by an escape. -/
inductive Piece
  | bare (c : Char)
  | escaped (c : Char)
  | unit (n : Nat)

/-- The character that a backslash and a letter write. -/
def escape? : Char → Option Char
  | '"' => some '"'
  | '\\' => some '\\'
  | '/' => some '/'
  | 'b' => some '\x08'
  | 'f' => some '\x0c'
  | 'n' => some '\n'
  | 'r' => some '\r'
  | 't' => some '\t'
  | _ => none

/-- The parts up to the closing quote, and what follows it. Control characters are written by
escapes only. -/
def readPieces : List Char → Option (List Piece × List Char)
  | [] => none
  | '"' :: cs => some ([], cs)
  | '\\' :: 'u' :: a :: b :: c :: d :: cs => do
    let n ← Number.ofDigitText? 16 [a, b, c, d]
    let (ps, rest) ← readPieces cs
    return (.unit n :: ps, rest)
  | '\\' :: c :: cs => do
    let e ← escape? c
    let (ps, rest) ← readPieces cs
    return (.escaped e :: ps, rest)
  | c :: cs => do
    if c.toNat < 0x20 ∨ c = '\\' then none
    let (ps, rest) ← readPieces cs
    return (.bare c :: ps, rest)

def isHighSurrogate (n : Nat) : Bool := 0xd800 ≤ n && n < 0xdc00

def isLowSurrogate (n : Nat) : Bool := 0xdc00 ≤ n && n < 0xe000

/-- The characters of the parts; a pair of surrogates writes one, a lone one is refused. -/
def joinPairs : List Piece → Option (List Char)
  | [] => some []
  | .bare c :: ps => (joinPairs ps).map (c :: ·)
  | .escaped c :: ps => (joinPairs ps).map (c :: ·)
  | .unit n :: .unit m :: ps =>
    if isHighSurrogate n ∧ isLowSurrogate m then
      (joinPairs ps).map (Char.ofNat (0x10000 + (n - 0xd800) * 0x400 + (m - 0xdc00)) :: ·)
    else if isHighSurrogate n ∨ isLowSurrogate n then none
    else (joinPairs (.unit m :: ps)).map (Char.ofNat n :: ·)
  | .unit n :: ps =>
    if isHighSurrogate n ∨ isLowSurrogate n then none
    else (joinPairs ps).map (Char.ofNat n :: ·)

/-- The line breaks of a YAML document that JSON lets stand between quotes. -/
def isBreak (c : Char) : Bool :=
  c == '\x85' || c == '\u2028' || c == '\u2029'

/-- A run of blanks and breaks between quotes. Without a break it stands for itself; else the
blanks go, and of a first break that ends a plain line nothing stays but a space if it is the only
one. -/
def foldRun (run : List Char) : List Char :=
  let breaks := (run.filter isBreak).map fun c => if c = '\x85' then '\n' else c
  match breaks with
  | [] => run
  | ['\n'] => [' ']
  | '\n' :: more => more
  | kept => kept

/-- The characters of the parts with every run of blanks and breaks folded; `run` is the run read
so far, last character first. -/
def joinFolded (run : List Char) : List Piece → Option (List Char)
  | [] => some (foldRun run.reverse)
  | .bare c :: ps =>
    if c = ' ' ∨ isBreak c then joinFolded (c :: run) ps
    else (joinFolded [] ps).map (foldRun run.reverse ++ c :: ·)
  | .escaped c :: ps => (joinFolded [] ps).map (foldRun run.reverse ++ c :: ·)
  | .unit n :: ps =>
    if isHighSurrogate n ∨ isLowSurrogate n then none
    else (joinFolded [] ps).map (foldRun run.reverse ++ Char.ofNat n :: ·)

/-- The text that parts between quotes write. -/
def textOf : Format → List Piece → Option String
  | .json, ps => (joinPairs ps).map String.ofList
  | .yaml, ps => (joinFolded [] ps).map String.ofList

/-- The number of characters in which a part is written. -/
def Piece.width : Piece → Nat
  | .bare _ => 1
  | .escaped _ => 2
  | .unit _ => 6

/-- The greatest distance of a colon from the start of the name before it in a YAML document. -/
def nameReach : Nat := 1024

/-- Whether parts between quotes may write a name, if blanks stand between the closing quote and the
colon. In a YAML document all of it stands on one line, and the colon within reach. -/
def Format.admitsName (ps : List Piece) (blanks : List Char) : Format → Bool
  | .json => true
  | .yaml =>
    !(ps.any fun p => match p with | .bare c => isBreak c | _ => false)
      && !(blanks.any fun c => c == '\n' || c == '\r')
      && (ps.map Piece.width).foldl (· + ·) (2 + blanks.length) ≤ nameReach

/-- Whether a character may stand in a text of the format at all. -/
def Format.admits : Format → Char → Bool
  | .json, _ => true
  | .yaml, c =>
    c == '\t' || c == '\n' || c == '\r' || (0x20 ≤ c.toNat && c.toNat ≤ 0x7e) || c == '\x85'
      || (0xa0 ≤ c.toNat && c.toNat ≤ 0xd7ff)
      || (0xe000 ≤ c.toNat && c.toNat ≤ 0xfffd && c != '\ufeff')
      || 0x10000 ≤ c.toNat

/-! ### Values -/

/-- Whether a character is a blank between the parts of a value. -/
def isSpace (c : Char) : Bool :=
  c == ' ' || c == '\t' || c == '\n' || c == '\r'

/-- Drops the blanks between the parts of a value. -/
def skip (cs : List Char) : List Char :=
  cs.dropWhile isSpace

mutual

/-- One value and what follows it; the fuel bounds the number of its parts. -/
def readValue (f : Format) : Nat → List Char → Option (Json × List Char)
  | 0, _ => none
  | fuel + 1, cs =>
    match skip cs with
    | '\x7b' :: cs =>
      match skip cs with
      | '\x7d' :: cs => some (object [], cs)
      | cs => readMembers f fuel [] cs
    | '[' :: cs =>
      match skip cs with
      | ']' :: cs => some (array [], cs)
      | cs => (readItems f fuel cs).map fun r => (array r.1, r.2)
    | '"' :: cs => do
      let (ps, cs) ← readPieces cs
      return (string (← textOf f ps), cs)
    | 'n' :: 'u' :: 'l' :: 'l' :: cs => some (null, cs)
    | 't' :: 'r' :: 'u' :: 'e' :: cs => some (bool true, cs)
    | 'f' :: 'a' :: 'l' :: 's' :: 'e' :: cs => some (bool false, cs)
    | cs => do
      let (n, cs) ← readNumeral cs
      return (← n.value? f, cs)

/-- The items of an array, of which there is one at least. -/
def readItems (f : Format) : Nat → List Char → Option (List Json × List Char)
  | 0, _ => none
  | fuel + 1, cs => do
    let (v, cs) ← readValue f fuel cs
    match skip cs with
    | ',' :: cs => (readItems f fuel cs).map fun r => (v :: r.1, r.2)
    | ']' :: cs => some ([v], cs)
    | _ => none

/-- The members of an object after those that are read already. -/
def readMembers (f : Format) : Nat → List (String × Json) → List Char →
    Option (Json × List Char)
  | 0, _, _ => none
  | fuel + 1, read, cs => do
    let (name, cs) ← match skip cs with
      | '"' :: cs => do
        let (ps, cs) ← readPieces cs
        if !f.admitsName ps (cs.takeWhile isSpace) then none
        pure (← textOf f ps, cs)
      | _ => none
    let (v, cs) ← match skip cs with
      | ':' :: cs => readValue f fuel cs
      | _ => none
    let read := putMember name v read
    match skip cs with
    | ',' :: cs => readMembers f fuel read cs
    | '\x7d' :: cs => some (object read, cs)
    | _ => none

end

/-- The value that a text of the format writes, if it writes one and nothing else. -/
def read (f : Format) (s : String) : Option Json := do
  let cs := s.toList
  if cs.any (fun c => !f.admits c) then none
  let (v, rest) ← readValue f (2 * cs.length + 2) cs
  if (skip rest).isEmpty then some v else none

end ProfileMatch.Json
