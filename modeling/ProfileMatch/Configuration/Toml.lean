import ProfileMatch.Number.Bounded
import ProfileMatch.Json.Reader
import ProfileMatch.Text.Blank
/-!
Configuration text: lines that open a table or give a value to a key, in the format of TOML.
Values are integers, or tables of such values between braces; a text with any other value is
refused, as one is that does not follow the format.

* `Toml.Statement`: a line that is neither blank nor a comment;
* `Toml.read?`: the statements of a text.
-/

namespace ProfileMatch.Toml

/-- A value: an integer, or a table with its keys, each of which may name a place in a table of its
own. -/
inductive Item
  | integer (i : Int)
  | table (entries : List (List String × Int))
deriving Repr

/-- A statement: the header of a table, or a value for a key. -/
inductive Statement
  | header (path : List String)
  | assign (path : List String) (value : Item)
deriving Repr

/-! ### Lines -/

/-- Drops blanks within a line. -/
def skipBlanks (cs : List Char) : List Char :=
  cs.dropWhile fun c => c == ' ' || c == '\t'

/-- Whether a character may stand in a comment. -/
def inComment (c : Char) : Bool :=
  c == '\t' || (0x20 ≤ c.toNat && c != '\x7f')

/-- Whether nothing but blanks and a comment is left of a line. -/
def isLineEnd (cs : List Char) : Bool :=
  match skipBlanks cs with
  | [] => true
  | '#' :: cs => cs.all inComment
  | _ => false

/-- The lines of a text; a carriage return in front of a line feed belongs to the line end. -/
def lines (cs : List Char) : List (List Char) :=
  match (cs.splitOn '\n').reverse with
  | [] => []
  | last :: before =>
    (last :: before.map fun l => if l.getLast? = some '\r' then l.dropLast else l).reverse

/-! ### Keys -/

/-- Whether a character may stand in a bare key. -/
def isBare (c : Char) : Bool :=
  c.isAlphanum || c == '-' || c == '_'

/-- The character that a backslash and what follows it write. -/
def readEscape : List Char → Option (Char × List Char)
  | 'u' :: a :: b :: c :: d :: cs =>
    (Number.ofDigitText? 16 [a, b, c, d]).bind fun n =>
      if n.isValidChar then some (Char.ofNat n, cs) else none
  | 'U' :: a :: b :: c :: d :: e :: f :: g :: h :: cs =>
    (Number.ofDigitText? 16 [a, b, c, d, e, f, g, h]).bind fun n =>
      if n.isValidChar then some (Char.ofNat n, cs) else none
  | c :: cs => if c = '/' then none else (Json.escape? c).map fun e => (e, cs)
  | [] => none

/-- A key in double quotes, up to the closing one. -/
def readQuoted : Nat → List Char → Option (List Char × List Char)
  | 0, _ => none
  | fuel + 1, cs =>
    match cs with
    | '"' :: cs => some ([], cs)
    | '\\' :: cs => do
      let (c, cs) ← readEscape cs
      let (key, rest) ← readQuoted fuel cs
      return (c :: key, rest)
    | c :: cs => do
      if !inComment c then none
      let (key, rest) ← readQuoted fuel cs
      return (c :: key, rest)
    | [] => none

/-- One part of a key. -/
def readKeyPart (cs : List Char) : Option (String × List Char) :=
  match cs with
  | '"' :: cs => (readQuoted (cs.length + 1) cs).map fun r => (String.ofList r.1, r.2)
  | '\'' :: cs =>
    match Text.cut? '\'' cs with
    | some (key, rest) => if key.all inComment then some (String.ofList key, rest) else none
    | none => none
  | cs =>
    let key := cs.takeWhile isBare
    if key.isEmpty then none else some (String.ofList key, cs.dropWhile isBare)

/-- A key: parts between points. -/
def readKey : Nat → List Char → Option (List String × List Char)
  | 0, _ => none
  | fuel + 1, cs => do
    let (part, cs) ← readKeyPart (skipBlanks cs)
    match skipBlanks cs with
    | '.' :: cs =>
      let (parts, rest) ← readKey fuel cs
      return (part :: parts, rest)
    | cs => return ([part], cs)

/-! ### Values -/

/-- Digits of a base with underscores between them, and the rest of the line. -/
def readDigits (base : Nat) (cs : List Char) : Option (List Nat × List Char) :=
  let token := cs.takeWhile fun c => c.isAlphanum || c == '_'
  let groups := token.splitOn '_'
  if groups.any List.isEmpty then none
  else (groups.flatten.mapM (Number.digit? base)).map fun ds => (ds, cs.drop token.length)

/-- A decimal integer, which has no zero in front of another digit. -/
def readDecimal (negative : Bool) (cs : List Char) : Option (Int × List Char) := do
  let (ds, rest) ← readDigits 10 cs
  if ds.head? = some 0 ∧ ds.length ≠ 1 then none
  let n : Int := Number.ofDigits 10 ds
  return (if negative then -n else n, rest)

/-- An integer of 64 bits: decimal with a sign or without, or in one of three other bases. -/
def readInteger (cs : List Char) : Option (Int × List Char) := do
  let unsigned (base : Nat) (cs : List Char) : Option (Int × List Char) :=
    (readDigits base cs).map fun r => (((Number.ofDigits base r.1 : Nat) : Int), r.2)
  let (i, rest) ← match cs with
    | '+' :: cs => readDecimal false cs
    | '-' :: cs => readDecimal true cs
    | '0' :: 'x' :: cs => unsigned 16 cs
    | '0' :: 'o' :: cs => unsigned 8 cs
    | '0' :: 'b' :: cs => unsigned 2 cs
    | cs => readDecimal false cs
  if IntegerRange.i64.holds i then return (i, rest) else none

/-- The entries of a table between braces, of which there is one at least. -/
def readEntries : Nat → List Char → Option (List (List String × Int) × List Char)
  | 0, _ => none
  | fuel + 1, cs => do
    let (key, cs) ← readKey (cs.length + 1) cs
    let (i, cs) ← match cs with
      | '=' :: cs => readInteger (skipBlanks cs)
      | _ => none
    match skipBlanks cs with
    | ',' :: cs =>
      let (entries, rest) ← readEntries fuel cs
      return ((key, i) :: entries, rest)
    | '\x7d' :: cs => return ([(key, i)], cs)
    | _ => none

/-- A value. -/
def readItem (cs : List Char) : Option (Item × List Char) :=
  match cs with
  | '\x7b' :: cs =>
    match skipBlanks cs with
    | '\x7d' :: rest => some (.table [], rest)
    | _ => (readEntries (cs.length + 1) cs).map fun r => (.table r.1, r.2)
  | cs => (readInteger cs).map fun r => (.integer r.1, r.2)

/-! ### Statements -/

/-- The statement of a line, if it has one. -/
def readLine (cs : List Char) : Option (Option Statement) :=
  if isLineEnd cs then some none
  else
    match skipBlanks cs with
    | '[' :: cs => do
      let (path, cs) ← readKey (cs.length + 1) cs
      match cs with
      | ']' :: cs => if isLineEnd cs then some (some (.header path)) else none
      | _ => none
    | cs => do
      let (path, cs) ← readKey (cs.length + 1) cs
      match cs with
      | '=' :: cs =>
        let (item, cs) ← readItem (skipBlanks cs)
        if isLineEnd cs then some (some (.assign path item)) else none
      | _ => none

/-- The characters behind a byte order mark, if there is one. -/
def withoutMark : List Char → List Char
  | '\ufeff' :: cs => cs
  | cs => cs

/-- The statements of a text, if it follows the format. -/
def read? (s : String) : Option (List Statement) :=
  ((lines (withoutMark s.toList)).mapM readLine).map fun ss => ss.filterMap id

end ProfileMatch.Toml
