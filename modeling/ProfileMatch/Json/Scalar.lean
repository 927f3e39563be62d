import ProfileMatch.Json.Reader
/-!
Writing texts as scalars of YAML in the block context, where an indicator such as a bracket or a
comma has a meaning at the start only.

* `isAmbiguous`: texts that would be read as no text if they stood without quotes;
* `standsPlain`: texts in which nothing would be read as an indicator;
* `Style.of`: how a text stands, without quotes if it can; of several lines, as these lines;
* `write`: a text in its style.
-/

namespace ProfileMatch.Scalar

/-! ### Texts that are read as something else -/

/-- Words that are read as nothing, as truth values or as numbers that are not finite. -/
def reservedWords : List String :=
  ["", "~", "null", "Null", "NULL", "true", "True", "TRUE", "false", "False", "FALSE",
   ".nan", ".NaN", ".NAN", ".inf", ".Inf", ".INF", "+.inf", "+.Inf", "+.INF",
   "-.inf", "-.Inf", "-.INF"]

/-- A text without the sign in front, if there is one, and whether that is a minus sign. -/
def cutSign : List Char → Bool × List Char
  | '+' :: cs => (false, cs)
  | '-' :: cs => (true, cs)
  | cs => (false, cs)

/-- Whether digits of a base, without a sign, are read as a whole number: it has 128 bits at
most. -/
def isWhole (base : Nat) (negative : Bool) (digits : List Char) : Bool :=
  (Number.ofDigitText? base digits).any fun n =>
    n < Nat.pow 2 128 && (!negative || n ≤ Nat.pow 2 127)

/-- Whether a text without a sign is read as a number of double precision: it has a digit before or
behind the point, and the number is not too large. -/
def isDouble (negative : Bool) (cs : List Char) : Bool :=
  let (integral, rest) := Json.spanDigits cs
  let (fraction, rest) := match rest with
    | '.' :: cs => Json.spanDigits cs
    | cs => ([], cs)
  match Json.readExponent rest with
  | some (exponent, []) =>
    !(integral ++ fraction).isEmpty
      && (Json.Numeral.nearest ⟨cs, negative, integral, some fraction, exponent⟩).isSome
  | _ => false

/-- Whether a text is read as a number, in whichever base it is written. -/
def isNumber (cs : List Char) : Bool :=
  match cutSign cs with
  | (negative, '0' :: 'x' :: digits) => isWhole 16 negative digits
  | (negative, '0' :: 'o' :: digits) => isWhole 8 negative digits
  | (negative, '0' :: 'b' :: digits) => isWhole 2 negative digits
  | (negative, digits) => isDouble negative digits

/-- Whether a text is read as no text. -/
def isAmbiguous (s : String) : Bool :=
  reservedWords.contains s || isNumber s.toList

/-! ### Indicators -/

/-- Whether a character, if there is one, is a blank of YAML or ends a line. -/
def isGap (c : Option Char) : Bool :=
  c.elim true [' ', '\t', '\r', '\n', '\x85', '\u2028', '\u2029'].contains

/-- Whether a colon in front of a gap stands in a text, or a number sign behind one; `before` is the
character in front of the text. -/
def hasIndicator (before : Option Char) : List Char → Bool
  | [] => false
  | c :: cs =>
    (c == ':' && isGap cs.head?) || (c == '#' && isGap before) || hasIndicator (some c) cs

/-- Characters that no text without quotes starts with. -/
def indicators : List Char :=
  [',', '[', ']', '\x7b', '\x7d', '&', '*', '!', '|', '>', '\'', '\x22', '%', '@', '\x60']

/-- Whether a text starts with an indicator or like the line between two documents. -/
def startsIndicator : List Char → Bool
  | '-' :: '-' :: '-' :: _ | '.' :: '.' :: '.' :: _ => true
  | c :: cs => indicators.contains c || (['?', '-'].contains c && isGap cs.head?)
  | [] => false

/-- The code points behind those of control characters that have no form of their own. -/
def formless : List Nat := [0x2028, 0x2029, 0xfeff, 0xfffe, 0xffff]

/-- Whether a character can stand for itself. -/
def isPresentable (c : Char) : Bool :=
  let n := c.toNat
  n == 0x0a || (0x20 ≤ n && n ≤ 0x7e) || (0xa0 ≤ n && !formless.contains n)

/-- Whether a space stands at an end of a text. -/
def hasOuterSpace (cs : List Char) : Bool :=
  cs.head? == some ' ' || cs.getLast? == some ' '

/-- Whether a text on one line can stand without quotes. -/
def standsPlain (cs : List Char) : Bool :=
  !startsIndicator cs && !hasIndicator none cs && !hasOuterSpace cs

/-! ### Styles -/

/-- The styles of scalars. -/
inductive Style
  | plain
  | singleQuoted
  | doubleQuoted
  /-- Lines of their own behind a bar. -/
  | literal
deriving DecidableEq, Repr

/-- The style of a text. Lines that end in a space cannot stand as they are. -/
def Style.of (s : String) : Style :=
  if !s.toList.all isPresentable then .doubleQuoted
  else
    match s.toList.splitOn '\n' with
    | [line] => if !isAmbiguous s && standsPlain line then .plain else .singleQuoted
    | lines => if lines.any fun l => l.getLast? == some ' ' then .doubleQuoted else .literal

/-- A character between single quotes. -/
def singleQuotedChar (c : Char) : List Char :=
  if c = '\'' then ['\'', '\''] else [c]

/-- The characters that have an escape of one letter, with the letter. -/
def escapeLetters : List (Char × Char) :=
  [('\x00', '0'), ('\x07', 'a'), ('\x08', 'b'), ('\t', 't'), ('\n', 'n'), ('\x0b', 'v'),
   ('\x0c', 'f'), ('\r', 'r'), ('\x1b', 'e'), ('\x22', '\x22'), ('\\', '\\'), ('\x85', 'N'),
   ('\u2028', 'L'), ('\u2029', 'P')]

/-- A character between double quotes. -/
def doubleQuotedChar (c : Char) : List Char :=
  match escapeLetters.lookup c with
  | some letter => ['\\', letter]
  | none =>
    if isPresentable c then [c]
    else if c.toNat < 0x100 then '\\' :: 'x' :: (Text.hexCode 2 c).map Char.toUpper
    else '\\' :: 'u' :: (Text.hexCode 4 c).map Char.toUpper

/-- What is said of the end of a text of several lines: a hyphen if the last one does not end, a
plus sign if there are empty ones behind it. -/
def chompingSign (cs : List Char) : List Char :=
  if cs.getLast? != some '\n' then ['-']
  else if cs == ['\n'] || cs.dropLast.getLast? == some '\n' then ['+'] else []

/-- A text as lines of their own, moved in by some spaces. How far is said only where the first line
does not show it: it is two spaces more than what stands around it. -/
def literalLines (indent : Nat) (cs : List Char) : List Char :=
  let hint := if [some ' ', some '\n'].contains cs.head? then ['2'] else []
  let lines := (if cs.getLast? = some '\n' then cs.dropLast else cs).splitOn '\n'
  '|' :: hint ++ chompingSign cs
    ++ lines.flatMap fun l => '\n' :: if l.isEmpty then [] else List.replicate indent ' ' ++ l

/-- A text as a scalar; lines of their own are moved in by so many spaces. -/
def write (indent : Nat) (s : String) : String :=
  let cs := s.toList
  match Style.of s with
  | .plain => s
  | .singleQuoted => String.ofList ('\'' :: cs.flatMap singleQuotedChar ++ ['\''])
  | .doubleQuoted => String.ofList ('\x22' :: cs.flatMap doubleQuotedChar ++ ['\x22'])
  | .literal => String.ofList (literalLines indent cs)

end ProfileMatch.Scalar
