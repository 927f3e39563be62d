/-!
Patterns for names of interfaces. A pattern is matched against the octets of a whole name.

* `Glob.Token`: the parts of a pattern: characters, single and multiple wildcards, the double
  wildcards that go with a slash, classes of octets and alternatives;
* `Glob.parse?`: the reader; a pattern with a brace, a class or an escape that is left open, or a
  range in descending order, is none;
* `Glob.Token.step`: what a part makes of the places that the parts before it can have reached.
-/

namespace ProfileMatch.Glob

/-- A part of a pattern. -/
inductive Token
  /-- A character that stands for itself. -/
  | literal (c : Char)
  /-- Any one octet. -/
  | any
  /-- Any octets. -/
  | star
  /-- Nothing, one slash, or any octets up to and with a slash. -/
  | leading
  /-- A slash and any octets. -/
  | trailing
  /-- One slash, or a slash, any octets and another slash. -/
  | between
  /-- One octet of the ranges, or one that is not of them. -/
  | oneOf (negated : Bool) (ranges : List (Char × Char))
  /-- One of several patterns. -/
  | alternatives (branches : List (List Token))

/-! ### Reading -/

/-- The branches and tokens read since a brace was opened; both have the last first. -/
structure Level where
  branches : List (List Token)
  tokens : List Token

/-- The levels of braces, the innermost apart. -/
structure Progress where
  inner : Level
  outer : List Level

namespace Progress

/-- A pattern of which nothing is read. -/
def start : Progress := ⟨⟨[], []⟩, []⟩

/-- Whether a brace is open. -/
def inBraces (p : Progress) : Bool := !p.outer.isEmpty

def push (p : Progress) (t : Token) : Progress :=
  { p with inner := { p.inner with tokens := t :: p.inner.tokens } }

/-- Opens a brace. -/
def openBrace (p : Progress) : Progress := ⟨⟨[], []⟩, p.inner :: p.outer⟩

/-- Ends a branch, if a brace is open; else a comma stands for itself. -/
def comma (p : Progress) : Progress :=
  if p.inBraces then
    { p with inner := ⟨p.inner.tokens.reverse :: p.inner.branches, []⟩ }
  else p.push (.literal ',')

/-- Closes a brace, if one is open. -/
def closeBrace? (p : Progress) : Option Progress :=
  match p.outer with
  | [] => none
  | level :: levels =>
    let branches := (p.inner.tokens.reverse :: p.inner.branches).reverse
    some (Progress.push ⟨level, levels⟩ (.alternatives branches))

/-- Replaces the last token by the double wildcard that goes with the slash it stands for; a double
wildcard takes in the one behind it. -/
def absorbSlash (p : Progress) (double : Token) : Progress :=
  match p.inner.tokens with
  | .leading :: _ => p
  | .trailing :: _ => p
  | _ :: ts => { p with inner := { p.inner with tokens := double :: ts } }
  | [] => p

end Progress

/-- A class of which some members are read, the last first. -/
structure ClassProgress where
  negated : Bool
  ranges : List (Char × Char)
  /-- No member is read yet, so that a bracket or a hyphen stands for itself. -/
  atStart : Bool
  /-- A hyphen is read that may be that of a range. -/
  afterHyphen : Bool

/-- A member of a class, or the end of a range that a hyphen has opened; the end may not be below
the start. -/
def ClassProgress.add? (k : ClassProgress) (c : Char) : Option ClassProgress :=
  match k.afterHyphen, k.ranges with
  | true, r :: rs =>
    if c < r.1 then none else some { k with ranges := (r.1, c) :: rs, afterHyphen := false }
  | _, rs => some { k with ranges := (c, c) :: rs, atStart := false, afterHyphen := false }

/-- The class that is read when its bracket closes; a hyphen at the end stands for itself. -/
def ClassProgress.token (k : ClassProgress) : Token :=
  .oneOf k.negated (if k.afterHyphen then ('-', '-') :: k.ranges else k.ranges).reverse

/-- What the next character belongs to. -/
inductive Mode
  | plain
  | escape
  | inClass (k : ClassProgress)

/-- Reads a pattern from a place on; `before` is the character in front of it. -/
def parseFrom (p : Progress) (before : Option Char) : Mode → List Char → Option (List Token)
  | .plain, [] => if p.inBraces then none else some p.inner.tokens.reverse
  | .escape, [] => none
  | .inClass _, [] => none
  | .escape, c :: cs => parseFrom (p.push (.literal c)) (some c) .plain cs
  | .inClass k, c :: cs =>
    if c = ']' ∧ !k.atStart then parseFrom (p.push k.token) (some c) .plain cs
    else if c = '-' ∧ !k.atStart ∧ !k.afterHyphen then
      parseFrom p (some c) (.inClass { k with afterHyphen := true }) cs
    else
      match k.add? c with
      | some k => parseFrom p (some c) (.inClass k) cs
      | none => none
  | .plain, '\\' :: cs => parseFrom p (some '\\') .escape cs
  | .plain, '?' :: cs => parseFrom (p.push .any) (some '?') .plain cs
  | .plain, '[' :: '!' :: cs =>
    parseFrom p (some '!') (.inClass ⟨true, [], true, false⟩) cs
  | .plain, '[' :: '^' :: cs =>
    parseFrom p (some '^') (.inClass ⟨true, [], true, false⟩) cs
  | .plain, '[' :: cs => parseFrom p (some '[') (.inClass ⟨false, [], true, false⟩) cs
  | .plain, '\x7b' :: cs => parseFrom p.openBrace (some '\x7b') .plain cs
  | .plain, '\x7d' :: cs =>
    match p.closeBrace? with
    | some p => parseFrom p (some '\x7d') .plain cs
    | none => none
  | .plain, ',' :: cs => parseFrom p.comma (some ',') .plain cs
  | .plain, '*' :: '*' :: cs =>
    let twoStars := (p.push .star).push .star
    if p.inner.tokens.isEmpty then
      match cs with
      | [] => parseFrom (p.push .leading) (some '*') .plain []
      | '/' :: cs => parseFrom (p.push .leading) (some '/') .plain cs
      | cs => parseFrom twoStars (some '*') .plain cs
    else if before = some '/' ∨ (p.inBraces ∧ (before = some ',' ∨ before = some '\x7b')) then
      match cs with
      | [] => parseFrom (p.absorbSlash .trailing) (some '*') .plain []
      | '/' :: cs => parseFrom (p.absorbSlash .between) (some '/') .plain cs
      | c :: cs =>
        if p.inBraces ∧ (c = ',' ∨ c = '\x7d') then
          parseFrom (p.absorbSlash .trailing) (some '*') .plain (c :: cs)
        else parseFrom twoStars (some '*') .plain (c :: cs)
    else parseFrom twoStars (some '*') .plain cs
  | .plain, '*' :: cs => parseFrom (p.push .star) (some '*') .plain cs
  | .plain, c :: cs => parseFrom (p.push (.literal c)) (some c) .plain cs
termination_by _ cs => cs.length
decreasing_by all_goals (simp only [List.length_cons]; omega)

/-- The tokens of a pattern, if it is one. -/
def parse? (pattern : String) : Option (List Token) :=
  parseFrom .start none .plain pattern.toList

/-! ### Matching -/

/-- The ranges of octets that a range of characters stands for: the octets of its first character
but the last, the range from there to the first octet of its last character, and the other octets of
that one. -/
def octetRanges (r : Char × Char) : List (UInt8 × UInt8) :=
  let first := String.utf8EncodeChar r.1
  let last := String.utf8EncodeChar r.2
  if r.1 = r.2 then first.map fun o => (o, o)
  else
    (first.dropLast.map fun o => (o, o))
      ++ [(first.getLast?.getD 0, last.head?.getD 0)]
      ++ (last.drop 1).map fun o => (o, o)

/-- Whether an octet is in one of the ranges. -/
def inRanges (ranges : List (Char × Char)) (o : UInt8) : Bool :=
  (ranges.flatMap octetRanges).any fun r => r.1 ≤ o && o ≤ r.2

/-- The places one octet further than reached ones, where the octet is as wanted. Places are given
by a list with one entry for each, from the start of a name to its end. -/
def forward (wanted : UInt8 → Bool) (octets : List UInt8) (reached : List Bool) : List Bool :=
  false :: List.zipWith (fun r o => r && wanted o) reached octets

/-- The places at or behind a reached one. -/
def spread (seen : Bool) : List Bool → List Bool
  | [] => []
  | r :: rs => (seen || r) :: spread (seen || r) rs

/-- The places reached in one way or another. -/
def orElse (a b : List Bool) : List Bool :=
  List.zipWith (· || ·) a b

/-- Whether an octet is a slash. -/
def isSlash (o : UInt8) : Bool := o == 0x2f

mutual

/-- Whether a part of a pattern stands for nothing at all, as alternatives do that have no branch
but such. -/
def Token.isVoid : Token → Bool
  | .alternatives branches => allVoid branches
  | _ => false

/-- Whether all parts of a pattern stand for nothing. -/
def isVoid : List Token → Bool
  | [] => true
  | t :: ts => t.isVoid && isVoid ts

def allVoid : List (List Token) → Bool
  | [] => true
  | b :: bs => isVoid b && allVoid bs

end

mutual

/-- The places that a part reaches from the reached ones. -/
def Token.step (octets : List UInt8) (reached : List Bool) : Token → List Bool
  | .literal c =>
    (String.utf8EncodeChar c).foldl (fun r o => forward (· == o) octets r) reached
  | .any => forward (fun _ => true) octets reached
  | .star => spread false reached
  | .leading => orElse reached (forward isSlash octets (spread false reached))
  | .trailing => spread false (forward isSlash octets reached)
  | .between =>
    let behind := forward isSlash octets reached
    orElse behind (forward isSlash octets (spread false behind))
  | .oneOf negated ranges => forward (fun o => inRanges ranges o != negated) octets reached
  | .alternatives branches =>
    if allVoid branches then reached else stepBranches octets reached branches

/-- The places that parts in turn reach from the reached ones. -/
def stepAll (octets : List UInt8) (reached : List Bool) : List Token → List Bool
  | [] => reached
  | t :: ts => stepAll octets (t.step octets reached) ts

/-- The places that some branch reaches; a branch that stands for nothing does not count. -/
def stepBranches (octets : List UInt8) (reached : List Bool) : List (List Token) → List Bool
  | [] => reached.map fun _ => false
  | b :: bs =>
    let rest := stepBranches octets reached bs
    if isVoid b then rest else orElse (stepAll octets reached b) rest

end

/-- Whether the tokens match a whole name; the double wildcard alone matches every name. -/
def matchesTokens (tokens : List Token) (name : String) : Bool :=
  match tokens with
  | [.leading] => true
  | tokens =>
    let octets := name.toList.flatMap String.utf8EncodeChar
    let start := true :: octets.map fun _ => false
    (stepAll octets start tokens).getLast? == some true

/-- Whether a name matches a pattern; what is no pattern matches its own text only. -/
def globMatches (pattern name : String) : Bool :=
  match parse? pattern with
  | some tokens => matchesTokens tokens name
  | none => pattern == name

end ProfileMatch.Glob
