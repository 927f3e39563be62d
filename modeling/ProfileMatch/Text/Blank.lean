/-!
White space and the cuts made at it. A blank is a character of the Unicode property White_Space,
which holds more than the blanks of ASCII: the no-break space and the ideographic space are in it,
the zero width space is not.

* `isBlank`: the property, as ranges of code points;
* `trim`, `trimEnd`: a text without the blanks at its two ends, or at its end;
* `words`: the longest runs without a blank;
* `listItems`: the items between commas, trimmed, the empty ones left out.
-/

namespace ProfileMatch.Text

/-- The ranges of code points of the property White_Space, both ends included. -/
def blankRanges : List (Nat × Nat) :=
  [(0x09, 0x0d), (0x20, 0x20), (0x85, 0x85), (0xa0, 0xa0), (0x1680, 0x1680), (0x2000, 0x200a),
   (0x2028, 0x2029), (0x202f, 0x202f), (0x205f, 0x205f), (0x3000, 0x3000)]

/-- Whether a character has the property White_Space. -/
def isBlank (c : Char) : Bool :=
  blankRanges.any fun r => r.1 ≤ c.toNat && c.toNat ≤ r.2

/-- The characters without the blanks after the last other one. -/
def trimEndChars (cs : List Char) : List Char :=
  (cs.reverse.dropWhile isBlank).reverse

/-- The characters without the blanks before the first and after the last other one. -/
def trimChars (cs : List Char) : List Char :=
  trimEndChars (cs.dropWhile isBlank)

/-- A text without the blanks at its two ends. -/
def trim (s : String) : String :=
  String.ofList (trimChars s.toList)

/-- A text without the blanks at its end. -/
def trimEnd (s : String) : String :=
  String.ofList (trimEndChars s.toList)

/-- The longest runs of characters that are no blank, in order. -/
def wordsOf (cs : List Char) : List (List Char) :=
  (cs.splitOnP isBlank).filter (fun w => !w.isEmpty)

/-- The words of a text: its longest parts without a blank. -/
def words (s : String) : List String :=
  (wordsOf s.toList).map String.ofList

/-- The items of a list written with commas: each is trimmed, and one that is then empty does not
count. -/
def listItems (s : String) : List String :=
  (((s.toList.splitOn ',').map trimChars).filter (fun w => !w.isEmpty)).map String.ofList

/-- The two sides of the first place where a character stands, or none if it stands nowhere. -/
def cut? (sep : Char) : List Char → Option (List Char × List Char)
  | [] => none
  | c :: cs => if c = sep then some ([], cs) else (cut? sep cs).map fun p => (c :: p.1, p.2)

/-- What follows an opening, if the text opens with it. -/
def after? : List Char → List Char → Option (List Char)
  | [], cs => some cs
  | _ :: _, [] => none
  | o :: os, c :: cs => if o = c then after? os cs else none

/-- What a text goes on with exactly when it opens so. -/
theorem after?_eq_some_iff {os cs rest : List Char} :
    after? os cs = some rest ↔ cs = os ++ rest := by
  induction os generalizing cs with
  | nil => simp [after?]
  | cons o os ih =>
    cases cs with
    | nil => simp [after?]
    | cons c cs =>
      rw [after?]
      by_cases h : o = c
      · simp [h, ih]
      · simp [h, Ne.symm h]

end ProfileMatch.Text
