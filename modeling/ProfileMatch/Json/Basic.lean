import ProfileMatch.Number.Bounded
import ProfileMatch.Number.Shortest
import ProfileMatch.Text.Quoted
/-!
JSON values. The members of an object keep the order in which they were written, since the first
fault in that order is the one reported; whole numbers and numbers with a fraction are told apart.

* `Json.member?`: the value of a member;
* `Json.text`: a value on one line, without blanks between its parts;
* `Json.scalarText?`: the text that a scalar stands for where a text is wanted.
-/

namespace ProfileMatch

/-- A JSON number, whole or of double precision. -/
inductive Json.Number
  | whole (i : Int)
  | double (d : Double)
deriving DecidableEq, Repr

/-- A number as it is written. -/
def Json.Number.text : Json.Number → String
  | .whole i => ProfileMatch.Number.decimal i
  | .double d => d.text

/-- The number as an integer of a range. -/
def Json.Number.within? (r : IntegerRange) : Json.Number → Option Int
  | .whole i => if r.holds i then some i else none
  | .double _ => none

/-- A JSON value. -/
inductive Json
  | null
  | bool (b : Bool)
  | number (n : Json.Number)
  | string (s : String)
  | array (items : List Json)
  | object (members : List (String × Json))

namespace Json

instance : Inhabited Json := ⟨null⟩

/-- A whole number as a value. -/
def int (i : Int) : Json := number (.whole i)

/-- The value of a member of an object; of a value of another kind there is none. -/
def member? (name : String) : Json → Option Json
  | object members => members.lookup name
  | _ => none

def string? : Json → Option String
  | string s => some s
  | _ => none

/-- The value as an integer of a range. -/
def within? (r : IntegerRange) : Json → Option Int
  | number n => n.within? r
  | _ => none

/-- The text that a scalar other than null stands for: a text itself, a number or a truth value as
it is written. -/
def scalarText? : Json → Option String
  | string s => some s
  | number n => some n.text
  | bool b => some (if b then "true" else "false")
  | _ => none

/-- Adds a member to a list of members; an earlier member of that name keeps its place and takes
the new value. -/
def putMember (name : String) (value : Json) : List (String × Json) → List (String × Json)
  | [] => [(name, value)]
  | m :: ms => if m.1 = name then (name, value) :: ms else m :: putMember name value ms

mutual

/-- A value on one line, without blanks between its parts. -/
def text : Json → String
  | null => "null"
  | bool b => if b then "true" else "false"
  | number n => n.text
  | string s => Text.quoted s
  | array items => "[" ++ ",".intercalate (itemTexts items) ++ "]"
  | object members => "\x7b" ++ ",".intercalate (memberTexts members) ++ "\x7d"

def itemTexts : List Json → List String
  | [] => []
  | v :: vs => text v :: itemTexts vs

def memberTexts : List (String × Json) → List String
  | [] => []
  | (k, v) :: ms => (Text.quoted k ++ ":" ++ text v) :: memberTexts ms

end

end Json

end ProfileMatch
