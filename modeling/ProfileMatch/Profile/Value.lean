import ProfileMatch.Route.Reader
import ProfileMatch.Table
/-!
Values of properties.

* `Value`: a value of one of six kinds; the kind is part of the value, so that an empty list of
  texts and an empty list of routes differ;
* `Value.line`: a value on one line;
* `Value.toJson`: a value as JSON, where the kind is no longer seen.
-/

namespace ProfileMatch

/-- The kinds of values. -/
inductive Kind
  | bool
  | int
  | text
  | list
  | map
  | routes
deriving DecidableEq, Repr

/-- A value of a property. -/
inductive Value
  | bool (b : Bool)
  | int (i : Int)
  | text (s : String)
  | list (items : List String)
  | map (entries : Table String)
  | routes (routes : List Route)
deriving DecidableEq

namespace Value

/-- The kind of a value. -/
def kind : Value → Kind
  | bool _ => .bool
  | int _ => .int
  | text _ => .text
  | list _ => .list
  | map _ => .map
  | routes _ => .routes

def bool? : Value → Option Bool
  | bool b => some b
  | _ => none

def int? : Value → Option Int
  | int i => some i
  | _ => none

def text? : Value → Option String
  | text s => some s
  | _ => none

def list? : Value → Option (List String)
  | list items => some items
  | _ => none

def map? : Value → Option (Table String)
  | map entries => some entries
  | _ => none

def routes? : Value → Option (List Route)
  | routes rs => some rs
  | _ => none

/-- A value on one line. -/
def line : Value → String
  | bool b => if b then "true" else "false"
  | int i => Number.decimal i
  | text s => s
  | list items => "[" ++ ", ".intercalate items ++ "]"
  | map entries =>
    "\x7b" ++ ", ".intercalate (entries.entries.map fun e => e.1 ++ "=" ++ e.2) ++ "\x7d"
  | routes rs => "[" ++ ", ".intercalate (rs.map Route.text) ++ "]"

/-- A value as JSON. -/
def toJson : Value → Json
  | bool b => .bool b
  | int i => .int i
  | text s => .string s
  | list items => .array (items.map .string)
  | map entries => .object (entries.entries.map fun e => (e.1, .string e.2))
  | routes rs => .array (rs.map Route.toJson)

end Value

end ProfileMatch
