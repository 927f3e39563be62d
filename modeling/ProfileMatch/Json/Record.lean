import ProfileMatch.Json.Basic
/-!
Records read from JSON values. A record is given as an object, whose members are read in their
order, or as an array of its fields in the order of their declaration. The first fault in the input
counts; fields that are not there are looked for last.

* `Record.read`: the reader for a declared record;
* `RecordFault.message`: the words for what is wrong;
* `Record.bool`, `Record.text`, `Record.integer`, `Record.optional`, `Record.choice`: readers for
  the fields.
-/

namespace ProfileMatch

/-- What is wrong with a record. -/
inductive RecordFault
  | unknownField (name : String) (known : List String)
  | missingField (name : String)
  | wrongType (got : Json) (wanted : String)
  | outOfRange (i : Int) (wanted : String)
  | unknownChoice (name : String) (known : List String)
  | manyChoices
  | shortArray (length : Nat) (wanted : String)
  | longArray (length : Nat)
  /-- A field was refused by a reader with words of its own. -/
  | refused (message : String)

namespace RecordFault

/-- What a value is, in a message on its type. -/
def describe : Json → String
  | .null => "null"
  | .bool b => "boolean `" ++ (if b then "true" else "false") ++ "`"
  | .number (.whole i) => "integer `" ++ Number.decimal i ++ "`"
  | .number (.double d) => "floating point `" ++ d.text ++ "`"
  | .string s => "string " ++ Text.literal s
  | .array _ => "sequence"
  | .object _ => "map"

/-- The names one of which is expected. -/
def expectation (names : List String) : String :=
  let ticked := names.map fun n => "`" ++ n ++ "`"
  match ticked with
  | [] => "there are no fields"
  | [a] => "expected " ++ a
  | [a, b] => "expected " ++ a ++ " or " ++ b
  | _ => "expected one of " ++ ", ".intercalate ticked

/-- The words for a fault. -/
def message : RecordFault → String
  | unknownField name known => "unknown field `" ++ name ++ "`, " ++ expectation known
  | missingField name => "missing field `" ++ name ++ "`"
  | wrongType got wanted => "invalid type: " ++ describe got ++ ", expected " ++ wanted
  | outOfRange i wanted =>
    "invalid value: integer `" ++ Number.decimal i ++ "`, expected " ++ wanted
  | unknownChoice name known => "unknown variant `" ++ name ++ "`, " ++ expectation known
  | manyChoices => "invalid value: map, expected map with a single key"
  | shortArray length wanted => "invalid length " ++ length.repr ++ ", expected " ++ wanted
  | longArray length =>
    "invalid length " ++ length.repr ++ ", expected fewer elements in array"
  | refused message => message

end RecordFault

namespace Record

/-- What follows if a field is not there. -/
inductive Absence
  /-- It has to be there. -/
  | fault
  /-- An object may leave it out, an array may not. -/
  | inObject
  /-- It may be left out. -/
  | allowed
deriving DecidableEq

/-- A field of a record of type `ρ`: how a value is put into the record. -/
structure Field (ρ : Type) where
  name : String
  absence : Absence
  put : Json → ρ → Except RecordFault ρ

/-- A record: how it is called, its fields in order, and the record that none of them is put
into. -/
structure Shape (ρ : Type) where
  title : String
  fields : List (Field ρ)
  initial : ρ
  /-- Whether members that are no fields are passed over. -/
  lenient : Bool

variable {ρ : Type}

/-- Puts a member of an object into the record. -/
def putMember (s : Shape ρ) (r : ρ) (m : String × Json) : Except RecordFault ρ :=
  match s.fields.find? fun f => f.name == m.1 with
  | some f => f.put m.2 r
  | none =>
    if s.lenient then .ok r else .error (.unknownField m.1 (s.fields.map Field.name))

/-- The first field that an object has to have and does not. -/
def missing? (s : Shape ρ) (members : List (String × Json)) : Option String :=
  ((s.fields.filter fun f => f.absence == .fault).map Field.name).find? fun n =>
    !(members.any fun m => m.1 == n)

/-- How a record and the number of its fields are called. -/
def sized (s : Shape ρ) : String :=
  s.title ++ " with " ++ s.fields.length.repr
    ++ (if s.fields.length = 1 then " element" else " elements")

/-- Puts the items of an array into the fields, from the field at a place on; `length` is the
length of the array. -/
def putItems (s : Shape ρ) (length : Nat) :
    Nat → List (Field ρ) → List Json → ρ → Except RecordFault ρ
  | _, [], [], r => .ok r
  | _, [], _ :: _, _ => .error (.longArray length)
  | place, f :: fs, [], r =>
    if f.absence = .allowed then putItems s length (place + 1) fs [] r
    else .error (.shortArray place (sized s))
  | place, f :: fs, v :: vs, r =>
    match f.put v r with
    | .ok r => putItems s length (place + 1) fs vs r
    | .error e => .error e

/-- The record that a value writes. -/
def read (s : Shape ρ) : Json → Except RecordFault ρ
  | .object members =>
    match members.foldlM (putMember s) s.initial with
    | .error e => .error e
    | .ok r =>
      match missing? s members with
      | some name => .error (.missingField name)
      | none => .ok r
  | .array items => putItems s items.length 0 s.fields items s.initial
  | value => .error (.wrongType value s.title)

/-! ### Fields -/

def bool : Json → Except RecordFault Bool
  | .bool b => .ok b
  | value => .error (.wrongType value "a boolean")

def text : Json → Except RecordFault String
  | .string s => .ok s
  | value => .error (.wrongType value "a string")

/-- A text, where any scalar stands for the text that writes it. -/
def looseText : Json → Except RecordFault String
  | .null => .ok "null"
  | value =>
    match value.scalarText? with
    | some s => .ok s
    | none => .error (.wrongType value "a string")

/-- An integer of a range. -/
def integer (r : IntegerRange) : Json → Except RecordFault Int
  | .number (.whole i) => if r.holds i then .ok i else .error (.outOfRange i r.name)
  | value => .error (.wrongType value r.name)

/-- A natural number of a range. -/
def natural (r : IntegerRange) (value : Json) : Except RecordFault Nat :=
  (integer r value).map Int.toNat

/-- A value that may be null. -/
def optional {α : Type} (reader : Json → Except RecordFault α) :
    Json → Except RecordFault (Option α)
  | .null => .ok none
  | value => (reader value).map some

/-- One of some named values: its name, or an object whose only member has its name and is null. -/
def choice {α : Type} (choices : List (String × α)) : Json → Except RecordFault α
  | .string name =>
    match choices.lookup name with
    | some a => .ok a
    | none => .error (.unknownChoice name (choices.map Prod.fst))
  | .object [(name, value)] =>
    match choices.lookup name, value with
    | some a, .null => .ok a
    | some _, value => .error (.wrongType value "unit")
    | none, _ => .error (.unknownChoice name (choices.map Prod.fst))
  | .object _ => .error .manyChoices
  | value => .error (.wrongType value "string or map")

end Record

end ProfileMatch
