import ProfileMatch.Profile.Basic
/-!
Reading profiles from JSON values, and writing them.

* `Value.ofKind`: a value of a known property, by the kind that the schema gives it;
* `Value.ofUnknown`: a value of a property that the schema does not hold;
* `Profile.ofJson`: a profile; settings and properties are read in the order of the input, and the
  first fault in it counts;
* `Profile.toJson`: a profile as JSON.
-/

namespace ProfileMatch

/-- What is wrong with a profile. -/
inductive ProfileFault
  | noSettings (got : Json)
  | noProperties (setting : String) (got : Json)
  | badValue (got : Json) (key : Key)
  | badRoute (cause : RouteFault)

/-- The words for a fault. -/
def ProfileFault.message : ProfileFault → String
  | .noSettings got => "Expecting dict of settings, but got " ++ got.text
  | .noProperties setting got =>
    "Expecting dict for setting " ++ setting ++ ", but got " ++ got.text
  | .badValue got key => "Invalid value " ++ got.text ++ " for property " ++ key.text
  | .badRoute cause => cause.message

/-- The failure that a fault is reported as. -/
def ProfileFault.failure (e : ProfileFault) : Failure := .invalid e.message

namespace Value

/-- A truth value, also as the word for it. -/
def readBool : Json → Option Value
  | .bool b => some (.bool b)
  | .string s =>
    if s = "yes" ∨ s = "true" then some (.bool true)
    else if s = "no" ∨ s = "false" then some (.bool false)
    else none
  | _ => none

/-- An integer, also as text. -/
def readInt : Json → Option Value
  | .number n => (n.within? .i64).map .int
  | .string s => (IntegerRange.i64.read? s).map .int
  | _ => none

/-- A text, also written as a number or as a truth value. -/
def readText (value : Json) : Option Value :=
  value.scalarText?.map .text

/-- A list of texts, also written as one text with commas. -/
def readList : Json → Option Value
  | .array items => (items.mapM Json.scalarText?).map .list
  | .string s => some (.list (Text.listItems s))
  | _ => none

/-- The entry that a member with a scalar value writes. -/
def readEntry (m : String × Json) : Option (String × String) :=
  m.2.scalarText?.map fun s => (m.1, s)

/-- A map from names to texts. -/
def readMap : Json → Option Value
  | .object members => (members.mapM readEntry).map fun es => .map (.ofList es)
  | _ => none

/-- The family of the routes of a setting. -/
def routeFamily (setting : String) : Family :=
  if setting = Family.name .v6 then .v6 else .v4

/-- What was read for a key, or the fault that it could not be. -/
def orBad (key : Key) (value : Json) : Option Value → Except ProfileFault (Option Value)
  | some v => .ok (some v)
  | none => .error (.badValue value key)

/-- A text for a key; the empty one means that the property is unset. -/
def ofText (key : Key) : Json → Except ProfileFault (Option Value)
  | .string "" => .ok none
  | value => orBad key value (readText value)

/-- The routes of a setting, which have to be of its family. -/
def ofRoutes (key : Key) : Json → Except ProfileFault (Option Value)
  | .array items =>
    match items.mapM (Route.ofJson (routeFamily key.setting)) with
    | .ok rs => .ok (some (.routes rs))
    | .error cause => .error (.badRoute cause)
  | value => .error (.badValue value key)

/-- A value of a kind for a key. -/
def ofKind (kind : Kind) (key : Key) (value : Json) : Except ProfileFault (Option Value) :=
  match kind with
  | .bool => orBad key value (readBool value)
  | .int => orBad key value (readInt value)
  | .text => ofText key value
  | .list => orBad key value (readList value)
  | .map => orBad key value (readMap value)
  | .routes => ofRoutes key value

/-- A value of a property that the schema does not hold: it keeps its form, but in a list or a map
only scalars stay, as texts. -/
def ofUnknown : Json → Option Value
  | .null => none
  | .bool b => some (.bool b)
  | .number n =>
    match n.within? .i64 with
    | some i => some (.int i)
    | none => some (.text n.text)
  | .string s => some (.text s)
  | .array items => some (.list (items.filterMap Json.scalarText?))
  | .object members => some (.map (.ofList (members.filterMap readEntry)))

/-- The value that a JSON value writes for a key; null writes none. -/
def ofJson (key : Key) (value : Json) : Except ProfileFault (Option Value) :=
  match value with
  | .null => .ok none
  | value =>
    match Property.of? key with
    | some p => ofKind p.kind key value
    | none => .ok (ofUnknown value)

end Value

namespace Profile

/-- Adds the property that a member writes to a setting. -/
def addProperty (setting : String) (s : Setting) (m : String × Json) :
    Except ProfileFault Setting :=
  match Value.ofJson ⟨setting, m.1⟩ m.2 with
  | .ok (some v) => .ok (s.insert m.1 v)
  | .ok none => .ok s
  | .error e => .error e

/-- A setting; null writes one without properties. -/
def readSetting (setting : String) : Json → Except ProfileFault Setting
  | .object members => members.foldlM (addProperty setting) .empty
  | .null => .ok .empty
  | value => .error (.noProperties setting value)

/-- Adds the setting that a member writes to a profile. -/
def addMember (p : Profile) (m : String × Json) : Except ProfileFault Profile :=
  match readSetting m.1 m.2 with
  | .ok s => .ok ⟨p.settings.insert m.1 s⟩
  | .error e => .error e

/-- The profile that a JSON value writes. -/
def ofJson : Json → Except ProfileFault Profile
  | .object members => members.foldlM addMember empty
  | value => .error (.noSettings value)

/-- A setting as an object. -/
def settingToJson (s : Setting) : Json :=
  .object (s.mapValues Value.toJson).entries

/-- A profile as an object of objects. -/
def toJson (p : Profile) : Json :=
  .object (p.settings.mapValues settingToJson).entries

end Profile

end ProfileMatch
