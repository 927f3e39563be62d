import ProfileMatch.Json.Record
import ProfileMatch.Profile.Basic
/-!
What a match is told besides the profiles.

* `Options`: the mode of matching, the carrier of the device and the metrics of routes that leave
  theirs open;
* `Lookup`: access to the stored profiles by identifier; what can be one is for the caller to say.
-/

namespace ProfileMatch

/-- Options of a match. -/
structure Options where
  /-- The candidates are known to belong to the device: only the kind of connection is checked. -/
  indicated : Bool
  /-- The device has a carrier, so that it could have obtained an address. -/
  hasCarrier : Bool
  /-- The metric of open routes of the narrow family. -/
  metric4 : Int
  /-- The metric of open routes of the wide family. -/
  metric6 : Int
deriving DecidableEq, Repr

namespace Options

/-- The options where nothing is said. -/
def default : Options :=
  ⟨false, true, Route.openMetric, Route.openMetric⟩

instance : Inhabited Options := ⟨default⟩

/-- The metric of open routes of a family. -/
def metric (o : Options) : Family → Int
  | .v4 => o.metric4
  | .v6 => o.metric6

open Record in
/-- Options as a record; fields that are left out keep their defaults. -/
def shape : Shape Options where
  title := "struct MatchOptions"
  fields :=
    [⟨"indicated", .allowed, fun v o => do return { o with indicated := ← bool v }⟩,
     ⟨"device-has-carrier", .allowed, fun v o => do return { o with hasCarrier := ← bool v }⟩,
     ⟨"default-v4-metric", .allowed, fun v o => do return { o with metric4 := ← integer .i64 v }⟩,
     ⟨"default-v6-metric", .allowed, fun v o => do return { o with metric6 := ← integer .i64 v }⟩]
  initial := default
  lenient := false

/-- The options that a JSON value writes. -/
def ofJson : Json → Except RecordFault Options := Record.read shape

/-- Options as an object. -/
def toJson (o : Options) : Json :=
  .object
    [("indicated", .bool o.indicated), ("device-has-carrier", .bool o.hasCarrier),
     ("default-v4-metric", .int o.metric4), ("default-v6-metric", .int o.metric6)]

end Options

/-- Access to the stored profiles. -/
structure Lookup where
  /-- Whether a text can be the identifier of a profile. -/
  isIdentifier : String → Bool
  /-- The profile with an identifier. -/
  find? : String → Option Profile

/-- Access to given profiles; of several with one identifier it is the first. -/
def Lookup.among (isIdentifier : String → Bool) (stored : List Profile) : Lookup where
  isIdentifier := isIdentifier
  find? uuid := stored.find? fun p => p.uuid? == some uuid

end ProfileMatch
