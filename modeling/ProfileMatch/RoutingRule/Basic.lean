import ProfileMatch.Address.Basic
import ProfileMatch.Json.Record
/-!
Policy routing rules as a profile stores them.

* `RoutingRule`: the rule, most of whose parts may be left out;
* `RoutingRule.ofJson`, `RoutingRule.toJson`: the rule as a record;
* `RoutingRule.description`: all its parts on one line, as messages name it.
-/

namespace ProfileMatch

/-- What a rule does with what it selects. -/
inductive RuleAction
  | toTable
  | blackhole
  | unreachable
  | prohibit
deriving DecidableEq, Repr

namespace RuleAction

/-- The number of the action in the kernel. -/
def code : RuleAction → Nat
  | .toTable => 1
  | .blackhole => 6
  | .unreachable => 7
  | .prohibit => 8

/-- The name of the action. -/
def name : RuleAction → String
  | .toTable => "to-table"
  | .blackhole => "blackhole"
  | .unreachable => "unreachable"
  | .prohibit => "prohibit"

/-- The name of the action in a description. -/
def capitalName : RuleAction → String
  | .toTable => "ToTable"
  | .blackhole => "Blackhole"
  | .unreachable => "Unreachable"
  | .prohibit => "Prohibit"

/-- The actions by name. -/
def named : List (String × RuleAction) :=
  [toTable, blackhole, unreachable, prohibit].map fun a => (a.name, a)

end RuleAction

/-- A range of numbers as it is given, whose end may be below its start. -/
structure NumberRange where
  start : Nat
  stop : Nat
deriving DecidableEq, Repr

namespace NumberRange

open Record in
/-- A range of numbers of a kind, as a record. -/
def shape (r : IntegerRange) : Shape NumberRange where
  title := "struct NmRange"
  fields :=
    [⟨"start", .fault, fun v n => do return { n with start := ← natural r v }⟩,
     ⟨"end", .fault, fun v n => do return { n with stop := ← natural r v }⟩]
  initial := ⟨0, 0⟩
  lenient := false

def ofJson (r : IntegerRange) : Json → Except RecordFault NumberRange := Record.read (shape r)

def toJson (n : NumberRange) : Json := .object [("start", .int n.start), ("end", .int n.stop)]

def description (n : NumberRange) : String :=
  "NmRange \x7b start: " ++ n.start.repr ++ ", end: " ++ n.stop.repr ++ " \x7d"

end NumberRange

/-- A policy routing rule. -/
structure RoutingRule where
  family : Option Family
  priority : Option Nat
  invert : Bool
  tos : Option Nat
  protocol : Option Nat
  sourcePort : Option NumberRange
  destinationPort : Option NumberRange
  /-- The prefix of the source, such as `192.0.2.0/24`. -/
  source : Option String
  /-- The prefix of the destination, such as `2001:db8::/64`. -/
  destination : Option String
  mark : Option Nat
  markMask : Option Nat
  inInterface : Option String
  outInterface : Option String
  table : Option Nat
  action : Option RuleAction
  suppressPrefixLength : Option Int
  uidRange : Option NumberRange
deriving DecidableEq, Repr

namespace RoutingRule

/-- The rule that says nothing. -/
def empty : RoutingRule where
  family := none
  priority := none
  invert := false
  tos := none
  protocol := none
  sourcePort := none
  destinationPort := none
  source := none
  destination := none
  mark := none
  markMask := none
  inInterface := none
  outInterface := none
  table := none
  action := none
  suppressPrefixLength := none
  uidRange := none

instance : Inhabited RoutingRule := ⟨empty⟩

/-- A family by one of its names. -/
def readFamily (value : Json) : Except RecordFault Family := do
  let s ← Record.text value
  if s = "ipv4" ∨ s = "inet" then return .v4
  else if s = "ipv6" ∨ s = "inet6" then return .v6
  else throw (.refused ("Invalid IP family " ++ s ++ ", expecting ipv4 or ipv6"))

open Record in
/-- A rule as a record. -/
def shape : Shape RoutingRule where
  title := "struct NmIpRoutingRule"
  fields :=
    [⟨"family", .inObject, fun v r => do return { r with family := ← optional readFamily v }⟩,
     ⟨"priority", .inObject, fun v r =>
        do return { r with priority := ← optional (natural .u32) v }⟩,
     ⟨"invert", .allowed, fun v r => do return { r with invert := ← bool v }⟩,
     ⟨"tos", .inObject, fun v r => do return { r with tos := ← optional (natural .u8) v }⟩,
     ⟨"ipproto", .inObject, fun v r =>
        do return { r with protocol := ← optional (natural .u8) v }⟩,
     ⟨"source-port", .inObject, fun v r =>
        do return { r with sourcePort := ← optional (NumberRange.ofJson .u16) v }⟩,
     ⟨"destination-port", .inObject, fun v r =>
        do return { r with destinationPort := ← optional (NumberRange.ofJson .u16) v }⟩,
     ⟨"from", .inObject, fun v r => do return { r with source := ← optional text v }⟩,
     ⟨"to", .inObject, fun v r => do return { r with destination := ← optional text v }⟩,
     ⟨"fwmark", .inObject, fun v r => do return { r with mark := ← optional (natural .u32) v }⟩,
     ⟨"fwmask", .inObject, fun v r =>
        do return { r with markMask := ← optional (natural .u32) v }⟩,
     ⟨"iifname", .inObject, fun v r => do return { r with inInterface := ← optional text v }⟩,
     ⟨"oifname", .inObject, fun v r => do return { r with outInterface := ← optional text v }⟩,
     ⟨"table", .inObject, fun v r => do return { r with table := ← optional (natural .u32) v }⟩,
     ⟨"action", .inObject, fun v r =>
        do return { r with action := ← optional (choice RuleAction.named) v }⟩,
     ⟨"suppress-prefixlength", .inObject, fun v r =>
        do return { r with suppressPrefixLength := ← optional (integer .i32) v }⟩,
     ⟨"uid-range", .inObject, fun v r =>
        do return { r with uidRange := ← optional (NumberRange.ofJson .u32) v }⟩]
  initial := empty
  lenient := false

/-- The rule that a JSON value writes. -/
def ofJson : Json → Except RecordFault RoutingRule := Record.read shape

/-- A member that is left out if there is no value. -/
def member {α : Type} (name : String) (toJson : α → Json) : Option α → List (String × Json)
  | some a => [(name, toJson a)]
  | none => []

def natJson (n : Nat) : Json := .int n

/-- A rule as an object without what it leaves out. -/
def toJson (r : RoutingRule) : Json :=
  .object <|
    member "family" (fun f => .string f.name) r.family
      ++ member "priority" natJson r.priority
      ++ [("invert", .bool r.invert)]
      ++ member "tos" natJson r.tos
      ++ member "ipproto" natJson r.protocol
      ++ member "source-port" NumberRange.toJson r.sourcePort
      ++ member "destination-port" NumberRange.toJson r.destinationPort
      ++ member "from" .string r.source
      ++ member "to" .string r.destination
      ++ member "fwmark" natJson r.mark
      ++ member "fwmask" natJson r.markMask
      ++ member "iifname" .string r.inInterface
      ++ member "oifname" .string r.outInterface
      ++ member "table" natJson r.table
      ++ member "action" (fun a => .string a.name) r.action
      ++ member "suppress-prefixlength" .int r.suppressPrefixLength
      ++ member "uid-range" NumberRange.toJson r.uidRange

/-- A part of a description that may be left out. -/
def describePart {α : Type} (describe : α → String) : Option α → String
  | some a => "Some(" ++ describe a ++ ")"
  | none => "None"

/-- All parts of a rule on one line. -/
def description (r : RoutingRule) : String :=
  let parts : List (String × String) :=
    [("family", describePart (fun f => match f with | .v4 => "V4" | .v6 => "V6") r.family),
     ("priority", describePart Nat.repr r.priority),
     ("invert", if r.invert then "true" else "false"),
     ("tos", describePart Nat.repr r.tos),
     ("ipproto", describePart Nat.repr r.protocol),
     ("source_port", describePart NumberRange.description r.sourcePort),
     ("destination_port", describePart NumberRange.description r.destinationPort),
     ("from", describePart Text.literal r.source),
     ("to", describePart Text.literal r.destination),
     ("fwmark", describePart Nat.repr r.mark),
     ("fwmask", describePart Nat.repr r.markMask),
     ("iifname", describePart Text.literal r.inInterface),
     ("oifname", describePart Text.literal r.outInterface),
     ("table", describePart Nat.repr r.table),
     ("action", describePart RuleAction.capitalName r.action),
     ("suppress_prefixlength", describePart Number.decimal r.suppressPrefixLength),
     ("uid_range", describePart NumberRange.description r.uidRange)]
  "NmIpRoutingRule \x7b " ++ ", ".intercalate (parts.map fun p => p.1 ++ ": " ++ p.2) ++ " \x7d"

end RoutingRule

end ProfileMatch
