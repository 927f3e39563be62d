import ProfileMatch.Failure
import ProfileMatch.Route.Reader
import ProfileMatch.RoutingRule.Basic
/-!
Policy routing rules as the platform takes them: every part has a value, and the prefixes are
addresses of one family.

* `readPrefix`: an address with or without a prefix length;
* `RoutingRule.resolveFamily`: the family of a rule, given or that of its first prefix;
* `RoutingRule.toPlatform`: the rule for the platform;
* `RuleCause.message`, `RuleFault.failure`: the words for what is wrong with a rule, and the failure
  that it is reported as.
-/

namespace ProfileMatch

/-- What is wrong with a rule. -/
inductive RuleCause
  | noFamily (rule : RoutingRule)
  | badAddress
  | foreignPrefix (text : String) (family : Family)
  | badLength (text : String) (cause : IntegerFault)
  | longLength (text : String)
  | descending (name : String) (range : NumberRange)
deriving DecidableEq

/-- The words for what is wrong. -/
def RuleCause.message : RuleCause → String
  | .noFamily rule =>
    "Routing rule " ++ rule.description ++ " has no family, `from` or `to` defined"
  | .badAddress => addressMessage
  | .foreignPrefix text family => "Routing rule prefix " ++ text ++ " is not " ++ family.name
  | .badLength text cause => "Invalid prefix length in " ++ text ++ ": " ++ cause.message
  | .longLength text => "Prefix length of " ++ text ++ " is too large"
  | .descending name range =>
    "Routing rule " ++ name ++ " start " ++ range.start.repr ++ " is larger than end "
      ++ range.stop.repr

/-- A fault of a rule: what is wrong with it, and what kind of failure that is. -/
structure RuleFault where
  kind : FailureKind
  cause : RuleCause
deriving DecidableEq

/-- The failure that a fault is reported as. -/
def RuleFault.failure (e : RuleFault) : Failure := ⟨e.kind, e.cause.message⟩

/-- A policy routing rule for the platform. -/
structure PlatformRule where
  family : Family
  priority : Nat
  invert : Bool
  tos : Nat
  protocol : Nat
  sourcePorts : Nat × Nat
  destinationPorts : Nat × Nat
  source : Address
  sourceLength : Nat
  destination : Address
  destinationLength : Nat
  mark : Nat
  markMask : Nat
  inInterface : Option String
  outInterface : Option String
  table : Nat
  action : Nat
  /-- The longest prefix that is suppressed, or -1 if none is. -/
  suppressPrefixLength : Int
  uidRange : Option (Nat × Nat)
deriving DecidableEq

/-- The address and prefix length of a text. If a family is wanted, an address of another one counts
before a length that is no number; without a length the address is a single host. -/
def readPrefix (wanted : Option Family) (text : String) : Except RuleFault (Address × Nat) := do
  let (addressText, lengthText) := Route.cutPrefix text
  match Address.read? addressText with
  | none => throw ⟨.invalidArgument, .badAddress⟩
  | some a =>
    match wanted with
    | some f => if f ≠ a.family then throw ⟨.invalidArgument, .foreignPrefix text f⟩
    | none => pure ()
    let length ← match lengthText with
      | none => pure a.family.width
      | some t =>
        match IntegerRange.u8.read t with
        | .ok n => pure n.toNat
        | .error cause => throw ⟨.invalidArgument, .badLength text cause⟩
    if a.family.width < length then throw ⟨.invalidArgument, .longLength text⟩
    return (a, length)

/-- The two ends of a range, which may not descend. -/
def NumberRange.ends (name : String) (r : NumberRange) : Except RuleFault (Nat × Nat) :=
  if r.stop < r.start then .error ⟨.invalidArgument, .descending name r⟩ else .ok (r.start, r.stop)

/-- The two ends of a range of ports; a range that is left out has zero at either. -/
def portsOf (name : String) : Option NumberRange → Except RuleFault (Nat × Nat)
  | some r => r.ends name
  | none => .ok (0, 0)

namespace RoutingRule

/-- The main table of routes, where a rule goes that names none. -/
def mainTable : Nat := 254

/-- The family that is given, or that of the source or else of the destination. -/
def resolveFamily (r : RoutingRule) : Except RuleFault Family :=
  match r.family with
  | some f => .ok f
  | none =>
    match r.source.or r.destination with
    | some text => (readPrefix none text).map fun p => p.1.family
    | none => .error ⟨.invalidArgument, .noFamily r⟩

/-- A prefix of the family; one that is left out takes in all addresses. -/
def prefixOr (family : Family) : Option String → Except RuleFault (Address × Nat)
  | some text => readPrefix (some family) text
  | none => .ok (.unspecified family, 0)

/-- The table of a rule: one that goes to a table without naming it goes to the main one. -/
def platformTable (action : RuleAction) (table : Option Nat) : Nat :=
  match action, table.getD 0 with
  | .toTable, 0 => mainTable
  | _, t => t

/-- The rule for the platform. Of several faults the family counts first, then the source, the
destination, the ports and the users. -/
def toPlatform (r : RoutingRule) : Except RuleFault PlatformRule := do
  let family ← r.resolveFamily
  let (source, sourceLength) ← prefixOr family r.source
  let (destination, destinationLength) ← prefixOr family r.destination
  let sourcePorts ← portsOf "source-port" r.sourcePort
  let destinationPorts ← portsOf "destination-port" r.destinationPort
  let uidRange ← r.uidRange.mapM (NumberRange.ends "uid-range")
  let action := r.action.getD .toTable
  return {
    family := family
    priority := r.priority.getD 0
    invert := r.invert
    tos := r.tos.getD 0
    protocol := r.protocol.getD 0
    sourcePorts := sourcePorts
    destinationPorts := destinationPorts
    source := source
    sourceLength := sourceLength
    destination := destination
    destinationLength := destinationLength
    mark := r.mark.getD 0
    markMask := r.markMask.getD 0
    inInterface := r.inInterface
    outInterface := r.outInterface
    table := platformTable action r.table
    action := action.code
    suppressPrefixLength := r.suppressPrefixLength.getD (-1)
    uidRange := uidRange }

end RoutingRule

end ProfileMatch
