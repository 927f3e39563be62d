import ProfileMatch.Failure
import ProfileMatch.Json.Basic
import ProfileMatch.Route.Basic
import ProfileMatch.Text.Blank
/-!
Reading routes.

* `Route.make`: a route from the text of a destination with or without a prefix length, the text
  of a next hop and a metric;
* `Route.ofLine`: a route from one line, `DEST/PREFIX [NEXT_HOP] [METRIC]`;
* `Route.ofJson`: a route of a given family from a line or from an object;
* `Route.toJson`: a route as an object;
* `RouteFault.message`, `RouteFault.failure`: the words for what is wrong with a route, and the
  failure that it is reported as.
-/

namespace ProfileMatch

/-- What is wrong with a route. -/
inductive RouteFault
  | badPrefix (destination : String) (cause : IntegerFault)
  | badAddress
  | longPrefix (length : Nat) (destination : String)
  | foreignHop (hop destination : String)
  | noDestination (got : Json)
  | noRoute (got : Json)
  | foreignRoute (got : Json) (family : Family)

/-- The words for a text that is no address. -/
def addressMessage : String := "Invalid IP address: invalid IP address syntax"

/-- The words for a fault. -/
def RouteFault.message : RouteFault → String
  | .badPrefix destination cause =>
    "Invalid prefix length in route destination " ++ destination ++ ": " ++ cause.message
  | .badAddress => addressMessage
  | .longPrefix length destination =>
    "Prefix length " ++ length.repr ++ " is too large for route destination " ++ destination
  | .foreignHop hop destination =>
    "Next hop " ++ hop ++ " is not in the same IP family as route destination " ++ destination
  | .noDestination got => "Route " ++ got.text ++ " has no `dest` defined"
  | .noRoute got => "Expecting route string or dict, but got " ++ got.text
  | .foreignRoute got family =>
    "Route " ++ got.text ++ " does not belong to " ++ family.name ++ " setting"

/-- The failure that a fault is reported as. -/
def RouteFault.failure (e : RouteFault) : Failure := .invalid e.message

namespace Route

/-- The two sides of the first slash, or the whole text if there is none. -/
def cutPrefix (s : String) : String × Option String :=
  match Text.cut? '/' s.toList with
  | some (front, back) => (String.ofList front, some (String.ofList back))
  | none => (s, none)

/-- The prefix length behind the slash of a destination, if it has one. -/
def readLength (destination : String) : Option String → Except RouteFault (Option Nat)
  | none => .ok none
  | some t =>
    match IntegerRange.u32.read t with
    | .ok n => .ok (some n.toNat)
    | .error cause => .error (.badPrefix destination cause)

/-- An address with a prefix length, which must not be too large for it. -/
def fitLength (destination : String) (a : Address) :
    Option Nat → Except RouteFault (Address × Option Nat)
  | none => .ok (a, none)
  | some n => if a.family.width < n then .error (.longPrefix n destination) else .ok (a, some n)

/-- The address and the prefix length of a destination. A prefix length that is no number counts
before an address that is none, and both before a prefix length that is too large. -/
def readDestination (destination : String) : Except RouteFault (Address × Option Nat) := do
  let length? ← readLength destination (cutPrefix destination).2
  match Address.read? (cutPrefix destination).1 with
  | none => throw .badAddress
  | some a => fitLength destination a length?

/-- The next hop of a route, as it is written; it has to be an address of the family. -/
def readHop (family : Family) (destination : String) :
    Option String → Except RouteFault (Option String)
  | none => .ok none
  | some hop =>
    match Address.read? hop with
    | none => .error .badAddress
    | some a => if a.family = family then .ok (some hop) else .error (.foreignHop hop destination)

/-- A route to a destination, which is then spelled in the one way in which addresses are written;
without a prefix length it leads to the single host. -/
def make (destination : String) (nextHop : Option String) (metric : Int) :
    Except RouteFault Route := do
  let (a, length?) ← readDestination destination
  let hop ← readHop a.family destination nextHop
  return {
    family := a.family
    destination := a.text
    prefixLength := length?.getD a.family.width
    nextHop := hop
    metric := metric }

/-- Takes the words behind the destination in turn: one that is an integer is the metric, any other
the next hop. -/
def takeWord (seen : Option String × Int) (word : String) : Option String × Int :=
  match IntegerRange.i64.read? word with
  | some m => (seen.1, m)
  | none => (some word, seen.2)

/-- The route that a line writes. -/
def ofLine (line : String) : Except RouteFault Route :=
  let words := Text.words line
  let (hop, metric) := (words.drop 1).foldl takeWord (none, openMetric)
  make (words.head?.getD "") hop metric

/-- The destination of a route object, with the prefix length of a member of its own unless it has
one in it already. -/
def destinationOf (value : Json) (dest : String) : String :=
  match (value.member? "prefix").bind (Json.within? .u64) with
  | some p => if '/' ∈ dest.toList then dest else dest ++ "/" ++ Number.decimal p
  | none => dest

/-- The route that an object writes. -/
def ofObject (value : Json) : Except RouteFault Route :=
  match (value.member? "dest").bind Json.string? with
  | none => .error (.noDestination value)
  | some dest =>
    make (destinationOf value dest) ((value.member? "next-hop").bind Json.string?)
      (((value.member? "metric").bind (Json.within? .i64)).getD openMetric)

/-- The route that a value writes. -/
def ofValue (value : Json) : Except RouteFault Route :=
  match value with
  | .string line => ofLine line
  | .object _ => ofObject value
  | _ => .error (.noRoute value)

/-- The route that a value writes, if it is of the family. -/
def ofJson (family : Family) (value : Json) : Except RouteFault Route := do
  let route ← ofValue value
  if route.family = family then return route else throw (.foreignRoute value family)

/-- A route as an object. -/
def toJson (r : Route) : Json :=
  .object <|
    [("dest", .string r.destination), ("prefix", .int r.prefixLength)]
      ++ (match r.nextHop with
        | some hop => [("next-hop", .string hop)]
        | none => [])
      ++ [("metric", .int r.metric)]

end Route

end ProfileMatch
