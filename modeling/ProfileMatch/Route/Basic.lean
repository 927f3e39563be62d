import ProfileMatch.Address.Reader
import ProfileMatch.Address.Writer
import ProfileMatch.Number.Digits
/-!
Routes of a profile.

* `Route.effectiveMetric`: the metric of a route, or a default where it leaves it open;
* `Route.network?`: the destination with the bits behind the prefix cleared, if the destination is
  an address of the family and the prefix no longer than it;
* `Route.text`: a route on one line.
-/

namespace ProfileMatch

/-- A route. The destination and the next hop are kept as text, so that a route can hold what is no
address. -/
structure Route where
  family : Family
  destination : String
  prefixLength : Nat
  nextHop : Option String
  metric : Int
deriving DecidableEq, Repr

namespace Route

/-- The metric of a route that leaves it to the profile or to the system. -/
def openMetric : Int := -1

/-- The metric of the route, or the given one if the route leaves it open. -/
def effectiveMetric (r : Route) (default : Int) : Int :=
  if r.metric = openMetric then default else r.metric

/-- The route with its metric settled. -/
def settled (r : Route) (default : Int) : Route :=
  { r with metric := r.effectiveMetric default }

/-- The octets of the destination with the bits behind the prefix cleared. -/
def network? (r : Route) : Option (List UInt8) :=
  match Address.read? r.destination with
  | some a =>
    if a.family = r.family ∧ r.prefixLength ≤ r.family.width then some (a.masked r.prefixLength)
    else none
  | none => none

/-- The next hop as text, empty if there is none. -/
def hopText (r : Route) : String :=
  r.nextHop.getD ""

/-- A route on one line: destination and prefix, then the next hop and the metric if it has
them. -/
def text (r : Route) : String :=
  r.destination ++ "/" ++ r.prefixLength.repr
    ++ (match r.nextHop with
      | some hop => " via " ++ hop
      | none => "")
    ++ (if r.metric = openMetric then "" else " metric " ++ Number.decimal r.metric)

end Route

end ProfileMatch
