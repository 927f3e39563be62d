import ProfileMatch.Route.Order
/-!
Equivalence of the routes that a system shows with those that a profile asks for. The system adds
routes to single hosts by itself, for gateways that it reaches directly; apart from these the two
have to agree route by route.

* `Route.coversSorted`: one pass over two sorted lists;
* `Route.equivalent`: the same for lists in any order.
-/

namespace ProfileMatch.Route

/-- What follows the first of the present routes that is the wanted one, if all before it lead to
single hosts. -/
def dropThrough? (hostLength : Nat) (wanted : Route) : List Route → Option (List Route)
  | [] => none
  | r :: rs =>
    if order openMetric r wanted = .eq then some rs
    else if r.prefixLength = hostLength then dropThrough? hostLength wanted rs
    else none

/-- Whether every wanted route is among the present ones and those not wanted lead to single hosts;
both lists are sorted and have their metrics settled. -/
def coversSorted (hostLength : Nat) : List Route → List Route → Bool
  | present, [] => present.all fun r => r.prefixLength == hostLength
  | present, wanted :: more =>
    match dropThrough? hostLength wanted present with
    | some rest => coversSorted hostLength rest more
    | none => false

/-- Whether sorted lists exist for both sides and the present routes cover the wanted ones. -/
def covers (hostLength : Nat) : Option (List Route) → Option (List Route) → Bool
  | some present, some wanted => coversSorted hostLength present wanted
  | _, _ => false

/-- Whether the present routes are the wanted ones but for routes to single hosts, where open
metrics count as `default`; it never holds if some destination is not valid. -/
def equivalent (default : Int) (hostLength : Nat) (present wanted : List Route) : Bool :=
  covers hostLength (canonical? default present) (canonical? default wanted)

end ProfileMatch.Route
