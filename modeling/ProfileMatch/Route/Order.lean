import ProfileMatch.Route.Basic
/-!
The order of routes and route lists in that order.

* `Route.order`: the first field that differs decides: family, prefix length, metric, next hop,
  network;
* `Route.canonical?`: a list with its metrics settled, sorted; there is none if some destination
  is not valid.
-/

namespace ProfileMatch.Route

/-- Destinations that are not valid come first, by their text; valid ones follow by their
networks. -/
def networkOrder (a b : Route) : Ordering :=
  match a.network?, b.network? with
  | some m, some n => compare m n
  | none, some _ => .lt
  | some _, none => .gt
  | none, none => compare a.destination b.destination

/-- The order of two routes where open metrics count as `default`. -/
def order (default : Int) (a b : Route) : Ordering :=
  (compare a.family b.family).then <|
  (compare a.prefixLength b.prefixLength).then <|
  (compare (a.effectiveMetric default) (b.effectiveMetric default)).then <|
  (compare a.hopText b.hopText).then <|
  networkOrder a b

/-- Routes in their order; routes that the order does not tell apart keep theirs. -/
def sort (default : Int) (rs : List Route) : List Route :=
  rs.mergeSort fun a b => (order default a b).isLE

/-- The routes with their metrics settled, in order, if all their destinations are valid. -/
def canonical? (default : Int) (rs : List Route) : Option (List Route) :=
  if rs.all fun r => r.network?.isSome then some (sort default (rs.map (·.settled default)))
  else none

end ProfileMatch.Route
