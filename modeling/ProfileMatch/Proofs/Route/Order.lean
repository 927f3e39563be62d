import Mathlib.Tactic.Common
import ProfileMatch.Route.Order
/-!
The order of routes is a total preorder, and on routes with valid destinations it tells apart
exactly what it sees of them.

* `instTransCmpOrder`: reading the order backwards reverses it, and it is transitive;
* `Signature`: what the order sees of a route with a valid destination;
* `order_eq_iff`: two such routes are of one place in the order exactly if their signatures agree;
* `order_settled`: once metrics are settled the default no longer matters, so a list that was
  sorted with one default is sorted for the comparison that leaves metrics open;
* `canonical?_of_valid`, `canonical?_of_invalid`: which lists have a canonical form, and what it is.
-/

namespace ProfileMatch

open Std

instance : TransOrd Family := inferInstanceAs (TransCmp (compareOn Family.width))

instance : LawfulEqOrd Family where
  eq_of_compare h := Family.width_injective (LawfulEqOrd.eq_of_compare (α := Nat) h)

namespace Route

variable {a b c r : Route} {d e : Int}

/-! ### A total preorder -/

/-- What the order of networks sees of a route without a valid destination: its text. -/
def invalidText (r : Route) : String :=
  if r.network?.isSome then "" else r.destination

/-- The order of networks is that of the networks, where none comes first, and then that of the
texts that are no addresses. -/
lemma networkOrder_eq_compareLex :
    networkOrder = compareLex (compareOn network?) (compareOn invalidText) := by
  funext a b
  rw [networkOrder, compareLex, compareOn, compareOn, invalidText, invalidText]
  cases a.network? with
  | none =>
      cases b.network? with
      | none => rfl
      | some n => rfl
  | some m =>
      cases b.network? with
      | none => rfl
      | some n =>
          change compare m n = (compare m n).then (compare "" "")
          rw [ReflOrd.compare_self, Ordering.then_eq]

/-- The order is lexicographic. -/
lemma order_eq_compareLex (d : Int) :
    order d = compareLex (compareOn family) (compareLex (compareOn prefixLength)
      (compareLex (compareOn (effectiveMetric · d)) (compareLex (compareOn hopText)
        (compareLex (compareOn network?) (compareOn invalidText))))) := by
  rw [← networkOrder_eq_compareLex]
  rfl

instance instTransCmpOrder (d : Int) : TransCmp (order d) := by
  rw [order_eq_compareLex]
  infer_instance

/-! ### What the order sees -/

/-- What the order sees of a route with a valid destination. -/
structure Signature where
  family : Family
  prefixLength : Nat
  metric : Int
  hop : String
  network : Option (List UInt8)
deriving DecidableEq

/-- The signature of a route whose metric is settled with a default. -/
def signature (d : Int) (r : Route) : Signature :=
  ⟨r.family, r.prefixLength, r.effectiveMetric d, r.hopText, r.network?⟩

/-- **The order separates signatures**: two routes with valid destinations are of one place in the
order exactly if their signatures agree. -/
lemma order_eq_iff (ha : a.network?.isSome) (hb : b.network?.isSome) :
    order d a b = .eq ↔ a.signature d = b.signature d := by
  have hta : a.invalidText = "" := by rw [invalidText, if_pos ha]
  have htb : b.invalidText = "" := by rw [invalidText, if_pos hb]
  rw [order_eq_compareLex]
  simp only [compareLex_eq_eq, compareOn, LawfulEqOrd.compare_eq_iff_eq, hta, htb, signature,
    Signature.mk.injEq, and_true]

/-! ### Settled metrics -/

/-- A metric that was settled once is settled for good: no default changes it any more, unless it
was settled as open. -/
lemma settled_settled (h : d = openMetric → e = openMetric) :
    (r.settled d).settled e = r.settled d := by
  simp only [settled, effectiveMetric]
  split_ifs <;> simp_all

lemma effectiveMetric_settled (h : d = openMetric → e = openMetric) :
    (r.settled d).effectiveMetric e = r.effectiveMetric d :=
  congrArg metric (settled_settled h)

/-- Settling changes nothing that the signature shows. -/
lemma signature_settled : (r.settled d).signature openMetric = r.signature d := by
  simp only [signature, effectiveMetric_settled fun _ => rfl]
  rfl

/-- **The default no longer matters** once metrics are settled. -/
lemma order_settled (h : d = openMetric → e = openMetric) :
    order d (a.settled d) (b.settled d) = order e (a.settled d) (b.settled d) := by
  simp only [order, effectiveMetric_settled h, effectiveMetric_settled id]

/-! ### Sorted lists -/

/-- Routes in the order in which metrics are left open. -/
def Sorted (rs : List Route) : Prop :=
  rs.Pairwise fun a b => (order openMetric a b).isLE

/-- A sorted list is in order. -/
lemma pairwise_sort (d : Int) (rs : List Route) :
    (sort d rs).Pairwise fun a b => (order d a b).isLE := by
  refine List.pairwise_mergeSort ?_ ?_ rs
  · intro a b c hab hbc
    exact TransCmp.isLE_trans hab hbc
  · intro a b
    have hswap : order d b a = (order d a b).swap := OrientedCmp.eq_swap
    rw [hswap]
    cases order d a b <;> rfl

lemma sort_perm (d : Int) (rs : List Route) : (sort d rs).Perm rs :=
  List.mergeSort_perm rs _

/-- Routes that were settled and sorted with a default are in order also with one that leaves them
settled. -/
lemma pairwise_sort_settled (h : d = openMetric → e = openMetric) (rs : List Route) :
    (sort d (rs.map (·.settled d))).Pairwise fun a b => (order e a b).isLE := by
  refine (pairwise_sort d _).imp_of_mem ?_
  intro a b ha hb hab
  obtain ⟨a, -, rfl⟩ := List.mem_map.mp ((sort_perm d _).mem_iff.mp ha)
  obtain ⟨b, -, rfl⟩ := List.mem_map.mp ((sort_perm d _).mem_iff.mp hb)
  rwa [order_settled h] at hab

/-- So they are in order where metrics are left open. -/
lemma sorted_sort_settled (d : Int) (rs : List Route) : Sorted (sort d (rs.map (·.settled d))) :=
  pairwise_sort_settled (fun _ => rfl) rs

/-- A list of routes with valid destinations has a canonical form: its metrics settled, in order. -/
lemma canonical?_of_valid {rs : List Route} (h : ∀ r ∈ rs, r.network?.isSome) :
    canonical? d rs = some (sort d (rs.map (·.settled d))) := by
  rw [canonical?, if_pos (List.all_eq_true.mpr h)]

/-- A list with an invalid destination has none. -/
lemma canonical?_of_invalid {rs : List Route} (h : ¬ ∀ r ∈ rs, r.network?.isSome) :
    canonical? d rs = none := by
  rw [canonical?, if_neg fun hall => h (List.all_eq_true.mp hall)]

end Route

end ProfileMatch
