import Mathlib.Data.Prod.Lex
import Mathlib.Data.String.Basic
import Mathlib.Data.Sum.Order
import Mathlib.Order.Compare
import Mathlib.Tactic.Common
import ProfileMatch.Proofs.Route.Order
/-!
The order of routes is the lexicographic order of what they show.

* `destinationKey`: the text of a destination that is not valid, or the network of one that is; all
  of the former come before all of the latter;
* `orderKey`: family, prefix length, metric, next hop and destination of a route;
* `order_eq_lt_iff`, `order_eq_eq_iff`: a route comes before another exactly if its key does, and
  two are of one place exactly if they have the same key;
* `order_isPreorder_and_lexicographic`: so the order is a total preorder, on routes with whatever
  destinations.
-/

namespace ProfileMatch

/-- The narrow family comes first. -/
instance : LT Family := ⟨fun f g => f.width < g.width⟩

namespace Route

variable {a b : Route} {d : Int}

/-! ### Keys -/

/-- What the order goes by of a destination: the text if it is not valid, else the network. -/
def destinationKey (r : Route) : String ⊕ₗ List UInt8 :=
  match r.network? with
  | none => toLex (.inl r.destination)
  | some octets => toLex (.inr octets)

/-- What the order goes by of a route: a metric of -1 counts as the default, and no next hop as an
empty one. -/
def orderKey (d : Int) (r : Route) : Family ×ₗ ℕ ×ₗ ℤ ×ₗ String ×ₗ (String ⊕ₗ List UInt8) :=
  toLex (r.family, toLex (r.prefixLength, toLex (if r.metric = -1 then d else r.metric,
    toLex (r.nextHop.getD "", r.destinationKey))))

/-- The key by what the order compares. -/
lemma orderKey_eq (d : Int) (r : Route) :
    r.orderKey d = toLex (r.family, toLex (r.prefixLength, toLex (r.effectiveMetric d,
      toLex (r.hopText, r.destinationKey)))) := rfl

/-! ### Single keys -/

lemma compare_family_eq_lt_iff {f g : Family} : compare f g = .lt ↔ f < g :=
  Nat.compare_eq_lt

/-- Octets are compared from the first on. -/
lemma compare_octets_eq_lt_iff (m n : List UInt8) : compare m n = .lt ↔ m < n := by
  induction m generalizing n with
  | nil => cases n <;> simp [List.compare_nil_cons]
  | cons o os ih =>
      cases n with
      | nil => simp
      | cons o' os' =>
          rw [List.compare_cons_cons, Ordering.then_eq_lt, ih, List.cons_lt_cons_iff,
            Std.compare_eq_lt, Std.compare_eq_iff_eq]

lemma networkOrder_eq_lt_iff :
    networkOrder a b = .lt ↔ a.destinationKey < b.destinationKey := by
  rw [networkOrder, destinationKey, destinationKey]
  cases a.network? with
  | none =>
      cases b.network? with
      | none => simpa using compare_lt_iff_lt (a := a.destination) (b := b.destination)
      | some n => simp
  | some m =>
      cases b.network? with
      | none => simp
      | some n => simpa using compare_octets_eq_lt_iff m n

lemma networkOrder_eq_eq_iff :
    networkOrder a b = .eq ↔ a.destinationKey = b.destinationKey := by
  rw [networkOrder, destinationKey, destinationKey]
  cases a.network? with
  | none => cases b.network? <;> simp
  | some m => cases b.network? <;> simp

/-! ### The order -/

/-- **Before**: the first key that differs decides, and it is the smaller one. -/
lemma order_eq_lt_iff : order d a b = .lt ↔ a.orderKey d < b.orderKey d := by
  simp only [order, orderKey_eq, Prod.Lex.toLex_lt_toLex, Ordering.then_eq_lt,
    compare_family_eq_lt_iff, compare_lt_iff_lt, Std.compare_eq_iff_eq, networkOrder_eq_lt_iff]

/-- **Of one place**: no key differs. -/
lemma order_eq_eq_iff : order d a b = .eq ↔ a.orderKey d = b.orderKey d := by
  simp only [order, orderKey_eq, toLex_inj, Prod.mk.injEq, Ordering.then_eq_eq,
    Std.compare_eq_iff_eq, networkOrder_eq_eq_iff]

/-- **The order of routes is a total preorder**, and it is lexicographic. Every route is of its own
place, two routes the other way round are in the reverse order, what does not come behind does so
through any route between, and routes of one place compare alike with every other. A route comes
before another exactly if the first part of the key in which they differ is smaller: the family, the
prefix length, the metric, the next hop, and last the destination, where the texts of those that are
not valid come before the networks of those that are. -/
theorem order_isPreorder_and_lexicographic (d : Int) (a b c : Route) :
    (order d a a = .eq
        ∧ order d b a = (order d a b).swap
        ∧ ((order d a b).isLE → (order d b c).isLE → (order d a c).isLE)
        ∧ (order d a b = .eq → order d a c = order d b c ∧ order d c a = order d c b))
      ∧ (order d a b = .lt ↔ a.orderKey d < b.orderKey d)
      ∧ (order d a b = .eq ↔ a.orderKey d = b.orderKey d)
      ∧ (order d a b = .gt ↔ b.orderKey d < a.orderKey d) := by
  refine ⟨⟨order_eq_eq_iff.mpr rfl, Std.OrientedCmp.eq_swap, Std.TransCmp.isLE_trans, fun h => ?_⟩,
    order_eq_lt_iff, order_eq_eq_iff, ?_⟩
  · exact ⟨Std.TransCmp.congr_left h, Std.TransCmp.congr_right h⟩
  · rw [Std.OrientedCmp.gt_iff_lt, order_eq_lt_iff]

/-- A text that is no address comes before a network with host bits, which is of one place with the
same network without them, although the metric is open on one side and the next hop is an empty text
on the other. A next hop that is set comes behind both, and a larger metric behind that, whatever
the destination. -/
theorem order_invalid_before_networks :
    let invalid : Route := ⟨.v4, "not-an-address", 24, none, 100⟩
    let a : Route := ⟨.v4, "10.0.0.1", 24, none, -1⟩
    let b : Route := ⟨.v4, "10.0.0.9", 24, some "", 100⟩
    let via : Route := ⟨.v4, "10.0.0.0", 24, some "10.0.0.254", 100⟩
    let late : Route := ⟨.v4, "9.0.0.0", 24, none, 200⟩
    (order 100 invalid a = .lt ∧ order 100 a b = .eq ∧ order 100 invalid b = .lt
        ∧ order 100 b invalid = .gt)
      ∧ order 100 b via = .lt ∧ order 100 via late = .lt ∧ (order 100 b late).isLE := by
  intro invalid a b via late
  have hbefore : order 100 invalid a = .lt := by decide +kernel
  have hsame : order 100 a b = .eq := by decide +kernel
  obtain ⟨⟨-, -, -, halike⟩, -⟩ := order_isPreorder_and_lexicographic 100 a b invalid
  obtain ⟨⟨-, hswap, -⟩, -⟩ := order_isPreorder_and_lexicographic 100 invalid b a
  have hb : order 100 invalid b = .lt := (halike hsame).2.symm.trans hbefore
  have hvia : order 100 b via = .lt := by decide +kernel
  have hlate : order 100 via late = .lt := by decide +kernel
  obtain ⟨⟨-, -, hle, -⟩, -⟩ := order_isPreorder_and_lexicographic 100 b via late
  refine ⟨⟨hbefore, hsame, hb, ?_⟩, hvia, hlate, hle (by rw [hvia]; rfl) (by rw [hlate]; rfl)⟩
  rw [hswap, hb]
  rfl

end Route

end ProfileMatch
