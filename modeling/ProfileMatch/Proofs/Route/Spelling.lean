import Mathlib.Tactic.Common
import ProfileMatch.Proofs.Address.Spelling
import ProfileMatch.Proofs.Route.Network
import ProfileMatch.Proofs.Route.RoundTrip
/-!
Routes that are the same however they are spelled.

* `Made.leadsTo`, `Made.hopText_eq_iff`: what the order sees of a route that was made;
* `Same`: when two routes are the same: the family, the prefix length, the metric, the next hop and
  the bits in front of the destination are;
* `order_make_eq_iff`: routes of one place in the order are the same, and those that are the same
  are of one place if their next hops are written in the same way. Destinations can be spelled as
  they like, and so can everything of the narrow family, whose addresses have one spelling each.
-/

namespace ProfileMatch.Route

variable {destination destination' : String} {hop? hop?' : Option String} {m m' d : Int}
  {r r' : Route} {a a' : Address}

/-! ### What the order sees of what is made -/

namespace Made

/-- A route that was made leads to the address of its destination. -/
lemma leadsTo (h : Made destination hop? m a r) : r.LeadsTo a :=
  ⟨h.destination ▸ Address.read?_text a, h.family, h.prefixLength⟩

/-- The next hop of a route that was made is told by its text, which is empty only if there is
none. -/
lemma nextHop_eq (h : Made destination hop? m a r) :
    r.nextHop = if r.hopText = "" then none else some r.hopText := by
  cases hnext : r.nextHop with
  | none =>
      rw [hopText, hnext]
      rfl
  | some hop =>
      obtain ⟨b, hread, -⟩ := h.hop hop hnext
      have hset : hop ≠ "" := by
        rintro rfl
        rw [Address.read?_empty] at hread
        cases hread
      rw [hopText, hnext, Option.getD_some, if_neg hset]

lemma hopText_eq_iff (h : Made destination hop? m a r) (h' : Made destination' hop?' m' a' r') :
    r.hopText = r'.hopText ↔ hop? = hop?' := by
  rw [← h.nextHop, ← h'.nextHop]
  constructor
  · intro htext
    rw [h.nextHop_eq, h'.nextHop_eq, htext]
  · intro hnext
    rw [hopText, hopText, hnext]

end Made

/-! ### Spellings -/

/-- Two next hops are the same: none, or texts of one address. -/
def SameHop : Option String → Option String → Prop
  | none, none => True
  | some hop, some hop' => ∃ b, Address.read? hop = some b ∧ Address.read? hop' = some b
  | _, _ => False

/-- Two routes to given addresses are the same, with open metrics counting as a default. -/
structure Same (d : Int) (a a' : Address) (r r' : Route) : Prop where
  family : r.family = r'.family
  prefixLength : r.prefixLength = r'.prefixLength
  metric : r.effectiveMetric d = r'.effectiveMetric d
  nextHop : SameHop r.nextHop r'.nextHop
  bits : ∀ i < r.prefixLength, a.bit i = a'.bit i

/-- A next hop that is set is written as addresses are. -/
def Canonical (hop? : Option String) : Prop :=
  ∀ hop, hop? = some hop → ∃ b : Address, hop = b.text

/-- Addresses that are written in the one way are the same only if their texts are. -/
lemma SameHop.eq_of_canonical (h : SameHop hop? hop?') (hhop : Canonical hop?)
    (hhop' : Canonical hop?') : hop? = hop?' := by
  cases hop? with
  | none =>
      cases hop?' with
      | none => rfl
      | some hop' => cases h
  | some hop =>
      cases hop?' with
      | none => cases h
      | some hop' =>
          obtain ⟨b, hread, hread'⟩ := h
          obtain ⟨c, rfl⟩ := hhop hop rfl
          obtain ⟨c', rfl⟩ := hhop' hop' rfl
          rw [Address.read?_text] at hread hread'
          rw [Option.some.inj hread, Option.some.inj hread']

namespace Made

/-- Next hops of the narrow family are written in the one way. -/
lemma canonical (h : Made destination hop? m a r) (hfamily : r.family = .v4) : Canonical hop? := by
  intro hop hset
  obtain ⟨b, hread, hb⟩ := h.hop hop (h.nextHop.trans hset)
  exact ⟨b, Address.eq_text_of_read? hread (hb.trans hfamily)⟩

/-- A next hop is the same as itself. -/
lemma sameHop (h : Made destination hop? m a r) : SameHop hop? hop? := by
  cases hop? with
  | none => trivial
  | some hop =>
      obtain ⟨b, hread, -⟩ := h.hop hop h.nextHop
      exact ⟨b, hread, hread⟩

/-- **The order sees routes as they are**, but for the text of the next hop. -/
lemma order_eq_iff_same (h : Made destination hop? m a r) (h' : Made destination' hop?' m' a' r') :
    order d r r' = .eq ↔ Same d a a' r r' ∧ hop? = hop?' := by
  have hvalid : r.network?.isSome := by rw [h.leadsTo.network?_eq]; rfl
  have hvalid' : r'.network?.isSome := by rw [h'.leadsTo.network?_eq]; rfl
  rw [order_eq_iff hvalid hvalid', signature, signature, Signature.mk.injEq, h.hopText_eq_iff h']
  constructor
  · rintro ⟨hfamily, hlength, hmetric, rfl, hnetwork⟩
    refine ⟨⟨hfamily, hlength, hmetric, ?_, ?_⟩, rfl⟩
    · rw [h.nextHop, h'.nextHop]
      exact h.sameHop
    · exact (h.leadsTo.network?_eq_iff h'.leadsTo hfamily hlength).mp hnetwork
  · rintro ⟨hsame, hhop⟩
    exact ⟨hsame.family, hsame.prefixLength, hsame.metric, hhop,
      (h.leadsTo.network?_eq_iff h'.leadsTo hsame.family hsame.prefixLength).mpr hsame.bits⟩

end Made

/-- **Spelling does not matter to the order**, but for next hops of the wide family. Two routes that
were made are of one place exactly if they are the same, the first bits of the addresses of their
destinations compared, and their next hops are the same texts. The latter holds of all that are the
same in the narrow family, and in the wide one if next hops are written as addresses are. -/
theorem order_make_eq_iff (h : make destination hop? m = .ok r)
    (h' : make destination' hop?' m' = .ok r') (d : Int) :
    ∃ a a', Address.read? (cutPrefix destination).1 = some a
      ∧ Address.read? (cutPrefix destination').1 = some a'
      ∧ (order d r r' = .eq ↔ Same d a a' r r' ∧ hop? = hop?')
      ∧ (r.family = .v4 ∨ Canonical hop? ∧ Canonical hop?' →
          (order d r r' = .eq ↔ Same d a a' r r')) := by
  obtain ⟨a, hmade⟩ := made_of_make h
  obtain ⟨a', hmade'⟩ := made_of_make h'
  refine ⟨a, a', hmade.address, hmade'.address, hmade.order_eq_iff_same hmade', ?_⟩
  intro hspelled
  rw [hmade.order_eq_iff_same hmade', and_iff_left_iff_imp]
  intro hsame
  have hhop : Canonical hop? ∧ Canonical hop?' := by
    rcases hspelled with hnarrow | hcanonical
    · exact ⟨hmade.canonical hnarrow, hmade'.canonical (hsame.family ▸ hnarrow)⟩
    · exact hcanonical
  have hnext : SameHop hop? hop?' := by
    rw [← hmade.nextHop, ← hmade'.nextHop]
    exact hsame.nextHop
  exact hnext.eq_of_canonical hhop.1 hhop.2

/-- Two routes whose destinations are spelled differently and lie in one network are the same, and
of one place, although one leaves its metric open; their next hop is written as addresses are. -/
theorem order_make_other_destination :
    ∃ r r' a a', make "2001:DB8:0::5/64" (some "fe80::1") (-1) = .ok r
      ∧ make "2001:db8::/64" (some "fe80::1") 100 = .ok r'
      ∧ Address.read? (cutPrefix "2001:DB8:0::5/64").1 = some a
      ∧ Address.read? (cutPrefix "2001:db8::/64").1 = some a'
      ∧ order 100 r r' = .eq ∧ Same 100 a a' r r' := by
  let r : Route := ⟨.v6, "2001:db8::5", 64, some "fe80::1", -1⟩
  let r' : Route := ⟨.v6, "2001:db8::", 64, some "fe80::1", 100⟩
  have h : make "2001:DB8:0::5/64" (some "fe80::1") (-1) = .ok r :=
    eq_ok_of_toOption (by decide +kernel)
  have h' : make "2001:db8::/64" (some "fe80::1") 100 = .ok r' :=
    eq_ok_of_toOption (by decide +kernel)
  have hhop : Canonical (some "fe80::1") := by
    rintro hop ⟨⟩
    exact ⟨⟨.v6, [0xfe, 0x80, 0, 0, 0, 0, 0, 0, 0, 0, 0, 0, 0, 0, 0, 1], rfl⟩, by decide +kernel⟩
  have horder : order 100 r r' = .eq := by decide +kernel
  obtain ⟨a, a', hread, hread', -, hsame⟩ := order_make_eq_iff h h' 100
  exact ⟨r, r', a, a', h, h', hread, hread', horder, (hsame (.inr ⟨hhop, hhop⟩)).mp horder⟩

/-- A next hop of the wide family that is spelled in capitals sets two routes apart that are the
same. -/
theorem order_make_other_next_hop :
    ∃ r r' a, make "2001:db8::/64" (some "2001:db8::1") 100 = .ok r
      ∧ make "2001:db8::/64" (some "2001:DB8::1") 100 = .ok r'
      ∧ Address.read? (cutPrefix "2001:db8::/64").1 = some a
      ∧ Same (-1) a a r r' ∧ order (-1) r r' ≠ .eq := by
  let r : Route := ⟨.v6, "2001:db8::", 64, some "2001:db8::1", 100⟩
  let r' : Route := ⟨.v6, "2001:db8::", 64, some "2001:DB8::1", 100⟩
  have h : make "2001:db8::/64" (some "2001:db8::1") 100 = .ok r :=
    eq_ok_of_toOption (by decide +kernel)
  have h' : make "2001:db8::/64" (some "2001:DB8::1") 100 = .ok r' :=
    eq_ok_of_toOption (by decide +kernel)
  have hread : (Address.read? "2001:db8::1").isSome := by decide +kernel
  have hhop : Address.read? "2001:DB8::1" = Address.read? "2001:db8::1" := by decide +kernel
  obtain ⟨b, hb⟩ := Option.isSome_iff_exists.mp hread
  obtain ⟨a, hmade⟩ := made_of_make h
  exact ⟨r, r', a, h, h', hmade.address, ⟨rfl, rfl, rfl, ⟨b, hb, hhop.trans hb⟩, fun _ _ => rfl⟩,
    by decide +kernel⟩

end ProfileMatch.Route
