import Mathlib.Tactic.Common
import ProfileMatch.Proofs.Address.RoundTrip
import ProfileMatch.Proofs.Address.Truncation
import ProfileMatch.Proofs.Route.Order
/-!
The networks that routes lead to.

* `LeadsTo`: the destination of a route is an address of its family, and the prefix is no longer
  than that;
* `LeadsTo.network?_eq`, `LeadsTo.network?_eq_iff`: such a route has a network, which tells the
  first bits of the address and no others;
* `LeadsTo.networkOrder_eq`: networks are in the order of their numbers;
* `LeadsTo.of_network`: the first address of the network can stand for any other;
* `LeadsTo.network?_truncated`: a network is the address rounded down to a multiple of a power of
  two.
-/

namespace ProfileMatch.Route

/-- The destination of a route is an address of the family, and the prefix is no longer than it. -/
structure LeadsTo (r : Route) (a : Address) : Prop where
  destination : Address.read? r.destination = some a
  family : a.family = r.family
  prefixLength : r.prefixLength ≤ r.family.width

variable {r r' : Route} {a a' : Address} {s : String}

/-- Another destination in the same network leaves a route at its place in the order: it compares
alike with all others. -/
lemma order_of_network?_eq (hvalid : r.network?.isSome)
    (hs : { r with destination := s }.network? = r.network?) (d : Int) (b : Route) :
    order d { r with destination := s } b = order d r b
      ∧ order d b { r with destination := s } = order d b r := by
  have hsignature : { r with destination := s }.signature d = r.signature d :=
    congrArg (Signature.mk r.family r.prefixLength (r.effectiveMetric d) r.hopText) hs
  have heq := (order_eq_iff (hs ▸ hvalid) hvalid).mpr hsignature
  exact ⟨Std.TransCmp.congr_left heq, Std.TransCmp.congr_right heq⟩

namespace LeadsTo

/-- A route to an address has a network: the bits of the address behind the prefix are cleared. -/
lemma network?_eq (h : r.LeadsTo a) : r.network? = some (a.masked r.prefixLength) := by
  rw [network?, h.destination]
  exact if_pos ⟨h.family, h.prefixLength⟩

/-- Networks of one family and length are the same if the bits in front are. -/
lemma network?_eq_iff (h : r.LeadsTo a) (h' : r'.LeadsTo a') (hfamily : r.family = r'.family)
    (hlength : r.prefixLength = r'.prefixLength) :
    r.network? = r'.network? ↔ ∀ i < r.prefixLength, a.bit i = a'.bit i := by
  have hfamilies : a.family = a'.family := by rw [h.family, h'.family, hfamily]
  have hwidth : r.prefixLength ≤ a.family.width := h.family ▸ h.prefixLength
  rw [h.network?_eq, h'.network?_eq, ← hlength, Option.some_inj,
    Address.masked_eq_iff hfamilies hwidth]

/-- **Networks are in the order of their numbers** in a family. -/
lemma networkOrder_eq (h : r.LeadsTo a) (h' : r'.LeadsTo a') (hfamily : r.family = r'.family) :
    networkOrder r r' = compare (a.truncated r.prefixLength) (a'.truncated r'.prefixLength) := by
  have hlength : (a.network r.prefixLength).octets.length
      = (a'.network r'.prefixLength).octets.length := by
    rw [Address.length_octets, Address.length_octets]
    exact congrArg Family.octetCount (by rw [Address.network, Address.network, h.family, h'.family,
      hfamily])
  rw [networkOrder, h.network?_eq, h'.network?_eq, ← Address.value_network_eq,
    ← Address.value_network_eq]
  exact Address.compare_octets hlength

/-- **The network as the destination**: it takes the place of any address in it. -/
lemma of_network (h : r.LeadsTo a) (hs : Address.read? s = some (a.network r.prefixLength)) :
    { r with destination := s }.LeadsTo (a.network r.prefixLength) :=
  ⟨hs, h.family, h.prefixLength⟩

/-- **Networks by numbers.** A route whose destination is an address of its family, with a prefix
that is no longer, has a network of as many octets as the family has, and their number is that of
the address without the remainder by the power of two that the bits behind the prefix make. Networks
of a family come in the order of these numbers, and two with prefixes of one length are the same
exactly if the addresses agree on the bits of the prefix. The network can be written as the
destination, as its text or in any other way, and neither the network nor the place of the route in
the order changes. To clear the bits one shift is made if the prefix ends within an octet, by the
bits of the octet behind the end, and none otherwise; so all shifts are by 1 to 7 places. -/
theorem network?_truncated (h : r.LeadsTo a) :
    (∃ octets, r.network? = some octets ∧ octets.length = r.family.width / 8
        ∧ Address.valueOf octets = a.truncated r.prefixLength)
      ∧ (∀ r' a', r'.LeadsTo a' → r.family = r'.family →
          networkOrder r r' = compare (a.truncated r.prefixLength) (a'.truncated r'.prefixLength)
            ∧ (r.prefixLength = r'.prefixLength →
                (r.network? = r'.network? ↔ ∀ i < r.prefixLength, a.bit i = a'.bit i)))
      ∧ Address.read? (a.network r.prefixLength).text = some (a.network r.prefixLength)
      ∧ (∀ s, Address.read? s = some (a.network r.prefixLength) →
          { r with destination := s }.network? = r.network?
            ∧ ∀ d b, order d { r with destination := s } b = order d r b
              ∧ order d b { r with destination := s } = order d b r)
      ∧ r.network? = some (a.maskedTraced r.prefixLength).1
      ∧ (a.maskedTraced r.prefixLength).2
        = (if 8 ∣ r.prefixLength then [] else [8 - r.prefixLength % 8])
      ∧ ∀ j ∈ (a.maskedTraced r.prefixLength).2, 1 ≤ j ∧ j ≤ 7 := by
  have hwidth : r.prefixLength ≤ a.family.width := h.family ▸ h.prefixLength
  refine ⟨⟨_, h.network?_eq, ?_, a.value_network_eq r.prefixLength⟩, ?_, Address.read?_text _, ?_,
    ?_, Address.maskedTraced_snd hwidth, ?_⟩
  · have hcount := (a.network r.prefixLength).length_octets
    rw [show (a.network r.prefixLength).family = r.family from h.family] at hcount
    rw [r.family.width_eq, Nat.mul_div_cancel_left _ (by decide)]
    exact hcount
  · intro r' a' h' hfamily
    exact ⟨h.networkOrder_eq h' hfamily, h.network?_eq_iff h' hfamily⟩
  · intro s hs
    have hnetwork := (h.of_network hs).network?_eq
    rw [Address.masked_network, ← h.network?_eq] at hnetwork
    exact ⟨hnetwork, order_of_network?_eq (by rw [h.network?_eq]; rfl) hnetwork⟩
  · rw [a.maskedTraced_fst]
    exact h.network?_eq
  · intro j hj
    rw [Address.maskedTraced_snd hwidth] at hj
    split_ifs at hj with hends
    · exact absurd hj List.not_mem_nil
    · have hplaces := List.mem_singleton.mp hj
      omega

/-- A prefix that ends within the third octet, of which it leaves three bits. -/
theorem network?_truncated_within_octet :
    let r : Route := ⟨.v4, "10.1.255.200", 21, none, -1⟩
    let r' : Route := ⟨.v4, "10.1.250.1", 21, none, 100⟩
    let a : Address := ⟨.v4, [10, 1, 255, 200], rfl⟩
    let a' : Address := ⟨.v4, [10, 1, 250, 1], rfl⟩
    r.LeadsTo a ∧ r'.LeadsTo a' ∧ networkOrder r r' = .eq
      ∧ (∀ i < 21, a.bit i = a'.bit i)
      ∧ { r with destination := "10.1.248.0" }.network? = r.network?
      ∧ (a.maskedTraced 21).2 = [3] := by
  intro r r' a a'
  have h : r.LeadsTo a := ⟨by decide +kernel, rfl, by decide⟩
  have h' : r'.LeadsTo a' := ⟨by decide +kernel, rfl, by decide⟩
  obtain ⟨-, hothers, -, hnetwork, -, hshifts, -⟩ := network?_truncated h
  obtain ⟨horder, hbits⟩ := hothers r' a' h' rfl
  exact ⟨h, h', horder.trans (by decide), (hbits rfl).mp (by decide +kernel),
    (hnetwork "10.1.248.0" (by decide +kernel)).1, hshifts.trans (by decide)⟩

end LeadsTo

end ProfileMatch.Route
