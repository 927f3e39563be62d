import Mathlib.Tactic.Common
import ProfileMatch.Proofs.Json.Scalars
import ProfileMatch.Proofs.Route.Destination
/-!
Routes are read back from their objects.

* `Made`, `made_of_make`: a route as it comes out of what it was made of;
* `Readable`: what holds of every route that was read, from a line or from an object
  (`readable_of_ofJson`): the destination is spelled in the one way, the prefix is no longer than
  it, the next hop is an address of the family and the metric an integer of 64 bits;
* `ofJson_toJson`: a route of which it holds is read back.
-/

namespace ProfileMatch

namespace Route

/-! ### What is made -/

/-- A route that was made of a destination that reads as an address, of a next hop and a metric. -/
structure Made (destination : String) (hop? : Option String) (metric : Int) (a : Address)
    (r : Route) : Prop where
  address : Address.read? (cutPrefix destination).1 = some a
  family : a.family = r.family
  destination : a.text = r.destination
  prefixLength : r.prefixLength ≤ r.family.width
  nextHop : r.nextHop = hop?
  hop : ∀ hop, r.nextHop = some hop → ∃ b, Address.read? hop = some b ∧ b.family = r.family
  metric : r.metric = metric

/-- A next hop is kept as it is written, and it is an address of the family. -/
lemma of_readHop {family : Family} {destination : String} {hop? got : Option String}
    (h : readHop family destination hop? = .ok got) :
    got = hop? ∧ ∀ hop, got = some hop → ∃ a, Address.read? hop = some a ∧ a.family = family := by
  cases hop? with
  | none =>
      cases h
      exact ⟨rfl, nofun⟩
  | some hop =>
      rw [readHop] at h
      cases haddress : Address.read? hop with
      | none =>
          rw [haddress] at h
          cases h
      | some a =>
          simp only [haddress] at h
          split_ifs at h with hfamily
          cases h
          refine ⟨rfl, ?_⟩
          rintro hop' ⟨⟩
          exact ⟨a, haddress, hfamily⟩

/-- **What is made** of a destination, a next hop and a metric shows them. -/
lemma made_of_make {destination : String} {hop? : Option String} {metric : Int} {r : Route}
    (h : make destination hop? metric = .ok r) : ∃ a, Made destination hop? metric a r := by
  obtain ⟨⟨a, length?⟩, hdestination, hrest⟩ := bind_eq_ok_iff.mp h
  obtain ⟨got, hhop, hroute⟩ := bind_eq_ok_iff.mp hrest
  cases hroute
  obtain ⟨hwritten, hlength⟩ := readDestination_eq_ok_iff.mp hdestination
  obtain ⟨hnext, hread⟩ := of_readHop hhop
  exact ⟨a, (writesPrefix_iff.mp hwritten).1, rfl, rfl, hlength, hnext, hread, rfl⟩

/-! ### What is read -/

/-- What holds of every route that was read. -/
structure Readable (r : Route) : Prop where
  destination : ∃ a : Address, a.family = r.family ∧ a.text = r.destination
  prefixLength : r.prefixLength ≤ r.family.width
  hop : ∀ hop, r.nextHop = some hop → ∃ a, Address.read? hop = some a ∧ a.family = r.family
  metric : IntegerRange.i64.holds r.metric = true

lemma readable_of_make {destination : String} {hop? : Option String} {metric : Int} {r : Route}
    (hmetric : IntegerRange.i64.holds metric = true) (h : make destination hop? metric = .ok r) :
    r.Readable := by
  obtain ⟨a, hmade⟩ := made_of_make h
  exact ⟨⟨a, hmade.family, hmade.destination⟩, hmade.prefixLength, hmade.hop,
    hmade.metric ▸ hmetric⟩

/-- An open metric, and any that is read, is an integer of 64 bits. -/
lemma holds_takeWord {seen : Option String × Int} (h : IntegerRange.i64.holds seen.2 = true)
    (word : String) : IntegerRange.i64.holds (takeWord seen word).2 = true := by
  rw [takeWord]
  cases hread : IntegerRange.i64.read? word with
  | none => exact h
  | some m => exact IntegerRange.holds_of_read? (by decide) (by decide) hread

lemma readable_of_ofLine {line : String} {r : Route} (h : ofLine line = .ok r) : r.Readable := by
  refine readable_of_make ?_ h
  have hopen : ∀ (words : List String) (seen : Option String × Int),
      IntegerRange.i64.holds seen.2 = true →
        IntegerRange.i64.holds (words.foldl takeWord seen).2 = true := by
    intro words
    induction words with
    | nil => exact fun seen hseen => hseen
    | cons word words ih => exact fun seen hseen => ih _ (holds_takeWord hseen word)
  exact hopen _ _ (by decide)

lemma readable_of_ofObject {value : Json} {r : Route} (h : ofObject value = .ok r) :
    r.Readable := by
  rw [ofObject] at h
  cases hdest : (value.member? "dest").bind Json.string? with
  | none =>
      rw [hdest] at h
      cases h
  | some dest =>
      rw [hdest] at h
      refine readable_of_make ?_ h
      cases hmetric : (value.member? "metric").bind (Json.within? .i64) with
      | none => decide
      | some m =>
          obtain ⟨v, -, hwithin⟩ := Option.bind_eq_some_iff.mp hmetric
          exact Json.holds_of_within? hwithin

/-- **What is read as a route** can be read back, and is of the family asked for. -/
lemma readable_of_ofJson {family : Family} {value : Json} {r : Route}
    (h : ofJson family value = .ok r) : r.Readable ∧ r.family = family := by
  obtain ⟨r', hread, hfamily⟩ := bind_eq_ok_iff.mp h
  split_ifs at hfamily with heq
  cases hfamily
  refine ⟨?_, heq⟩
  cases value with
  | string line => exact readable_of_ofLine hread
  | object members => exact readable_of_ofObject hread
  | null => cases hread
  | bool b => cases hread
  | number n => cases hread
  | array items => cases hread

/-! ### What is read back -/

/-- An address with a prefix no longer than it is read back. -/
lemma readDestination_text {a : Address} {n : ℕ} (h : n ≤ a.family.width) :
    readDestination (a.text ++ "/" ++ Number.decimal n) = .ok (a, some n) := by
  have hwidth : a.family.width ≤ 128 := by cases a.family <;> decide
  have hlength : IntegerRange.u32.read? (Number.decimal n) = some (n : Int) := by
    refine IntegerRange.read?_decimal (IntegerRange.holds_iff.mpr ⟨Int.natCast_nonneg n, ?_⟩)
    change (n : Int) ≤ 4294967295
    omega
  exact readDestination_eq_ok_iff.mpr ⟨.network (Address.read?_text a) hlength, h⟩

lemma readHop_self {family : Family} {destination : String} {hop? : Option String}
    (h : ∀ hop, hop? = some hop → ∃ a, Address.read? hop = some a ∧ a.family = family) :
    readHop family destination hop? = .ok hop? := by
  cases hop? with
  | none => rfl
  | some hop =>
      obtain ⟨a, haddress, hfamily⟩ := h hop rfl
      rw [readHop, haddress]
      exact if_pos hfamily

/-- The destination of a route and its prefix are members of their own, and put together again. -/
lemma destinationOf_toJson {r : Route} (h : r.Readable) :
    destinationOf r.toJson r.destination
      = r.destination ++ "/" ++ Number.decimal r.prefixLength := by
  have hwidth : r.family.width ≤ 128 := by cases r.family <;> decide
  have hprefix : (r.toJson.member? "prefix").bind (Json.within? .u64)
      = some (r.prefixLength : Int) := by
    have hholds : IntegerRange.u64.holds r.prefixLength = true := by
      have hlength := h.prefixLength
      have hle : (r.prefixLength : Int) ≤ 18446744073709551615 := by omega
      simp [IntegerRange.holds, IntegerRange.u64, hle]
    have hmember : r.toJson.member? "prefix" = some (.int r.prefixLength) := rfl
    rw [hmember]
    exact if_pos hholds
  have hslash : '/' ∉ r.destination.toList := by
    obtain ⟨a, -, htext⟩ := h.destination
    exact slash_notMem_of_read? (htext ▸ Address.read?_text a)
  rw [destinationOf, hprefix]
  exact if_neg hslash

/-- **Routes are read back from their objects.** -/
lemma ofJson_toJson {r : Route} (h : r.Readable) : ofJson r.family r.toJson = .ok r := by
  obtain ⟨a, hfamily, htext⟩ := h.destination
  have hdest : (r.toJson.member? "dest").bind Json.string? = some r.destination := rfl
  have hhop : (r.toJson.member? "next-hop").bind Json.string? = r.nextHop := by
    rw [toJson]
    cases r.nextHop <;> rfl
  have hmetric : ((r.toJson.member? "metric").bind (Json.within? .i64)).getD openMetric
      = r.metric := by
    have hmember : r.toJson.member? "metric" = some (.int r.metric) := by
      rw [toJson]
      cases r.nextHop <;> rfl
    have hwithin : (Json.int r.metric).within? .i64 = some r.metric := if_pos h.metric
    rw [hmember, Option.bind_some, hwithin, Option.getD_some]
  have hdestination : readDestination (destinationOf r.toJson r.destination)
      = .ok (a, some r.prefixLength) := by
    rw [destinationOf_toJson h, ← htext]
    exact readDestination_text (hfamily ▸ h.prefixLength)
  have hread : ofObject r.toJson = .ok r := by
    rw [ofObject, hdest]
    simp only [hhop, hmetric]
    refine bind_eq_ok_iff.mpr ⟨_, hdestination, bind_eq_ok_iff.mpr ⟨_, readHop_self ?_, ?_⟩⟩
    · rw [hfamily]
      exact h.hop
    · rw [hfamily, htext]
      rfl
  exact bind_eq_ok_iff.mpr ⟨r, hread, if_pos rfl⟩

end Route

end ProfileMatch
