import Mathlib.Tactic.Common
import ProfileMatch.Proofs.Route.RoundTrip
/-!
What a value writes of a route, whether it is a line or an object.

* `hopsAmong`, `metricsAmong`: words behind a destination are next hops or metrics, told by whether
  they read as integers; a line may hold several of either, an object one at most
  (`writtenHops`, `writtenMetrics`);
* `foldl_takeWord`: the words are taken in turn, and the last one of its sort stays;
* `ofJson_eq_ok_iff`: a value is read as a route exactly if it writes a destination and the route
  can be made of it, of the last next hop and of the last metric; nothing else about the value
  matters.
-/

namespace ProfileMatch.Route

/-- The words of a line behind the destination. -/
def extraWords (line : String) : List String := (Text.words line).drop 1

/-- The words that are taken for next hops: those that are no integers. -/
def hopsAmong (words : List String) : List String :=
  words.filter fun w => (IntegerRange.i64.read? w).isNone

/-- The metrics among words. -/
def metricsAmong (words : List String) : List Int := words.filterMap IntegerRange.i64.read?

/-- The destination that a value writes, with a prefix length if there is one. -/
def writtenDestination? : Json → Option String
  | .string line => (Text.words line).head?
  | value => ((value.member? "dest").bind Json.string?).map (destinationOf value)

/-- The next hops that a value writes, in order. -/
def writtenHops : Json → List String
  | .string line => hopsAmong (extraWords line)
  | value => ((value.member? "next-hop").bind Json.string?).toList

/-- The metrics that a value writes, in order. -/
def writtenMetrics : Json → List Int
  | .string line => metricsAmong (extraWords line)
  | value => ((value.member? "metric").bind (Json.within? .i64)).toList

/-! ### Words in turn -/

variable {value : Json} {family : Family} {destination : String} {hop? : Option String} {m : Int}
  {r : Route}

/-- The last metric and the last next hop of a line stay. -/
lemma foldl_takeWord (words : List String) (seen : Option String × Int) :
    words.foldl takeWord seen
      = ((hopsAmong words).getLast?.or seen.1, (metricsAmong words).getLast?.getD seen.2) := by
  induction words generalizing seen with
  | nil => rfl
  | cons word words ih =>
      rw [List.foldl_cons, ih, takeWord]
      cases hread : IntegerRange.i64.read? word with
      | some i =>
          have hhops : hopsAmong (word :: words) = hopsAmong words :=
            List.filter_cons_of_neg (by simp [hread])
          have hmetrics : metricsAmong (word :: words) = i :: metricsAmong words :=
            List.filterMap_cons_some hread
          simp [hhops, hmetrics, List.getLast?_cons]
      | none =>
          have hhops : hopsAmong (word :: words) = word :: hopsAmong words :=
            List.filter_cons_of_pos (by simp [hread])
          have hmetrics : metricsAmong (word :: words) = metricsAmong words :=
            List.filterMap_cons_none hread
          rw [hhops, hmetrics, List.getLast?_cons]
          cases (hopsAmong words).getLast? <;> rfl

lemma ofLine_eq (line : String) :
    ofLine line = make ((Text.words line).head?.getD "") (writtenHops (.string line)).getLast?
      ((writtenMetrics (.string line)).getLast?.getD openMetric) := by
  rw [ofLine, foldl_takeWord, Option.or_none]
  rfl

/-! ### Reading what is written -/

/-- No route leads to the empty text. -/
lemma make_empty_ne_ok : make "" hop? m ≠ .ok r := by
  intro h
  obtain ⟨a, hmade⟩ := made_of_make h
  have haddress : Address.read? "" = some a := hmade.address
  rw [Address.read?_empty] at haddress
  cases haddress

/-- The last one of at most one. -/
lemma getLast?_toList {α : Type} (o : Option α) : o.toList.getLast? = o := by
  cases o <;> rfl

/-- A value is read for a family if the route that it writes is of it. -/
lemma ofJson_eq_ok_iff_ofValue :
    ofJson family value = .ok r ↔ ofValue value = .ok r ∧ r.family = family := by
  rw [ofJson, bind_eq_ok_iff]
  constructor
  · rintro ⟨r', hread, h⟩
    split_ifs at h with hfamily
    cases h
    exact ⟨hread, hfamily⟩
  · rintro ⟨hread, hfamily⟩
    exact ⟨r, hread, if_pos hfamily⟩

/-- What is neither a line nor an object writes no destination. -/
lemma ofValue_eq_ok_iff : ofValue value = .ok r ↔
    ∃ destination, writtenDestination? value = some destination
      ∧ make destination (writtenHops value).getLast?
          ((writtenMetrics value).getLast?.getD openMetric) = .ok r := by
  cases value with
  | string line =>
      rw [ofValue, ofLine_eq, writtenDestination?]
      -- without words the reader goes on with the empty text, which is no destination
      cases (Text.words line).head? with
      | none => simp [make_empty_ne_ok]
      | some destination => simp
  | object members =>
      simp only [ofValue, ofObject, writtenDestination?, writtenHops, writtenMetrics,
        getLast?_toList]
      cases ((Json.object members).member? "dest").bind Json.string? with
      | none => simp
      | some dest => simp
  | null => simp [ofValue, writtenDestination?, Json.member?]
  | bool b => simp [ofValue, writtenDestination?, Json.member?]
  | number n => simp [ofValue, writtenDestination?, Json.member?]
  | array items => simp [ofValue, writtenDestination?, Json.member?]

/-- **Reading a route**: of all that a value writes the destination, the last next hop and the last
metric decide whether it is read, and as which route. -/
lemma ofJson_eq_ok_iff : ofJson family value = .ok r ↔
    ∃ destination, writtenDestination? value = some destination
      ∧ make destination (writtenHops value).getLast?
          ((writtenMetrics value).getLast?.getD openMetric) = .ok r
      ∧ r.family = family := by
  rw [ofJson_eq_ok_iff_ofValue, ofValue_eq_ok_iff]
  constructor
  · rintro ⟨⟨destination, hdestination, hmake⟩, hfamily⟩
    exact ⟨destination, hdestination, hmake, hfamily⟩
  · rintro ⟨destination, hdestination, hmake, hfamily⟩
    exact ⟨⟨destination, hdestination, hmake⟩, hfamily⟩

end ProfileMatch.Route
