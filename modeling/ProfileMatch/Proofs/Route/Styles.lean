import Mathlib.Tactic.Common
import ProfileMatch.Proofs.Json.Members
import ProfileMatch.Proofs.Route.Written
import ProfileMatch.Proofs.Text.Words
/-!
The styles in which a route is written.

* `RouteParts`: a destination, a prefix length, a next hop and a metric, the last three of which may
  be left out; `RouteParts.Plain`: when they can be told apart on a line;
* `Writes`: a value writes just these parts; a line of them does, with the next hop and the metric
  in either order (`Plain.writes_line`), and so does an object of them (`Plain.writes_object`);
* `ofJson_line_and_object_iff_make`: so it does not matter whether a route is written on a line or
  as an object: each is read exactly if the route can be made of its parts.
-/

namespace ProfileMatch

/-- What a route is written with. -/
structure RouteParts where
  destination : String
  prefixLength : Option ℕ
  nextHop : Option String
  metric : Option Int

namespace RouteParts

/-- The destination with its prefix length, if it has one. -/
def target (p : RouteParts) : String :=
  match p.prefixLength with
  | some n => p.destination ++ "/" ++ Number.decimal n
  | none => p.destination

/-- The words that stand behind the destination on a line, in one of their orders. -/
def extras (p : RouteParts) : List String :=
  p.nextHop.toList ++ (p.metric.map Number.decimal).toList

/-- The members of an object, without those for what is left out. -/
def members (p : RouteParts) : List (String × Json) :=
  ("dest", .string p.destination)
    :: ((p.prefixLength.map fun n => ("prefix", .int n)).toList
      ++ (p.nextHop.map fun hop => ("next-hop", .string hop)).toList
      ++ (p.metric.map fun m => ("metric", .int m)).toList)

/-- Parts that can be told apart: the destination is a word without a slash and the next hop a word
that is no integer; numbers are natural or signed ones of 64 bits. -/
structure Plain (p : RouteParts) : Prop where
  destination : Text.IsWord p.destination.toList
  slash : '/' ∉ p.destination.toList
  prefixLength : ∀ n, p.prefixLength = some n → n < Nat.pow 2 64
  nextHop : ∀ hop, p.nextHop = some hop →
    Text.IsWord hop.toList ∧ IntegerRange.i64.read? hop = none
  metric : ∀ m, p.metric = some m → IntegerRange.i64.holds m = true

/-- A value writes the parts and no others. -/
structure Writes (p : RouteParts) (value : Json) : Prop where
  destination : Route.writtenDestination? value = some p.target
  hops : Route.writtenHops value = p.nextHop.toList
  metrics : Route.writtenMetrics value = p.metric.toList

/-- What is read off a value that writes the parts. -/
lemma Writes.ofJson_eq_ok_iff {p : RouteParts} {value : Json} (h : p.Writes value)
    {family : Family} {r : Route} : Route.ofJson family value = .ok r ↔
      Route.make p.target p.nextHop (p.metric.getD Route.openMetric) = .ok r
        ∧ r.family = family := by
  rw [Route.ofJson_eq_ok_iff, h.destination, h.hops, h.metrics]
  simp [Route.getLast?_toList]

/-! ### Parts on a line -/

section Line

variable {p : RouteParts} {words : List String} {line : String}

lemma Plain.isWord_target (hp : p.Plain) : Text.IsWord p.target.toList := by
  rw [target]
  cases p.prefixLength with
  | none => exact hp.destination
  | some n =>
      have hslash : Text.isBlank '/' = false := by decide
      have hnumber := Text.isWord_decimal n
      refine ⟨by simp, fun c hc => ?_⟩
      simp only [String.toList_append, List.mem_append] at hc
      rcases hc with (hc | hc) | hc
      · exact hp.destination.notBlank c hc
      · have hc : c = '/' := by simpa using hc
        rw [hc, hslash]
      · exact hnumber.notBlank c hc

lemma Plain.isWord_of_mem_extras (hp : p.Plain) {word : String} (h : word ∈ p.extras) :
    Text.IsWord word.toList := by
  rcases List.mem_append.mp h with h | h
  · exact (hp.nextHop word (Option.mem_toList.mp h)).1
  · obtain ⟨m, -, rfl⟩ := Option.map_eq_some_iff.mp (Option.mem_toList.mp h)
    exact Text.isWord_decimal m

/-- The parts can be put on a line. -/
lemma Plain.exists_line (hp : p.Plain) (hwords : words.Perm p.extras) :
    ∃ line : String, Text.Spaced ((p.target :: words).map String.toList) line.toList := by
  have hall : ∀ w ∈ (p.target :: words).map String.toList, Text.IsWord w := by
    intro w hw
    obtain ⟨word, hword, rfl⟩ := List.mem_map.mp hw
    rcases List.mem_cons.mp hword with rfl | hword
    · exact hp.isWord_target
    · exact hp.isWord_of_mem_extras (hwords.mem_iff.mp hword)
  obtain ⟨cs, hcs⟩ := Text.exists_spaced_of_isWord hall
  exact ⟨String.ofList cs, by rwa [String.toList_ofList]⟩

/-- At most one value stands in any order. -/
lemma eq_toList_of_perm {α : Type} {xs : List α} {o : Option α} (h : xs.Perm o.toList) :
    xs = o.toList := by
  cases o with
  | none => exact List.perm_nil.mp h
  | some a => exact List.perm_singleton.mp h

/-- The next hop of a line is the word that is no integer. -/
lemma Plain.hopsAmong_eq (hp : p.Plain) (hwords : words.Perm p.extras) :
    Route.hopsAmong words = p.nextHop.toList := by
  have hextras : Route.hopsAmong p.extras = p.nextHop.toList := by
    rw [Route.hopsAmong, extras, List.filter_append, List.filter_eq_self.mpr,
      List.filter_eq_nil_iff.mpr, List.append_nil]
    · intro word hword
      obtain ⟨m, hm, rfl⟩ := Option.map_eq_some_iff.mp (Option.mem_toList.mp hword)
      simp [IntegerRange.read?_decimal (hp.metric m hm)]
    · intro hop hhop
      simp [(hp.nextHop hop (Option.mem_toList.mp hhop)).2]
  refine eq_toList_of_perm ?_
  rw [← hextras]
  exact hwords.filter _

/-- The metric of a line is the word that is an integer. -/
lemma Plain.metricsAmong_eq (hp : p.Plain) (hwords : words.Perm p.extras) :
    Route.metricsAmong words = p.metric.toList := by
  have hextras : Route.metricsAmong p.extras = p.metric.toList := by
    rw [Route.metricsAmong, extras, List.filterMap_append, List.filterMap_eq_nil_iff.mpr,
      List.nil_append]
    · cases hm : p.metric with
      | none => rfl
      | some m => simp [IntegerRange.read?_decimal (hp.metric m hm)]
    · intro hop hhop
      exact (hp.nextHop hop (Option.mem_toList.mp hhop)).2
  refine eq_toList_of_perm ?_
  rw [← hextras]
  exact hwords.filterMap _

/-- A line of the parts writes them, whatever the blanks between its words. -/
lemma Plain.writes_line (hp : p.Plain) (hwords : words.Perm p.extras)
    (hline : Text.Spaced ((p.target :: words).map String.toList) line.toList) :
    p.Writes (.string line) := by
  have hsplit := Text.words_eq_iff.mpr hline
  have hextra : Route.extraWords line = words := by rw [Route.extraWords, hsplit]; rfl
  refine ⟨?_, ?_, ?_⟩
  · rw [Route.writtenDestination?, hsplit, List.head?_cons]
  · rw [Route.writtenHops, hextra, hp.hopsAmong_eq hwords]
  · rw [Route.writtenMetrics, hextra, hp.metricsAmong_eq hwords]

end Line

/-! ### Parts as an object -/

section Object

variable {p : RouteParts} {ms : List (String × Json)}

lemma nodup_memberNames (p : RouteParts) : (Json.memberNames p.members).Nodup := by
  rw [Json.memberNames, members]
  cases p.prefixLength <;> cases p.nextHop <;> cases p.metric <;> simp

/-- What an object of the parts has under each name. -/
lemma member?_object (hms : ms.Perm p.members) :
    (Json.object ms).member? "dest" = some (.string p.destination)
      ∧ (Json.object ms).member? "prefix" = p.prefixLength.map (fun n => .int n)
      ∧ (Json.object ms).member? "next-hop" = p.nextHop.map .string
      ∧ (Json.object ms).member? "metric" = p.metric.map .int := by
  have hlookup := Table.lookup_eq_of_perm hms p.nodup_memberNames
  simp only [Json.member?, hlookup, members]
  cases p.prefixLength <;> cases p.nextHop <;> cases p.metric <;> exact ⟨rfl, rfl, rfl, rfl⟩

/-- The destination of an object of the parts has the prefix length put behind it. -/
lemma Plain.destinationOf_object (hp : p.Plain) (hms : ms.Perm p.members) :
    Route.destinationOf (.object ms) p.destination = p.target := by
  obtain ⟨-, hpre, -, -⟩ := member?_object hms
  rw [Route.destinationOf, hpre, target]
  cases hn : p.prefixLength with
  | none => rfl
  | some n =>
      have hlt : n < 18446744073709551616 := hp.prefixLength n hn
      have hholds : IntegerRange.u64.holds n = true := by
        refine IntegerRange.holds_iff.mpr ⟨Int.natCast_nonneg n, ?_⟩
        change (n : Int) ≤ 18446744073709551615
        omega
      have hwithin : (Json.int n).within? .u64 = some (n : Int) := if_pos hholds
      simp [hwithin, hp.slash]

/-- An object of the parts writes them, in whatever order its members stand. -/
lemma Plain.writes_object (hp : p.Plain) (hms : ms.Perm p.members) :
    p.Writes (.object ms) := by
  obtain ⟨hdest, -, hhop, hmetric⟩ := member?_object hms
  refine ⟨?_, ?_, ?_⟩
  · simp only [Route.writtenDestination?, hdest]
    exact congrArg some (hp.destinationOf_object hms)
  · simp only [Route.writtenHops, hhop]
    cases p.nextHop <;> rfl
  · simp only [Route.writtenMetrics, hmetric]
    cases hm : p.metric with
    | none => rfl
    | some m =>
        have hwithin : (Json.int m).within? .i64 = some m := if_pos (hp.metric m hm)
        simp [hwithin]

end Object

end RouteParts

/-! ### Lines and objects -/

/-- **Lines and objects are read alike.** Take parts of a route that can be told apart. There is a
line that holds them, with the next hop and the metric in the given order; on every such line,
whatever the blanks between the words, and in every object with these members, a route is read
exactly if it can be made of the parts and is of the family asked for, and it is then that route. -/
theorem ofJson_line_and_object_iff_make {p : RouteParts} (hp : p.Plain) {words : List String}
    (hwords : words.Perm p.extras) {ms : List (String × Json)} (hms : ms.Perm p.members)
    (family : Family) :
    (∃ line : String, Text.Spaced ((p.target :: words).map String.toList) line.toList)
      ∧ ∀ line : String, Text.Spaced ((p.target :: words).map String.toList) line.toList → ∀ r,
        (Route.ofJson family (.string line) = .ok r ↔
          Route.make p.target p.nextHop (p.metric.getD Route.openMetric) = .ok r
            ∧ r.family = family)
        ∧ (Route.ofJson family (.object ms) = .ok r ↔
          Route.make p.target p.nextHop (p.metric.getD Route.openMetric) = .ok r
            ∧ r.family = family) := by
  refine ⟨hp.exists_line hwords, fun line hline r => ⟨?_, ?_⟩⟩
  · exact (hp.writes_line hwords hline).ofJson_eq_ok_iff
  · exact (hp.writes_object hms).ofJson_eq_ok_iff

/-- A wide route whose metric stands before its next hop, on a line with blanks of several kinds and
in an object whose members are in another order. -/
theorem ofJson_line_and_object_metric_first :
    ∃ r, Route.ofJson .v6 (.string "\t2001:db8::/64  -5\n\u3000fe80::1 ") = .ok r
      ∧ Route.ofJson .v6 (.object [("metric", .int (-5)), ("next-hop", .string "fe80::1"),
          ("prefix", .int 64), ("dest", .string "2001:db8::")]) = .ok r := by
  let p : RouteParts := ⟨"2001:db8::", some 64, some "fe80::1", some (-5)⟩
  let r : Route := ⟨.v6, "2001:db8::", 64, some "fe80::1", -5⟩
  have hp : p.Plain := by
    refine ⟨by decide, by decide, ?_, ?_, ?_⟩
    · rintro n ⟨⟩
      decide
    · rintro hop ⟨⟩
      exact ⟨by decide, by decide⟩
    · rintro m ⟨⟩
      decide
  have hwords : ["-5", "fe80::1"].Perm p.extras := .swap _ _ []
  have hms : [("metric", Json.int (-5)), ("next-hop", .string "fe80::1"), ("prefix", .int 64),
      ("dest", .string "2001:db8::")].Perm p.members := List.reverse_perm p.members
  have hline : Text.Spaced ((p.target :: ["-5", "fe80::1"]).map String.toList)
      "\t2001:db8::/64  -5\n\u3000fe80::1 ".toList :=
    Text.words_eq_iff.mp (by decide +kernel)
  have hmake : Route.make p.target p.nextHop (p.metric.getD Route.openMetric) = .ok r :=
    eq_ok_of_toOption (by decide +kernel)
  obtain ⟨-, hread⟩ := ofJson_line_and_object_iff_make hp hwords hms .v6
  obtain ⟨hreadLine, hreadObject⟩ := hread _ hline r
  exact ⟨r, hreadLine.mpr ⟨hmake, rfl⟩, hreadObject.mpr ⟨hmake, rfl⟩⟩

end ProfileMatch
