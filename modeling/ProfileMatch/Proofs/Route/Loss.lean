import Mathlib.Tactic.Common
import ProfileMatch.Proofs.Route.Written
/-!
What a route loses of what was written.

* `Keeps`: a route shows all that a value writes: the words of a line, of which one at most is a
  next hop and one a metric, or the members of an object;
* `Proper`: a value writes nothing that is passed over: there are no further words of a sort on a
  line, and in an object each member that is set can be used and does not contradict the
  destination;
* `ofJson_iff_and_keeps_iff_proper`: of a value that is read the destination, the last next hop and
  the last metric stay, and a member that cannot be used counts as one that is not set; so nothing
  is lost exactly of proper values, and the others that are read lose something without a word;
* `exists_read_not_kept`: there are such values.
-/

namespace ProfileMatch.Route

/-! ### Losses -/

/-- A route shows all that a line writes. -/
structure KeepsLine (r : Route) (line : String) : Prop where
  destination : ∃ target a length?, (Text.words line).head? = some target
    ∧ WritesPrefix .u32 target a length? ∧ a.family = r.family ∧ a.text = r.destination
    ∧ length?.getD r.family.width = r.prefixLength
  hop_unique : (hopsAmong (extraWords line)).length ≤ 1
  metric_unique : (metricsAmong (extraWords line)).length ≤ 1
  nextHop : ∀ hop ∈ hopsAmong (extraWords line), r.nextHop = some hop
  metric : ∀ m ∈ metricsAmong (extraWords line), r.metric = m

/-- A route shows the members of an object that are set. -/
structure KeepsMembers (r : Route) (value : Json) : Prop where
  prefixLength : ∀ v, value.member? "prefix" = some v → v ≠ .null → v = .int r.prefixLength
  nextHop : ∀ v, value.member? "next-hop" = some v → v ≠ .null →
    ∃ hop, v = .string hop ∧ r.nextHop = some hop
  metric : ∀ v, value.member? "metric" = some v → v ≠ .null → v = .int r.metric

/-- A route shows all that a value writes. -/
def Keeps (r : Route) : Json → Prop
  | .string line => KeepsLine r line
  | value => KeepsMembers r value

/-- Members that are set are integers and texts of which a route can be made, and the prefix length
is the one behind the destination if that has one. -/
structure ProperMembers (value : Json) : Prop where
  prefixLength : ∀ v, value.member? "prefix" = some v → v ≠ .null →
    ∃ n, v.within? .u64 = some n
      ∧ ∀ dest back, (value.member? "dest").bind Json.string? = some dest →
          (cutPrefix dest).2 = some back → IntegerRange.u32.read? back = some n
  nextHop : ∀ v, value.member? "next-hop" = some v → v ≠ .null → ∃ hop, v = .string hop
  metric : ∀ v, value.member? "metric" = some v → v ≠ .null → ∃ m, v.within? .i64 = some m

/-- Nothing that a value writes is surplus or cannot be used. -/
def Proper : Json → Prop
  | .string line =>
    (hopsAmong (extraWords line)).length ≤ 1 ∧ (metricsAmong (extraWords line)).length ≤ 1
  | value => ProperMembers value

/-! ### What a route is made of -/

section Made

variable {destination : String} {hop? : Option String} {m : Int} {r : Route}

/-- The destination of a route and its prefix length are written by the text that it was made of. -/
lemma writesPrefix_of_make (h : make destination hop? m = .ok r) :
    ∃ a length?, WritesPrefix .u32 destination a length? ∧ a.family = r.family
      ∧ a.text = r.destination ∧ length?.getD r.family.width = r.prefixLength := by
  obtain ⟨⟨a, length?⟩, hdestination, hrest⟩ := bind_eq_ok_iff.mp h
  obtain ⟨got, -, hroute⟩ := bind_eq_ok_iff.mp hrest
  cases hroute
  exact ⟨a, length?, (readDestination_eq_ok_iff.mp hdestination).1, rfl, rfl, rfl⟩

/-- What stands behind the slash of a destination is the prefix length. -/
lemma read?_of_make (h : make destination hop? m = .ok r) {back : String}
    (hback : (cutPrefix destination).2 = some back) :
    IntegerRange.u32.read? back = some (r.prefixLength : Int) := by
  obtain ⟨a, length?, hwritten, -, -, hlength⟩ := writesPrefix_of_make h
  have hread := (writesPrefix_iff.mp hwritten).2
  rw [hback] at hread
  cases length? with
  | none => cases hread
  | some n =>
      rw [← hlength]
      exact Option.some.inj hread

end Made

/-! ### Lines -/

section Line

variable {line : String} {r : Route}

/-- At most one value is the last one. -/
lemma getLast?_eq_of_mem {α : Type} {xs : List α} {x : α} (h : xs.length ≤ 1) (hx : x ∈ xs) :
    xs.getLast? = some x := by
  match xs, h with
  | [y], _ => rw [List.mem_singleton.mp hx, List.getLast?_singleton]

/-- A line that is read loses nothing exactly if it has no further words of a sort. -/
lemma keepsLine_iff {target : String} (hhead : (Text.words line).head? = some target)
    (h : make target (writtenHops (.string line)).getLast?
      ((writtenMetrics (.string line)).getLast?.getD openMetric) = .ok r) :
    KeepsLine r line ↔ Proper (.string line) := by
  obtain ⟨a, hmade⟩ := made_of_make h
  constructor
  · intro hkeeps
    exact ⟨hkeeps.hop_unique, hkeeps.metric_unique⟩
  · rintro ⟨hhops, hmetrics⟩
    obtain ⟨a, length?, hwritten⟩ := writesPrefix_of_make h
    refine ⟨⟨target, a, length?, hhead, hwritten⟩, hhops, hmetrics, fun hop hhop => ?_,
      fun m hm => ?_⟩
    · rw [hmade.nextHop, writtenHops, getLast?_eq_of_mem hhops hhop]
    · rw [hmade.metric, writtenMetrics, getLast?_eq_of_mem hmetrics hm, Option.getD_some]

end Line

/-! ### Objects -/

section Object

variable {value v : Json} {dest : String} {hop? : Option String} {m : Int} {r : Route}

/-- A destination that has a prefix length already is left as it is. -/
lemma destinationOf_of_slash_mem (h : '/' ∈ dest.toList) : destinationOf value dest = dest := by
  rw [destinationOf]
  split
  · exact if_pos h
  · rfl

/-- A prefix length that can be used is the one behind the slash, of its own destination or put
there. -/
lemma read?_of_member {n : Int} (hpre : value.member? "prefix" = some v)
    (hn : v.within? .u64 = some n) (hslash : '/' ∉ dest.toList)
    (h : make (destinationOf value dest) hop? m = .ok r) : n = r.prefixLength := by
  have hdestination : destinationOf value dest = dest ++ "/" ++ Number.decimal n := by
    rw [destinationOf, hpre, Option.bind_some, hn]
    exact if_neg hslash
  have hcut : (cutPrefix (destinationOf value dest)).2 = some (Number.decimal n) := by
    rw [hdestination, cutPrefix_append hslash]
  have hread : IntegerRange.u64.read? (Number.decimal n) = some (r.prefixLength : Int) :=
    IntegerRange.read?_wider (by decide) (by decide) (read?_of_make h hcut)
  rw [IntegerRange.read?_decimal (Json.within?_eq_some_iff.mp hn).2] at hread
  exact Option.some.inj hread

/-- The prefix length of an object that is read is shown exactly if it can be used and does not
contradict the destination. -/
lemma eq_prefixLength_iff (hdest : (value.member? "dest").bind Json.string? = some dest)
    (hpre : value.member? "prefix" = some v)
    (h : make (destinationOf value dest) hop? m = .ok r) :
    v = .int r.prefixLength ↔
      ∃ n, v.within? .u64 = some n
        ∧ ∀ dest back, (value.member? "dest").bind Json.string? = some dest →
            (cutPrefix dest).2 = some back → IntegerRange.u32.read? back = some n := by
  obtain ⟨a, hmade⟩ := made_of_make h
  constructor
  · rintro rfl
    -- no width comes near the bound of the range, so that the member can be used
    have hwidth : r.family.width ≤ 128 := by cases r.family <;> decide
    have hholds : IntegerRange.u64.holds r.prefixLength = true := by
      refine IntegerRange.holds_iff.mpr ⟨Int.natCast_nonneg _, ?_⟩
      have hfits := hmade.prefixLength
      change (r.prefixLength : Int) ≤ 18446744073709551615
      omega
    refine ⟨r.prefixLength, Json.within?_eq_some_iff.mpr ⟨rfl, hholds⟩, ?_⟩
    intro dest' back hdest' hback
    obtain rfl : dest = dest' := Option.some.inj (hdest.symm.trans hdest')
    have hslash : '/' ∈ dest.toList := by
      by_contra hnot
      rw [cutPrefix_of_notMem hnot] at hback
      cases hback
    rw [destinationOf_of_slash_mem hslash] at h
    exact read?_of_make h hback
  · rintro ⟨n, hn, hown⟩
    -- a destination with a slash has to agree with the member, any other takes it over
    have hlength : n = r.prefixLength := by
      by_cases hslash : '/' ∈ dest.toList
      · obtain ⟨back, hback⟩ := exists_of_slash_mem hslash
        rw [destinationOf_of_slash_mem hslash] at h
        have hread := read?_of_make h hback
        rw [hown dest back hdest hback] at hread
        exact Option.some.inj hread
      · exact read?_of_member hpre hn hslash h
    rw [← hlength]
    exact (Json.within?_eq_some_iff.mp hn).1

/-- An object that is read loses nothing exactly if its members are proper. -/
lemma keepsMembers_iff (hdest : (value.member? "dest").bind Json.string? = some dest)
    (h : make (destinationOf value dest) ((value.member? "next-hop").bind Json.string?)
      (((value.member? "metric").bind (Json.within? .i64)).getD openMetric) = .ok r)
    (hreadable : r.Readable) : KeepsMembers r value ↔ ProperMembers value := by
  obtain ⟨a, hmade⟩ := made_of_make h
  constructor
  · intro hkeeps
    refine ⟨fun v hv hset => ?_, fun v hv hset => ?_, fun v hv hset => ?_⟩
    · exact (eq_prefixLength_iff hdest hv h).mp (hkeeps.prefixLength v hv hset)
    · obtain ⟨hop, hhop, -⟩ := hkeeps.nextHop v hv hset
      exact ⟨hop, hhop⟩
    · exact ⟨r.metric, Json.within?_eq_some_iff.mpr ⟨hkeeps.metric v hv hset, hreadable.metric⟩⟩
  · intro hproper
    refine ⟨fun v hv hset => ?_, fun v hv hset => ?_, fun v hv hset => ?_⟩
    · exact (eq_prefixLength_iff hdest hv h).mpr (hproper.prefixLength v hv hset)
    · obtain ⟨hop, rfl⟩ := hproper.nextHop v hv hset
      exact ⟨hop, rfl, by rw [hmade.nextHop, hv]; rfl⟩
    · obtain ⟨i, hi⟩ := hproper.metric v hv hset
      have hmetric : r.metric = i := by rw [hmade.metric, hv, Option.bind_some, hi]; rfl
      rw [hmetric]
      exact (Json.within?_eq_some_iff.mp hi).1

end Object

/-! ### Values -/

/-- What is read loses nothing exactly if it was written properly. -/
lemma keeps_iff_proper {family : Family} {value : Json} {r : Route}
    (h : ofJson family value = .ok r) : r.Keeps value ↔ Proper value := by
  obtain ⟨target, htarget, hmake, -⟩ := ofJson_eq_ok_iff.mp h
  have hreadable := (readable_of_ofJson h).1
  cases value with
  | string line => exact keepsLine_iff htarget hmake
  | object members =>
      obtain ⟨dest, hdest, rfl⟩ := Option.map_eq_some_iff.mp htarget
      simp only [writtenHops, writtenMetrics, getLast?_toList] at hmake
      exact keepsMembers_iff hdest hmake hreadable
  | null => cases htarget
  | bool b => cases htarget
  | number n => cases htarget
  | array items => cases htarget

/-- **What becomes of a value.** It is read as a route exactly if the route can be made of its
destination, the last of its next hops and the last of its metrics, where a member of an object that
cannot be used counts as one that is not set. A route that is read shows all that was written
exactly if nothing was surplus or of no use; so whatever else is written is passed over, not
refused. -/
theorem ofJson_iff_and_keeps_iff_proper (family : Family) (value : Json) (r : Route) :
    (ofJson family value = .ok r ↔
      ∃ destination, writtenDestination? value = some destination
        ∧ make destination (writtenHops value).getLast?
            ((writtenMetrics value).getLast?.getD openMetric) = .ok r
        ∧ r.family = family)
      ∧ (ofJson family value = .ok r → (r.Keeps value ↔ Proper value)) :=
  ⟨ofJson_eq_ok_iff, keeps_iff_proper⟩

/-- A line with the metric in front of the next hop keeps all its words, and an object keeps its
prefix length beside a next hop that is null. -/
theorem keeps_line_and_object :
    (∃ r, ofJson .v4 (.string "10.0.0.0/24 5 10.0.0.1") = .ok r
        ∧ r.Keeps (.string "10.0.0.0/24 5 10.0.0.1"))
      ∧ ∃ r, ofJson .v4 (.object [("dest", .string "10.0.0.0"), ("prefix", .int 24),
          ("next-hop", .null)]) = .ok r
        ∧ r.Keeps (.object [("dest", .string "10.0.0.0"), ("prefix", .int 24),
          ("next-hop", .null)]) := by
  constructor
  · have hread : ofJson .v4 (.string "10.0.0.0/24 5 10.0.0.1")
        = .ok ⟨.v4, "10.0.0.0", 24, some "10.0.0.1", 5⟩ :=
      eq_ok_of_toOption (by decide +kernel)
    have hproper : Proper (.string "10.0.0.0/24 5 10.0.0.1") :=
      ⟨by decide +kernel, by decide +kernel⟩
    exact ⟨_, hread, ((ofJson_iff_and_keeps_iff_proper _ _ _).2 hread).mpr hproper⟩
  · let ms : List (String × Json) :=
      [("dest", .string "10.0.0.0"), ("prefix", .int 24), ("next-hop", .null)]
    have hread : ofJson .v4 (.object ms) = .ok ⟨.v4, "10.0.0.0", 24, none, -1⟩ :=
      eq_ok_of_toOption (by decide +kernel)
    have hproper : ProperMembers (.object ms) := by
      have hcut : (cutPrefix "10.0.0.0").2 = none := by decide +kernel
      refine ⟨?_, ?_, ?_⟩
      · intro v hv _
        obtain rfl : Json.int 24 = v := Option.some.inj hv
        refine ⟨24, rfl, fun dest back hdest hback => ?_⟩
        obtain rfl : "10.0.0.0" = dest := Option.some.inj hdest
        rw [hcut] at hback
        cases hback
      · intro v hv hset
        exact absurd (Option.some.inj hv).symm hset
      · intro v hv _
        cases hv
    exact ⟨_, hread, ((ofJson_iff_and_keeps_iff_proper _ _ _).2 hread).mpr hproper⟩

/-- **Losses without a word**: a prefix length that is written as a text is passed over, so that a
route to a network comes out as one to a single host, and of two next hops on a line the first is
passed over. -/
theorem exists_read_not_kept :
    (∃ r, ofJson .v4 (.object [("dest", .string "10.0.0.0"), ("prefix", .string "24")]) = .ok r
        ∧ r.prefixLength = 32
        ∧ ¬r.Keeps (.object [("dest", .string "10.0.0.0"), ("prefix", .string "24")]))
      ∧ ∃ r, ofJson .v4 (.string "10.0.0.0/24 10.0.0.1 10.0.0.2") = .ok r
        ∧ r.nextHop = some "10.0.0.2"
        ∧ ¬r.Keeps (.string "10.0.0.0/24 10.0.0.1 10.0.0.2") := by
  constructor
  · have hread : ofJson .v4 (.object [("dest", .string "10.0.0.0"), ("prefix", .string "24")])
        = .ok ⟨.v4, "10.0.0.0", 32, none, -1⟩ :=
      eq_ok_of_toOption (by decide +kernel)
    refine ⟨_, hread, rfl, fun hkeeps => ?_⟩
    cases hkeeps.prefixLength (.string "24") rfl nofun
  · have hread : ofJson .v4 (.string "10.0.0.0/24 10.0.0.1 10.0.0.2")
        = .ok ⟨.v4, "10.0.0.0", 24, some "10.0.0.2", -1⟩ :=
      eq_ok_of_toOption (by decide +kernel)
    refine ⟨_, hread, rfl, fun hkeeps => ?_⟩
    exact absurd hkeeps.hop_unique (by decide +kernel)

end ProfileMatch.Route
