import Mathlib.Data.List.Permutation
import Mathlib.Tactic.Common
import ProfileMatch.Proofs.Route.Order
/-!
Canonical lists of routes do not change under later comparisons.

* `sort_of_pairwise`: sorting leaves a list alone that is in order;
* `canonical?_eq_some_iff`, `canonical?_eq_none_iff`: which lists have a canonical form;
* `canonical?_of_canonical?`: a canonical list is its own canonical form, also with any other
  default that leaves its metrics as they are;
* `canonical?_stable`: what a canonical list holds, its order where metrics are settled and where
  they are left open, and what becomes of it when the canonical form is taken again.
-/

namespace ProfileMatch.Route

variable {d e : Int} {rs cs : List Route}

/-- A list in order is left alone. -/
lemma sort_of_pairwise (h : rs.Pairwise fun a b => (order d a b).isLE) : sort d rs = rs :=
  List.mergeSort_of_pairwise h

/-- The canonical form of a list, if it has one, holds its routes with their metrics settled, in
order. -/
lemma canonical?_eq_some_iff :
    canonical? d rs = some cs ↔
      (∀ r ∈ rs, r.network?.isSome) ∧ cs = sort d (rs.map (·.settled d)) := by
  by_cases hvalid : ∀ r ∈ rs, r.network?.isSome
  · rw [canonical?_of_valid hvalid, Option.some_inj, and_iff_right hvalid, eq_comm]
  · rw [canonical?_of_invalid hvalid]
    exact ⟨nofun, fun h => absurd h.1 hvalid⟩

/-- There is no canonical form exactly if some destination is not valid. -/
lemma canonical?_eq_none_iff : canonical? d rs = none ↔ ∃ r ∈ rs, r.network? = none := by
  by_cases hvalid : ∀ r ∈ rs, r.network?.isSome
  · rw [canonical?_of_valid hvalid]
    refine ⟨nofun, ?_⟩
    rintro ⟨r, hr, hnone⟩
    exact absurd (hvalid r hr) (by simp [hnone])
  · rw [canonical?_of_invalid hvalid]
    simpa using hvalid

/-- **A canonical list is its own canonical form**, also with another default, as long as that does
not touch its metrics: none of them is open, or open ones are left so. -/
lemma canonical?_of_canonical? (h : canonical? d rs = some cs)
    (he : d = openMetric → e = openMetric) : canonical? e cs = some cs := by
  obtain ⟨hvalid, rfl⟩ := canonical?_eq_some_iff.mp h
  have hmem : ∀ c ∈ sort d (rs.map (·.settled d)), ∃ r ∈ rs, r.settled d = c := fun c hc =>
    List.mem_map.mp ((sort_perm d _).mem_iff.mp hc)
  refine canonical?_eq_some_iff.mpr ⟨?_, ?_⟩
  · intro c hc
    obtain ⟨r, hr, rfl⟩ := hmem c hc
    exact hvalid r hr
  · have hsettled : ∀ c ∈ sort d (rs.map (·.settled d)), c.settled e = c := by
      intro c hc
      obtain ⟨r, -, rfl⟩ := hmem c hc
      exact settled_settled he
    rw [List.map_congr_left hsettled, List.map_id', sort_of_pairwise (pairwise_sort_settled he rs)]

/-- **Canonical lists are stable.** A list of routes has a canonical form unless some destination is
not valid. It holds the routes of the list, each as often as the list does, in which the default has
taken the place of open metrics and nothing else has changed. It is in order both with that default
and with metrics left open, as the comparison of two lists reads it, whatever the default is. Taken
again with the same default the form is the list itself, and so it is with every other one unless
the metrics were settled as open. -/
theorem canonical?_stable (d : Int) (rs : List Route) :
    (canonical? d rs = none ↔ ∃ r ∈ rs, r.network? = none)
      ∧ ∀ cs, canonical? d rs = some cs →
        cs.Perm (rs.map fun r =>
            { r with metric := if r.metric = openMetric then d else r.metric })
          ∧ (cs.Pairwise fun a b => (order d a b).isLE)
          ∧ (cs.Pairwise fun a b => (order openMetric a b).isLE)
          ∧ canonical? d cs = some cs
          ∧ (d ≠ openMetric → ∀ e, canonical? e cs = some cs) := by
  refine ⟨canonical?_eq_none_iff, fun cs h => ?_⟩
  obtain ⟨-, hcs⟩ := canonical?_eq_some_iff.mp h
  refine ⟨?_, ?_, ?_, canonical?_of_canonical? h id, ?_⟩
  · rw [hcs]
    exact sort_perm d (rs.map (·.settled d))
  · rw [hcs]
    exact pairwise_sort d (rs.map (·.settled d))
  · rw [hcs]
    exact sorted_sort_settled d rs
  · intro hd e
    exact canonical?_of_canonical? h fun hopen => absurd hopen hd

/-- Two routes with open metrics to hosts of one network keep their order behind one that comes
before them by its prefix length, although its metric is higher than the default. -/
theorem canonical?_stable_open_metrics :
    let rs : List Route := [⟨.v4, "10.0.0.9", 24, none, -1⟩, ⟨.v4, "10.0.0.1", 24, none, -1⟩,
      ⟨.v4, "10.0.0.0", 8, none, 900⟩]
    let cs : List Route := [⟨.v4, "10.0.0.0", 8, none, 900⟩, ⟨.v4, "10.0.0.9", 24, none, 100⟩,
      ⟨.v4, "10.0.0.1", 24, none, 100⟩]
    canonical? 100 rs = some cs ∧ canonical? 100 cs = some cs ∧ canonical? 7 cs = some cs := by
  intro rs cs
  have h : canonical? 100 rs = some cs := by cbv
  obtain ⟨-, -, -, hsame, hother⟩ := (canonical?_stable 100 rs).2 cs h
  exact ⟨h, hsame, hother (by decide) 7⟩

end ProfileMatch.Route
