import Mathlib.Tactic.Common
import ProfileMatch.Matching.Identifier
import ProfileMatch.Proofs.Matching.Rules
import ProfileMatch.Proofs.Route.Equivalence
/-!
What the comparison of routes decides, on two lists and as a rule.

* `Waiver.excusesRoutes_iff`: the condition of the rule is that the routes match, the metrics of
  either side settled by its own default;
* `equivalent_iff_matches_and_ipRoutes_iff`: the same for the rule on a difference, with a cache in
  any state, beside what two lists with one default give.
-/

namespace ProfileMatch

/-- The condition on routes is that they match, with the metric of the options on the generated side
and that of the candidate, if it has one, on its own. -/
lemma Waiver.excusesRoutes_iff {options : Options} {generated candidate : Profile} {f : Family} :
    excusesRoutes options (sortedRoutes options generated f) candidate f = true ↔
      Route.Matches (options.metric f)
        (if candidate.routeMetric f = -1 then options.metric f else candidate.routeMetric f)
        f.width (generated.ipRoutes f) (candidate.ipRoutes f) :=
  Route.covers_canonical?_iff _ _ _ _ _

/-- On a difference that holds the routes of a family, the rule for them passes exactly if its
condition holds. -/
lemma Waiver.outcome_ipRoutes_fst {ctx : WaiverContext} {generated candidate : Profile}
    {f : Family} {d : Difference} (h : d.contains (.ipRoutes f) = true) :
    ((Waiver.ipRoutes f).outcome ctx generated candidate d).1
      = excusesRoutes ctx.options (sortedRoutes ctx.options generated f) candidate f := by
  have htouch : (Waiver.ipRoutes f).scope.touches d = true := by
    rw [Waiver.scope, Scope.touches, List.any_cons, h, Bool.true_or]
  rw [outcome, htouch, excused_ipRoutes]
  cases excusesRoutes ctx.options (sortedRoutes ctx.options generated f) candidate f <;> rfl

/-- **Route equivalence**: two lists are equivalent exactly if all destinations are valid and the
wanted routes can be assigned, one by one, to present ones that agree with them, such that those
left over lead to single hosts. The rule for the routes of a family, on a difference that holds
them, passes exactly if this holds with open metrics of the candidate settled by its own. -/
theorem equivalent_iff_matches_and_ipRoutes_iff :
    (∀ (default : Int) (hostLength : Nat) (present wanted : List Route),
      Route.equivalent default hostLength present wanted = true ↔
        Route.Matches default default hostLength present wanted)
    ∧ ∀ (ctx : WaiverContext) (generated candidate : Profile) (f : Family) (d : Difference)
        (cache : RouteCache ctx.options generated), d.contains (.ipRoutes f) = true →
      ((((Waiver.ipRoutes f).apply ctx generated candidate d).run cache).1.1 = true ↔
        Route.Matches (ctx.options.metric f)
          (if candidate.routeMetric f = -1 then ctx.options.metric f else candidate.routeMetric f)
          f.width (generated.ipRoutes f) (candidate.ipRoutes f)) := by
  constructor
  · intro default hostLength present wanted
    exact Route.covers_canonical?_iff default default hostLength present wanted
  · intro ctx generated candidate f d cache h
    rw [Waiver.apply_run_fst, Waiver.outcome_ipRoutes_fst h]
    exact Waiver.excusesRoutes_iff

/-- A route to a single host is left over, and a network is assigned to the same one written with
host bits, an empty next hop and an open metric, which the candidate settles for its side. A next
hop or a metric that differs is an obstacle, to the rule and to the comparison of lists. -/
theorem ipRoutes_passes_host_route :
    let present : List Route := [⟨.v4, "192.0.2.1", 32, none, 100⟩, ⟨.v4, "10.0.0.0", 8, none, 300⟩]
    let wanted (hop? : Option String) (metric : Int) : List Route :=
      [⟨.v4, "10.0.0.9", 8, hop?, metric⟩]
    let generated := Profile.empty.set (.ipRoutes .v4) (.routes present)
    let candidate (hop? : Option String) (metric : Int) :=
      (Profile.empty.set (.ipRoutes .v4) (.routes (wanted hop? metric))).set (.ipRouteMetric .v4)
        (.int 300)
    let d (hop? : Option String) (metric : Int) := Difference.empty.insert (.ipRoutes .v4)
      (some (.routes present), some (.routes (wanted hop? metric)))
    let passes (hop? : Option String) (metric : Int) : Bool :=
      (((Waiver.ipRoutes .v4).apply ⟨.default, .among isUuid []⟩ generated (candidate hop? metric)
        (d hop? metric)).run .fresh).1.1
    (d (some "") (-1)).contains (.ipRoutes .v4) = true
      ∧ (passes (some "") (-1) = true ∧ passes (some "10.0.0.254") (-1) = false
        ∧ passes none 100 = false)
      ∧ Route.equivalent 300 32 present (wanted (some "") (-1)) = true
      ∧ Route.equivalent 100 32 present (wanted (some "") (-1)) = false
      ∧ Route.equivalent 300 32 present (wanted (some "10.0.0.254") 300) = false := by
  intro present wanted generated candidate d passes
  have hcontains (hop? : Option String) (metric : Int) :
      (d hop? metric).contains (.ipRoutes .v4) = true := rfl
  obtain ⟨hequivalent, hrule⟩ := equivalent_iff_matches_and_ipRoutes_iff
  have hpasses (hop? : Option String) (metric : Int) :=
    hrule ⟨.default, .among isUuid []⟩ generated (candidate hop? metric) .v4 (d hop? metric) .fresh
      (hcontains hop? metric)
  refine ⟨hcontains _ _, ⟨?_, ?_, ?_⟩, ?_, ?_, ?_⟩
  · exact (hpasses (some "") (-1)).mpr (by decide +kernel)
  · exact Bool.eq_false_iff.mpr (mt (hpasses (some "10.0.0.254") (-1)).mp (by decide +kernel))
  · exact Bool.eq_false_iff.mpr (mt (hpasses none 100).mp (by decide +kernel))
  · exact (hequivalent _ _ _ _).mpr (by decide +kernel)
  · exact Bool.eq_false_iff.mpr (mt (hequivalent _ _ _ _).mp (by decide +kernel))
  · exact Bool.eq_false_iff.mpr (mt (hequivalent _ _ _ _).mp (by decide +kernel))

end ProfileMatch
