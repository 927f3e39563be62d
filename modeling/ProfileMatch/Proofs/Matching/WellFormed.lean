import Mathlib.Tactic.Common
import ProfileMatch.Matching.Identifier
import ProfileMatch.Proofs.Difference.Comparison
import ProfileMatch.Proofs.Matching.RouteWaiver
import ProfileMatch.Proofs.Profile.WellFormed
/-!
Rules on well-formed profiles, such as all are that were read.

* `Waiver.outcome_ipRoutes_fst_eq`: the rule for the routes of a family passes if they do not
  differ, and else by the comparison of routes;
* `wellFormed_and_comparable_of_ofJson`: which on profiles that were read always takes place: no
  candidate is rejected because its routes, or those of the generated profile, cannot be compared;
* `Profile.effective?_eq_of_excusesChannels`, `Waiver.excusesChannels_eq_false_of_contains`: the
  rule for channels excuses what does not differ, so that where channels differ it fails.
-/

namespace ProfileMatch

/-! ### Routes -/

/-- The rule for the routes of a family passes if they do not differ, and else if its condition
holds. -/
lemma Waiver.outcome_ipRoutes_fst_eq (ctx : WaiverContext) (generated candidate : Profile)
    (f : Family) (d : Difference) :
    ((Waiver.ipRoutes f).outcome ctx generated candidate d).1
      = (!d.contains (.ipRoutes f)
        || excusesRoutes ctx.options (sortedRoutes ctx.options generated f) candidate f) := by
  cases hcontains : d.contains (.ipRoutes f) with
  | true => rw [outcome_ipRoutes_fst hcontains, Bool.not_true, Bool.false_or]
  | false =>
      have htouch : (Waiver.ipRoutes f).scope.touches d = false := by
        rw [scope, Scope.touches, List.any_cons, hcontains, List.any_nil, Bool.or_false]
      rw [outcome, htouch]
      rfl

/-- **Profiles that were read are well formed**: values of the schema are of their kind, no text is
empty, and the routes of either family are well formed in it. So routes can always be compared, with
any metric for the open ones: on two profiles that were read the rule for routes passes if they do
not differ, and else exactly if the pass over the two sorted lists, which are there, says so. -/
theorem wellFormed_and_comparable_of_ofJson {v : Json} {p : Profile}
    (h : Profile.ofJson v = .ok p) :
    p.WellFormed
      ∧ (∀ (f : Family) (default : Int), ∃ rs, Route.canonical? default (p.ipRoutes f) = some rs)
      ∧ ∀ (v' : Json) (candidate : Profile), Profile.ofJson v' = .ok candidate →
        ∀ (ctx : WaiverContext) (f : Family), ∃ present wanted,
          sortedRoutes ctx.options p f = some present
          ∧ Route.canonical? (Waiver.candidateMetric ctx.options candidate f)
              (candidate.ipRoutes f) = some wanted
          ∧ ∀ (d : Difference) (cache : RouteCache ctx.options p),
              (((Waiver.ipRoutes f).apply ctx p candidate d).run cache).1.1
                = (!d.contains (.ipRoutes f) || Route.coversSorted f.width present wanted) := by
  have hp := Profile.wellFormed_of_ofJson h
  refine ⟨hp, hp.exists_canonical?, fun v' candidate h' ctx f => ?_⟩
  have hcandidate := Profile.wellFormed_of_ofJson h'
  obtain ⟨present, hpresent⟩ := hp.exists_canonical? f (ctx.options.metric f)
  obtain ⟨wanted, hwanted⟩ :=
    hcandidate.exists_canonical? f (Waiver.candidateMetric ctx.options candidate f)
  refine ⟨present, wanted, hpresent, hwanted, fun d cache => ?_⟩
  rw [Waiver.apply_run_fst, Waiver.outcome_ipRoutes_fst_eq, Waiver.excusesRoutes, hwanted,
    sortedRoutes, hpresent]
  rfl

/-- Profiles with a truth value, a number and a list written as text, a text that is empty, and
routes on lines and as objects, in other spellings and with open metrics. -/
theorem wellFormed_and_comparable_mixed :
    let v : Json := .object
      [("ipv4", .object
        [("method", .string ""), ("may-fail", .string "no"), ("dns", .string "10.0.0.1, ,::1")]),
       ("ipv6", .object
        [("routes", .array
          [.string "2001:DB8:0::1/32 fe80::1 300",
           .object [("dest", .string "FE80::"), ("prefix", .int 10)]])])]
    let v' : Json := .object
      [("ipv6", .object
        [("route-metric", .string "1024"),
         ("routes", .array [.string "fe80::/10", .string "2001:db8::/32 300 fe80::1"])])]
    ∃ p candidate, Profile.ofJson v = .ok p ∧ Profile.ofJson v' = .ok candidate
      ∧ p.ipRoutes .v6
        = [⟨.v6, "2001:db8::1", 32, some "fe80::1", 300⟩, ⟨.v6, "fe80::", 10, none, -1⟩]
      ∧ p.ipMayFail? .v4 = some false ∧ p.text? (.ipMethod .v4) = none
      ∧ p.WellFormed
      ∧ ∃ present wanted, sortedRoutes ⟨false, true, 0, 256⟩ p .v6 = some present
        ∧ Route.canonical? 1024 (candidate.ipRoutes .v6) = some wanted := by
  intro v v'
  obtain ⟨p, hp, hvalues⟩ := exists_eq_ok_of_map_toOption (x := Profile.ofJson v)
    (f := fun p => (p.ipRoutes .v6, p.ipMayFail? .v4, p.text? (.ipMethod .v4)))
    (b := ([⟨.v6, "2001:db8::1", 32, some "fe80::1", 300⟩, ⟨.v6, "fe80::", 10, none, -1⟩],
      some false, none)) (by decide +kernel)
  obtain ⟨candidate, hcandidate, hmetric⟩ := exists_eq_ok_of_map_toOption
    (x := Profile.ofJson v') (f := fun p => p.routeMetric .v6) (b := 1024) (by decide +kernel)
  obtain ⟨hroutes, hfields⟩ := Prod.mk.inj hvalues
  obtain ⟨hmayFail, hmethod⟩ := Prod.mk.inj hfields
  obtain ⟨hwellFormed, -, hcomparable⟩ := wellFormed_and_comparable_of_ofJson hp
  obtain ⟨present, wanted, hpresent, hwanted, -⟩ :=
    hcomparable v' candidate hcandidate ⟨⟨false, true, 0, 256⟩, .among isUuid []⟩ .v6
  rw [Waiver.candidateMetric, hmetric] at hwanted
  exact ⟨p, candidate, hp, hcandidate, hroutes, hmayFail, hmethod, hwellFormed, present, wanted,
    hpresent, hwanted⟩

/-! ### Channels -/

section Channels

variable {generated candidate : Profile} {k : Key}

/-- Where the rule for channels would pass, the candidate has the defaults, just as a generated
profile without the setting. -/
lemma Profile.effective?_eq_of_excusesChannels (hc : candidate.WellFormed)
    (h : Waiver.excusesChannels generated candidate = true)
    (hk : k ∈ Waiver.channels.listed) : generated.effective? k = candidate.effective? k := by
  simp only [Waiver.excusesChannels, Bool.and_eq_true, Bool.not_eq_true', List.isEmpty_iff,
    Option.isNone_iff_eq_none, beq_iff_eq] at h
  obtain ⟨⟨⟨⟨habsent, -⟩, hsubchannels⟩, hnettype⟩, hcount⟩ := h
  have hsetting : generated.settings.get? Key.wired = none := by
    rwa [hasSetting, Table.contains, Option.isSome_eq_false_iff, Option.isNone_iff_eq_none]
      at habsent
  have hnone : ∀ k : Key, k.setting = Key.wired → generated.get? k = none := by
    intro k hk
    exact get?_of_settings_eq_none (hk ▸ hsetting)
  simp only [Waiver.listed, Waiver.scope, List.mem_cons, List.not_mem_nil, or_false] at hk
  rcases hk with rfl | rfl | rfl
  · have hget := hc.get?_of_list (k := .subchannels) (by decide)
    rw [effective?, effective?, hnone _ rfl, hget]
    rw [subchannels] at hsubchannels
    cases hlist : (candidate.get? .subchannels).bind Value.list? with
    | none => rfl
    | some items =>
        rw [hlist, Option.getD_some] at hsubchannels
        rw [hsubchannels]
        rfl
  · have hget := hc.get?_of_text (k := .nettype) (by decide)
    rw [effective?, effective?, hnone _ rfl, hget, ← nettype?, hnettype]
    rfl
  · have hget := hc.get?_of_map (k := .channelOptions) (by decide)
    rw [effective?, effective?, hnone _ rfl, hget]
    rw [channelOptionCount] at hcount
    cases hmap : (candidate.get? .channelOptions).bind Value.map? with
    | none => rfl
    | some entries =>
        rw [hmap, Option.elim_some, Table.size, List.length_eq_zero_iff] at hcount
        obtain ⟨es, hsorted⟩ := entries
        cases hcount
        rfl

/-- **The rule for channels can only fail**: where a key of channels differs from a well-formed
candidate, its condition does not hold. -/
lemma Waiver.excusesChannels_eq_false_of_contains (hc : candidate.WellFormed)
    (hk : k ∈ Waiver.channels.listed)
    (hcontains : (Difference.between generated candidate).contains k = true) :
    excusesChannels generated candidate = false := by
  by_contra hexcuses
  rw [Bool.not_eq_false] at hexcuses
  have heffective := Profile.effective?_eq_of_excusesChannels hc hexcuses hk
  have hport : ∀ k ∈ Waiver.channels.listed, k ≠ .portType := by decide
  have hfolded : generated.folded? k = candidate.folded? k := by
    rw [Profile.folded?, Profile.folded?, if_neg (hport k hk), if_neg (hport k hk), heffective]
  exact (Difference.contains_between_iff.mp hcontains).2 hfolded

end Channels

end ProfileMatch
