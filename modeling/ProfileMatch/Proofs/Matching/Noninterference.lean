import Mathlib.Data.List.Forall2
import Mathlib.Tactic.Common
import ProfileMatch.Matching.Identifier
import ProfileMatch.Proofs.Matching.Selection
import ProfileMatch.Proofs.Matching.WellFormed
/-!
What the choice among candidates does not depend on.

* `Key.Relevant`: the properties that matching reads, which are the inferrable ones and four that
  only rules read;
* `Profile.Alike`: profiles with the same values of these. They may differ in names, identifiers,
  all other properties, known or not, and in which settings they hold
  (`Profile.Alike.set`, `Profile.Alike.addSetting`);
* `Waiver.excused_congr`: but for the rule for channels, conditions of rules do not tell alike
  profiles apart; and that rule fails wherever it is asked (`Waiver.excused_eq_of_contains`);
* `isPossibleMatch_congr`: so alike profiles are possible matches of the same;
* `map_snd_bestMatch?_congr`: and among alike candidates the choice falls on the same place.
-/

namespace ProfileMatch

/-! ### Alike profiles -/

/-- The properties that rules read although they are not inferrable. -/
def Key.consulted : List Key :=
  [.ipMayFail .v4, .ipMayFail .v6, .ipRouteMetric .v4, .ipRouteMetric .v6]

/-- The properties that matching reads: those that are compared and those that rules consult. -/
def Key.Relevant (k : Key) : Prop :=
  k.Inferrable ∨ k ∈ Key.consulted

instance : DecidablePred Key.Relevant := fun k =>
  inferInstanceAs (Decidable (k.Inferrable ∨ k ∈ Key.consulted))

namespace Profile

/-- **Alike profiles** hold the same values of all properties that matching reads. -/
def Alike (p q : Profile) : Prop :=
  ∀ k, k.Relevant → p.get? k = q.get? k

namespace Alike

variable {p q : Profile} {k : Key}

lemma refl (p : Profile) : p.Alike p := fun _ _ => rfl

/-- Any other property can be set, be it known or not. -/
lemma set (h : p.Alike q) (hk : ¬ k.Relevant) (v : Value) : p.Alike (q.set k v) := by
  intro k' hk'
  have hne : k' ≠ k := fun heq => hk (heq ▸ hk')
  rw [get?_set, if_neg hne]
  exact h k' hk'

/-- Any setting can be there without properties. -/
lemma addSetting (h : p.Alike q) (setting : String) : p.Alike (q.addSetting setting) := by
  intro k hk
  rw [get?_addSetting]
  exact h k hk

lemma effective?_eq (h : p.Alike q) (hk : k.Inferrable) : p.effective? k = q.effective? k :=
  effective?_eq_of_get?_eq (h k (.inl hk))

lemma text?_eq (h : p.Alike q) (hk : k.Inferrable) : p.text? k = q.text? k := by
  rw [text?, text?, h k (.inl hk)]

lemma portType?_eq (h : p.Alike q) : p.portType? = q.portType? := by
  have hport : p.text? .portType = q.text? .portType := h.text?_eq (by decide)
  have hslave : p.text? .slaveType = q.text? .slaveType := h.text?_eq (by decide)
  rw [portType?, portType?, hport, hslave]

lemma controller?_eq (h : p.Alike q) : p.controller? = q.controller? := by
  have hcontroller : p.text? .controller = q.text? .controller := h.text?_eq (by decide)
  have hmaster : p.text? .master = q.text? .master := h.text?_eq (by decide)
  rw [controller?, controller?, hcontroller, hmaster]

lemma ipMethod_eq (h : p.Alike q) (f : Family) : p.ipMethod f = q.ipMethod f := by
  have hinferrable : (Key.ipMethod f).Inferrable := by cases f <;> decide
  rw [ipMethod, ipMethod, h.text?_eq hinferrable]

lemma ipRoutes_eq (h : p.Alike q) (f : Family) : p.ipRoutes f = q.ipRoutes f := by
  have hinferrable : (Key.ipRoutes f).Inferrable := by cases f <;> decide
  rw [ipRoutes, ipRoutes, h _ (.inl hinferrable)]

lemma routeMetric_eq (h : p.Alike q) (f : Family) : p.routeMetric f = q.routeMetric f := by
  have hconsulted : Key.ipRouteMetric f ∈ Key.consulted := by cases f <;> decide
  rw [routeMetric, routeMetric, h _ (.inr hconsulted)]

lemma mayFail_eq (h : p.Alike q) (f : Family) : Waiver.mayFail p f = Waiver.mayFail q f := by
  have hconsulted : Key.ipMayFail f ∈ Key.consulted := by cases f <;> decide
  rw [Waiver.mayFail, Waiver.mayFail, getD_ipMayFail?, getD_ipMayFail?, h _ (.inr hconsulted)]

end Alike

end Profile

section Alike

variable {generated generated' candidate candidate' : Profile}

/-- Alike profiles differ from alike ones in the same. -/
lemma between_eq_of_alike (hg : generated.Alike generated') (hc : candidate.Alike candidate') :
    Difference.between generated candidate = Difference.between generated' candidate' :=
  Difference.between_congr (fun _ hk => hg.effective?_eq hk) fun _ hk => hc.effective?_eq hk

/-- Alike profiles are of one kind with alike ones. -/
lemma sameKind_congr (hg : generated.Alike generated') (hc : candidate.Alike candidate') :
    Selection.sameKind generated candidate = Selection.sameKind generated' candidate' := by
  have htype : generated.type? = generated'.type? := hg.text?_eq (by decide)
  have htype' : candidate.type? = candidate'.type? := hc.text?_eq (by decide)
  rw [Selection.sameKind, Selection.sameKind, htype, htype', hg.portType?_eq, hc.portType?_eq]

/-! ### Rules -/

namespace Waiver

/-- Alike profiles leave the same texts unset. -/
lemma eitherUnset_congr {k : Key} (hk : k.Inferrable) (hg : generated.Alike generated')
    (hc : candidate.Alike candidate') :
    eitherUnset (generated.text? k) (candidate.text? k)
      = eitherUnset (generated'.text? k) (candidate'.text? k) := by
  rw [hg.text?_eq hk, hc.text?_eq hk]

/-- **Conditions of rules do not tell alike profiles apart**, but for that of the rule for channels,
which asks whether a setting is there. -/
lemma excused_congr (ctx : WaiverContext) {w : Waiver} (hw : w ≠ channels)
    (hg : generated.Alike generated') (hc : candidate.Alike candidate') :
    w.excused ctx generated candidate = w.excused ctx generated' candidate' := by
  cases w with
  | ipMethod f =>
      cases f with
      | v4 =>
          change excusesMethod4 ctx.options generated candidate
            = excusesMethod4 ctx.options generated' candidate'
          rw [excusesMethod4, excusesMethod4, hg.ipMethod_eq, hc.ipMethod_eq, hc.mayFail_eq]
      | v6 =>
          change excusesMethod6 generated candidate = excusesMethod6 generated' candidate'
          simp only [excusesMethod6, hg.ipMethod_eq, hc.ipMethod_eq, hc.mayFail_eq]
  | ipRoutes f =>
      rw [excused_ipRoutes, excused_ipRoutes, sortedRoutes, sortedRoutes, excusesRoutes,
        excusesRoutes, candidateMetric, candidateMetric, hg.ipRoutes_eq, hc.ipRoutes_eq,
        hc.routeMetric_eq]
  | interfaceName => exact eitherUnset_congr (k := .interfaceName) (by decide) hg hc
  | wiredMac => exact eitherUnset_congr (k := .wiredMac) (by decide) hg hc
  | infinibandMac => exact eitherUnset_congr (k := .infinibandMac) (by decide) hg hc
  | clonedMac =>
      have hpresent : generated.clonedMac? = generated'.clonedMac? := hg.text?_eq (by decide)
      have hwanted : candidate.clonedMac? = candidate'.clonedMac? := hc.text?_eq (by decide)
      change excusesClonedMac generated candidate = excusesClonedMac generated' candidate'
      rw [excusesClonedMac, excusesClonedMac, hpresent, hwanted]
  | controller =>
      change excusesController ctx.lookup generated candidate
        = excusesController ctx.lookup generated' candidate'
      rw [excusesController, excusesController, hg.controller?_eq, hc.controller?_eq]
  | channels => exact absurd rfl hw
  | hints => rfl

/-- **Where a key differs, its rule does not tell alike profiles apart**, if the candidates are well
formed: where a key of channels differs, the rule for them fails, whatever settings are there. -/
lemma excused_eq_of_contains (ctx : WaiverContext) {w : Waiver} {k : Key}
    (hcandidate : candidate.WellFormed) (hcandidate' : candidate'.WellFormed)
    (hg : generated.Alike generated') (hc : candidate.Alike candidate')
    (hk : w.scope.owns k = true)
    (hcontains : (Difference.between generated candidate).contains k = true) :
    w.excused ctx generated candidate = w.excused ctx generated' candidate' := by
  by_cases hw : w = channels
  · subst hw
    have hlisted : k ∈ channels.listed :=
      (owns_iff.mp hk).elim id fun h => absurd h.1 (by decide)
    have hfails : excusesChannels generated candidate = false :=
      excusesChannels_eq_false_of_contains hcandidate hlisted hcontains
    rw [between_eq_of_alike hg hc] at hcontains
    have hfails' : excusesChannels generated' candidate' = false :=
      excusesChannels_eq_false_of_contains hcandidate' hlisted hcontains
    exact hfails.trans hfails'.symm
  · exact excused_congr ctx hw hg hc

end Waiver

/-- **Alike profiles are possible matches of alike ones**, if the candidates are well formed. -/
lemma isPossibleMatch_congr (hcandidate : candidate.WellFormed)
    (hcandidate' : candidate'.WellFormed) (hg : generated.Alike generated')
    (hc : candidate.Alike candidate') (options : Options) (lookup : Lookup) :
    isPossibleMatch generated candidate options lookup
      = isPossibleMatch generated' candidate' options lookup := by
  rw [Bool.eq_iff_iff, isPossibleMatch_iff_forall_owner, isPossibleMatch_iff_forall_owner,
    ← between_eq_of_alike hg hc]
  refine forall₂_congr fun k hk => exists_congr fun w => ?_
  refine and_congr_right fun _ => and_congr_right fun howns => ?_
  rw [Waiver.excused_eq_of_contains ⟨options, lookup⟩ hcandidate hcandidate' hg hc howns hk]

end Alike

/-! ### The choice -/

/-- The place of the first item for which a condition holds. -/
lemma map_snd_find?_zipIdx {α : Type} (xs : List α) (cond : α → Bool) :
    (xs.zipIdx.find? fun x => cond x.1).map Prod.snd = xs.findIdx? cond :=
  List.findIdx?_eq_fst_find?_zipIdx.symm

/-- Searches in two lists stop at the same place, if at each place both conditions hold or none. -/
lemma findIdx?_congr {α : Type} {R : α → α → Prop} {xs ys : List α} (h : List.Forall₂ R xs ys)
    {cond cond' : α → Bool} (hcond : ∀ x ∈ xs, ∀ y ∈ ys, R x y → cond x = cond' y) :
    xs.findIdx? cond = ys.findIdx? cond' := by
  induction h with
  | nil => rfl
  | @cons x y xs ys hxy _ ih =>
      have hhead : cond x = cond' y := hcond x List.mem_cons_self y List.mem_cons_self hxy
      have htail : xs.findIdx? cond = ys.findIdx? cond' := ih fun x' hx' y' hy' =>
        hcond x' (List.mem_cons_of_mem x hx') y' (List.mem_cons_of_mem y hy')
      rw [List.findIdx?_cons, List.findIdx?_cons, hhead, htail]

/-- The place of the choice, where all candidates are let pass. -/
lemma map_snd_bestMatch? (candidates : List Profile) (generated : Profile) (options : Options)
    (lookup : Lookup) :
    (bestMatch? candidates generated options lookup fun _ => true).map Prod.snd =
      if options.indicated then candidates.findIdx? (Selection.sameKind generated)
      else
        (candidates.findIdx? fun c => (Difference.between generated c).isEmpty).or
          (candidates.findIdx? fun c => isPossibleMatch generated c options lookup) := by
  have hkept : keptCandidates candidates (fun _ => true) = candidates.zipIdx :=
    List.filter_eq_self.mpr fun _ _ => rfl
  cases hmode : options.indicated with
  | true => rw [bestMatch?_of_indicated hmode, hkept, if_pos rfl, map_snd_find?_zipIdx]
  | false =>
      rw [bestMatch?_of_not_indicated hmode, hkept, if_neg Bool.false_ne_true, Option.map_or]
      have hequal := map_snd_find?_zipIdx candidates fun c =>
        (Difference.between generated c).isEmpty
      have hpossible := map_snd_find?_zipIdx candidates fun c =>
        isPossibleMatch generated c options lookup
      rw [← hequal, ← hpossible]

/-- **Irrelevant properties never influence the choice.** Of two lists of candidates that were read
and are alike one by one, the choices for alike profiles fall on the same place, or on none: names,
identifiers, properties that are not compared, settings and properties that are not known and
settings without properties have no part in it. -/
theorem map_snd_bestMatch?_congr {generated generated' : Profile}
    {candidates candidates' : List Profile}
    (hread : ∀ c ∈ candidates, ∃ v, Profile.ofJson v = .ok c)
    (hread' : ∀ c ∈ candidates', ∃ v, Profile.ofJson v = .ok c)
    (hg : generated.Alike generated') (hc : List.Forall₂ Profile.Alike candidates candidates')
    (options : Options) (lookup : Lookup) :
    (bestMatch? candidates generated options lookup fun _ => true).map Prod.snd
        = (bestMatch? candidates' generated' options lookup fun _ => true).map Prod.snd
      ∧ (∀ c, (bestMatch? candidates generated options lookup fun _ => true) = some c →
        candidates[c.2]? = some c.1)
      ∧ ∀ c, (bestMatch? candidates' generated' options lookup fun _ => true) = some c →
        candidates'[c.2]? = some c.1 := by
  refine ⟨?_, fun c => getElem?_of_bestMatch?, fun c => getElem?_of_bestMatch?⟩
  have hkind : candidates.findIdx? (Selection.sameKind generated)
      = candidates'.findIdx? (Selection.sameKind generated') :=
    findIdx?_congr hc fun c _ c' _ halike => sameKind_congr hg halike
  have hequal : (candidates.findIdx? fun c => (Difference.between generated c).isEmpty)
      = candidates'.findIdx? fun c => (Difference.between generated' c).isEmpty :=
    findIdx?_congr hc fun c _ c' _ halike => by rw [between_eq_of_alike hg halike]
  have hpossible : (candidates.findIdx? fun c => isPossibleMatch generated c options lookup)
      = candidates'.findIdx? fun c => isPossibleMatch generated' c options lookup := by
    refine findIdx?_congr hc fun c hmem c' hmem' halike => ?_
    obtain ⟨v, hv⟩ := hread c hmem
    obtain ⟨v', hv'⟩ := hread' c' hmem'
    exact isPossibleMatch_congr (Profile.wellFormed_of_ofJson hv)
      (Profile.wellFormed_of_ofJson hv') hg halike options lookup
  rw [map_snd_bestMatch?, map_snd_bestMatch?, hkind, hequal, hpossible]

/-- The second of two stored profiles is chosen; and again when the generated profile has a name and
a wired setting, and the stored ones a zone, an unknown setting and settings without properties. -/
theorem map_snd_bestMatch?_decorated :
    let generated := (Profile.empty.set .connectionType (.text "ethernet")).set (.ipMethod .v6)
      (.text "link-local")
    let generated' := (generated.set .connectionId (.text "Wired")).addSetting Key.wired
    let manual := generated.set (.ipMethod .v6) (.text "manual")
    let stored := Profile.empty.set .connectionType (.text "ethernet")
    let manual' := manual.set ⟨"connection", "zone"⟩ (.text "home")
    let stored' := ((stored.set ⟨"user", "data"⟩ (.int 1)).addSetting "ipv6").addSetting Key.wired
    (∀ c ∈ [manual, stored], ∃ v, Profile.ofJson v = .ok c)
      ∧ (∀ c ∈ [manual', stored'], ∃ v, Profile.ofJson v = .ok c)
      ∧ generated.Alike generated'
      ∧ List.Forall₂ Profile.Alike [manual, stored] [manual', stored']
      ∧ bestMatch? [manual, stored] generated .default (.among isUuid []) (fun _ => true)
        = some (stored, 1)
      ∧ (bestMatch? [manual', stored'] generated' .default (.among isUuid []) fun _ => true).map
          Prod.snd = some 1 := by
  intro generated generated' manual stored manual' stored'
  have hread : ∀ c ∈ [manual, stored, manual', stored'],
      (Profile.ofJson c.toJson).toOption = some c := by decide +kernel
  have hcandidates : ∀ c ∈ [manual, stored], ∃ v, Profile.ofJson v = .ok c := fun c hc =>
    ⟨c.toJson, eq_ok_of_toOption (hread c (List.mem_append_left [manual', stored'] hc))⟩
  have hcandidates' : ∀ c ∈ [manual', stored'], ∃ v, Profile.ofJson v = .ok c := fun c hc =>
    ⟨c.toJson, eq_ok_of_toOption (hread c (List.mem_append_right [manual, stored] hc))⟩
  have hgenerated : generated.Alike generated' :=
    ((Profile.Alike.refl generated).set (by decide) _).addSetting _
  have hmanual : manual.Alike manual' := (Profile.Alike.refl manual).set (by decide) _
  have hstored : stored.Alike stored' :=
    (((Profile.Alike.refl stored).set (by decide) _).addSetting _).addSetting _
  have halike : List.Forall₂ Profile.Alike [manual, stored] [manual', stored'] :=
    .cons hmanual (.cons hstored .nil)
  have hbest : bestMatch? [manual, stored] generated .default (.among isUuid []) (fun _ => true)
      = some (stored, 1) := by decide +kernel
  have hplace := (map_snd_bestMatch?_congr hcandidates hcandidates' hgenerated halike .default
    (.among isUuid [])).1
  refine ⟨hcandidates, hcandidates', hgenerated, halike, hbest, ?_⟩
  rw [← hplace, hbest]
  rfl

end ProfileMatch
