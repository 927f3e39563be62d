import Mathlib.Tactic.Common
import ProfileMatch.Matching.Waiver
import ProfileMatch.Proofs.Difference.Entries
/-!
The rules, one at a time and in turn.

* `RouteCache.routes_run_fst`: a cache answers what a fresh one would, so that what rules decide
  does not depend on it: `Waiver.excused`, `Waiver.outcome` and `outcomeBy` are conditions, single
  rules and rules in turn without a cache (`waiveBy_run_fst`);
* `Scope.get?_clear`, `Scope.touches_iff`: a rule sees and clears the keys of its scope and no
  other;
* `Waiver.eq_of_owns`: no key is in the scope of two rules;
* `outcomeBy_fst_iff`: hence rules in turn pass and leave nothing exactly if every key that differs
  is in the scope of a rule whose condition holds, in whatever order the rules are tried;
* `isPossibleMatch_iff_forall_owner`: and so is a candidate a possible match, equal ones included.
-/

namespace ProfileMatch

/-! ### The cache -/

namespace RouteCache

variable {options : Options} {generated : Profile}

/-- **The cache is transparent**: it answers with the routes that sorting anew would give, whatever
was asked for before. -/
lemma routes_run_fst (f : Family) (cache : RouteCache options generated) :
    ((routes f).run cache).1 = sortedRoutes options generated f := by
  rw [routes, StateT.run_bind, StateT.run_get, pure_bind]
  cases cache.cell f with
  | none => rfl
  | some rs => exact rs.property

end RouteCache

section Rules

variable (ctx : WaiverContext) (generated candidate : Profile)

namespace Waiver

/-- The condition of a rule, without a cache. -/
def excused (w : Waiver) : Bool :=
  ((w.excuses ctx generated candidate).run .fresh).1

/-- The outcome of a rule, without a cache. -/
def outcome (w : Waiver) (d : Difference) : Bool × Difference :=
  if !w.scope.touches d then (true, d)
  else if w.excused ctx generated candidate then (true, w.scope.clear d)
  else (false, d)

lemma excuses_run_fst (w : Waiver) (cache : RouteCache ctx.options generated) :
    ((w.excuses ctx generated candidate).run cache).1 = w.excused ctx generated candidate := by
  cases w with
  | ipRoutes f =>
      change excusesRoutes ctx.options ((RouteCache.routes f).run cache).1 candidate f
        = excusesRoutes ctx.options ((RouteCache.routes f).run .fresh).1 candidate f
      rw [RouteCache.routes_run_fst, RouteCache.routes_run_fst]
  | ipMethod f => cases f <;> rfl
  | interfaceName => rfl
  | wiredMac => rfl
  | infinibandMac => rfl
  | clonedMac => rfl
  | controller => rfl
  | channels => rfl
  | hints => rfl

/-- The condition on routes compares with the routes sorted anew. -/
lemma excused_ipRoutes (f : Family) :
    (ipRoutes f).excused ctx generated candidate
      = excusesRoutes ctx.options (sortedRoutes ctx.options generated f) candidate f := by
  change excusesRoutes ctx.options ((RouteCache.routes f).run .fresh).1 candidate f = _
  rw [RouteCache.routes_run_fst]

lemma apply_run_fst (w : Waiver) (d : Difference) (cache : RouteCache ctx.options generated) :
    ((w.apply ctx generated candidate d).run cache).1 = w.outcome ctx generated candidate d := by
  rw [apply, outcome]
  cases w.scope.touches d with
  | false => rfl
  | true =>
      have hcond := excuses_run_fst ctx generated candidate w cache
      simp only [Bool.not_true, Bool.false_eq_true, if_false]
      rw [← hcond, StateT.run_bind]
      cases hrun : (w.excuses ctx generated candidate).run cache with
      | mk excused cache' => cases excused <;> rfl

end Waiver

/-- The outcome of rules in turn, without a cache. -/
def outcomeBy : List Waiver → Difference → Bool × Difference
  | [], d => (d.isEmpty, d)
  | w :: ws, d =>
    match w.outcome ctx generated candidate d with
    | (true, d') => outcomeBy ws d'
    | (false, d') => (false, d')

/-- **Rules in turn do not depend on the cache**, which each of them may fill for those behind
it. -/
lemma waiveBy_run_fst (ws : List Waiver) (d : Difference)
    (cache : RouteCache ctx.options generated) :
    ((waiveBy ctx generated candidate ws d).run cache).1
      = outcomeBy ctx generated candidate ws d := by
  induction ws generalizing d cache with
  | nil => rfl
  | cons w ws ih =>
      have happly := Waiver.apply_run_fst ctx generated candidate w d cache
      rw [waiveBy, outcomeBy, ← happly, StateT.run_bind]
      cases hrun : (w.apply ctx generated candidate d).run cache with
      | mk result cache' =>
          obtain ⟨passes, d'⟩ := result
          cases passes with
          | false => rfl
          | true => exact ih d' cache'

/-- All rules, from a fresh cache. -/
lemma waive_eq_outcomeBy (options : Options) (lookup : Lookup) (d : Difference) :
    waive generated candidate options lookup d
      = outcomeBy ⟨options, lookup⟩ generated candidate Waiver.all d :=
  waiveBy_run_fst ⟨options, lookup⟩ generated candidate Waiver.all d .fresh

end Rules

/-! ### Scopes -/

namespace Scope

variable {d : Difference}

/-- Clearing a scope takes out its keys and no other. -/
lemma get?_clear (s : Scope) (d : Difference) (k : Key) :
    (s.clear d).get? k = if s.owns k then none else d.get? k := by
  cases s with
  | setting name =>
      rw [clear, Difference.get?_removeSetting, owns]
      simp only [beq_iff_eq]
  | keys ks =>
      rw [clear, owns]
      induction ks generalizing d with
      | nil => rfl
      | cons k' ks ih =>
          rw [List.foldl_cons, ih, Difference.get?_erase, List.contains_cons]
          by_cases hk : k = k'
          · simp [hk]
          · simp [hk]

lemma contains_clear (s : Scope) (d : Difference) (k : Key) :
    (s.clear d).contains k = (!s.owns k && d.contains k) := by
  rw [Difference.contains, Difference.contains, get?_clear]
  cases s.owns k <;> simp

lemma tidy_clear (s : Scope) (h : d.Tidy) : (s.clear d).Tidy := by
  cases s with
  | setting name => exact h.removeSetting name
  | keys ks =>
      rw [clear]
      induction ks generalizing d with
      | nil => exact h
      | cons k ks ih => exact ih (h.erase k)

/-- A scope is touched exactly if one of its keys differs. -/
lemma touches_iff (s : Scope) (h : d.Tidy) :
    s.touches d = true ↔ ∃ k, s.owns k = true ∧ d.contains k = true := by
  cases s with
  | keys ks => simp [touches, owns]
  | setting name =>
      rw [touches, h.containsSetting_iff]
      constructor
      · rintro ⟨property, hcontains⟩
        exact ⟨⟨name, property⟩, by simp [owns], hcontains⟩
      · rintro ⟨k, howns, hcontains⟩
        rw [owns, beq_iff_eq] at howns
        exact ⟨k.property, by rw [← howns]; exact hcontains⟩

end Scope

namespace Waiver

/-- Every rule is tried. -/
lemma mem_all (w : Waiver) : w ∈ all := by
  cases w with
  | ipMethod f => cases f <;> decide
  | ipRoutes f => cases f <;> decide
  | interfaceName => decide
  | wiredMac => decide
  | infinibandMac => decide
  | clonedMac => decide
  | controller => decide
  | channels => decide
  | hints => decide

/-- The keys that a rule names one by one. -/
def listed (w : Waiver) : List Key :=
  match w.scope with
  | .keys ks => ks
  | .setting _ => []

/-- A key is in the scope of a rule if the rule names it, or if it is one of the hints. -/
lemma owns_iff {w : Waiver} {k : Key} :
    w.scope.owns k = true ↔ k ∈ w.listed ∨ w = hints ∧ k.setting = Key.hints := by
  cases w <;> simp [scope, listed, Scope.owns]

/-- **Scopes are disjoint**: no key is in the scope of two rules. -/
lemma eq_of_owns {w w' : Waiver} {k : Key} (h : w.scope.owns k = true)
    (h' : w'.scope.owns k = true) : w = w' := by
  have hlisted : ∀ w ∈ all, ∀ k ∈ w.listed, k.setting ≠ Key.hints
      ∧ ∀ w' ∈ all, k ∈ w'.listed → w = w' := by decide
  rcases owns_iff.mp h with hk | ⟨hw, hk⟩
  · have hkey := hlisted w (mem_all w) k hk
    rcases owns_iff.mp h' with hk' | ⟨-, hk'⟩
    · exact hkey.2 w' (mem_all w') hk'
    · exact absurd hk' hkey.1
  · rcases owns_iff.mp h' with hk' | ⟨hw', -⟩
    · exact absurd hk (hlisted w' (mem_all w') k hk').1
    · exact hw.trans hw'.symm

end Waiver

/-! ### Rules in turn -/

section Run

variable {ctx : WaiverContext} {generated candidate : Profile} {d : Difference}

namespace Waiver

/-- What a rule does to a tidy difference: nothing if none of its keys differs, and it clears its
scope or fails as its condition says if some does. -/
lemma outcome_cases (ctx : WaiverContext) (generated candidate : Profile) (w : Waiver)
    (h : d.Tidy) :
    (w.outcome ctx generated candidate d = (true, d)
        ∧ ∀ k, w.scope.owns k = true → d.contains k = false)
      ∨ (w.outcome ctx generated candidate d = (true, w.scope.clear d)
        ∧ w.excused ctx generated candidate = true)
      ∨ (w.outcome ctx generated candidate d = (false, d)
        ∧ w.excused ctx generated candidate = false
        ∧ ∃ k, w.scope.owns k = true ∧ d.contains k = true) := by
  rw [outcome]
  cases htouch : w.scope.touches d with
  | false =>
      refine .inl ⟨rfl, fun k hk => ?_⟩
      cases hcontains : d.contains k with
      | false => rfl
      | true =>
          rw [(w.scope.touches_iff h).mpr ⟨k, hk, hcontains⟩] at htouch
          exact absurd htouch (by simp)
  | true =>
      cases hcond : w.excused ctx generated candidate with
      | true => exact .inr (.inl ⟨rfl, rfl⟩)
      | false => exact .inr (.inr ⟨rfl, rfl, (w.scope.touches_iff h).mp htouch⟩)

end Waiver

/-- **Acceptance by rules in turn**: they pass and leave nothing of a tidy difference exactly if
every key that differs is in the scope of one of them whose condition holds. The order in which they
are tried does not show. -/
lemma outcomeBy_fst_iff (ws : List Waiver) (h : d.Tidy) :
    (outcomeBy ctx generated candidate ws d).1 = true ↔
      ∀ k, d.contains k = true →
        ∃ w ∈ ws, w.scope.owns k = true ∧ w.excused ctx generated candidate = true := by
  induction ws generalizing d with
  | nil =>
      rw [outcomeBy, h.isEmpty_iff]
      simp
  | cons w ws ih =>
      rw [outcomeBy]
      rcases Waiver.outcome_cases ctx generated candidate w h with
        ⟨hout, hfree⟩ | ⟨hout, hcond⟩ | ⟨hout, hcond, k, hk, hin⟩
      · -- untouched: the rule owns no key that differs
        rw [hout]
        refine (ih h).trans (forall₂_congr fun k hin => ?_)
        constructor
        · rintro ⟨w', hw', howns⟩
          exact ⟨w', List.mem_cons_of_mem w hw', howns⟩
        · rintro ⟨w', hw', hk, hcond⟩
          rcases List.mem_cons.mp hw' with rfl | hw'
          · rw [hfree k hk] at hin
            exact absurd hin (by simp)
          · exact ⟨w', hw', hk, hcond⟩
      · -- cleared: the keys of the scope are excused, the others are as before
        rw [hout]
        refine (ih (w.scope.tidy_clear h)).trans (forall_congr' fun k => ?_)
        rw [Scope.contains_clear]
        constructor
        · intro hrest hin
          cases hk : w.scope.owns k with
          | true => exact ⟨w, List.mem_cons_self, hk, hcond⟩
          | false =>
              obtain ⟨w', hw', hw'k⟩ := hrest (by rw [hk, hin]; rfl)
              exact ⟨w', List.mem_cons_of_mem w hw', hw'k⟩
        · intro hall hin
          simp only [Bool.and_eq_true, Bool.not_eq_true'] at hin
          obtain ⟨w', hw', hk', hcond'⟩ := hall hin.2
          rcases List.mem_cons.mp hw' with rfl | hw'
          · rw [hin.1] at hk'
            exact absurd hk' (by simp)
          · exact ⟨w', hw', hk', hcond'⟩
      · -- failed: the key that differs is in no other scope
        rw [hout]
        refine ⟨by simp, fun hall => ?_⟩
        obtain ⟨w', -, hk', hcond'⟩ := hall k hin
        rw [Waiver.eq_of_owns hk' hk, hcond] at hcond'
        exact absurd hcond' (by simp)

/-- **Possible matches**: a candidate is one exactly if every key that differs is in the scope of a
rule whose condition holds. -/
lemma isPossibleMatch_iff_forall_owner {options : Options} {lookup : Lookup} :
    isPossibleMatch generated candidate options lookup = true ↔
      ∀ k, (Difference.between generated candidate).contains k = true →
        ∃ w ∈ Waiver.all, w.scope.owns k = true
          ∧ w.excused ⟨options, lookup⟩ generated candidate = true := by
  have htidy := Difference.tidy_between generated candidate
  rw [isPossibleMatch, Bool.or_eq_true, waive_eq_outcomeBy, outcomeBy_fst_iff Waiver.all htidy,
    htidy.isEmpty_iff]
  constructor
  · rintro (hnone | hall) k hk
    · exact absurd ((hnone k).symm.trans hk) Bool.false_ne_true
    · exact hall k hk
  · exact .inr

end Run

end ProfileMatch
