import Mathlib.Tactic.Common
import ProfileMatch.Matching.Identifier
import ProfileMatch.Proofs.Matching.Rules
/-!
What the rules leave of a difference.

* `Waiver.Owns`: the keys that each rule may take out;
* `Waiver.get?_outcome`: a rule that passes leaves the entries under other keys as they are, and one
  that fails leaves everything;
* `Waiver.passes_outcome`: on what a passing rule leaves, every rule decides as it did before;
* `get?_outcomeBy`: so rules in turn leave what is owned by no rule before the first that fails,
  where the whole difference decides which rule that is;
* `waive_leaves_unowned`: the same for all rules, with the condition under which they accept.
-/

namespace ProfileMatch

namespace Waiver

/-- **The keys of the rules**: one each for methods, routes, names and hardware addresses, both
names of the controller, the three properties of channels and all hints. -/
def Owns : Waiver → Key → Prop
  | ipMethod f, k => k = .ipMethod f
  | ipRoutes f, k => k = .ipRoutes f
  | interfaceName, k => k = .interfaceName
  | wiredMac, k => k = .wiredMac
  | infinibandMac, k => k = .infinibandMac
  | clonedMac, k => k = .clonedMac
  | controller, k => k = .controller ∨ k = .master
  | channels, k => k = .subchannels ∨ k = .nettype ∨ k = .channelOptions
  | hints, k => k.setting = Key.hints

/-- The scope that a rule clears holds its keys and no other. -/
lemma owns_scope_iff {w : Waiver} {k : Key} : w.scope.owns k = true ↔ w.Owns k := by
  cases w <;> simp [scope, Scope.owns, Owns]

instance (w : Waiver) (k : Key) : Decidable (w.Owns k) :=
  decidable_of_iff _ owns_scope_iff

section Step

variable (ctx : WaiverContext) (generated candidate : Profile)

/-- Whether a rule passes on a difference. -/
def passes (d : Difference) (w : Waiver) : Bool :=
  ((w.apply ctx generated candidate d).run .fresh).1.1

/-- Whether a rule passes does not depend on the cache. -/
lemma passes_eq (d : Difference) (w : Waiver) :
    w.passes ctx generated candidate d = (w.outcome ctx generated candidate d).1 := by
  rw [passes, apply_run_fst]

variable {d : Difference}

/-- A rule passes exactly if none of its keys differs or its condition holds. -/
lemma passes_iff (h : d.Tidy) (w : Waiver) :
    w.passes ctx generated candidate d = true ↔
      ∀ k, w.Owns k → d.contains k = true → w.excused ctx generated candidate = true := by
  rw [passes_eq]
  rcases outcome_cases ctx generated candidate w h with
    ⟨hout, hfree⟩ | ⟨hout, hcond⟩ | ⟨hout, hcond, k, hk, hin⟩
  · simp only [hout, true_iff]
    intro k hk hin
    rw [hfree k (owns_scope_iff.mpr hk)] at hin
    exact absurd hin Bool.false_ne_true
  · simp only [hout, true_iff]
    exact fun _ _ _ => hcond
  · simp only [hout, Bool.false_eq_true, false_iff]
    intro hall
    rw [hall k (owns_scope_iff.mp hk) hin] at hcond
    exact absurd hcond (by simp)

/-- A rule that fails leaves the difference as it was. -/
lemma outcome_of_fails {w : Waiver} (h : w.passes ctx generated candidate d = false) :
    w.outcome ctx generated candidate d = (false, d) := by
  rw [passes_eq] at h
  rw [outcome] at h ⊢
  split_ifs at h ⊢
  rfl

/-- **One rule**: if it passes, exactly the entries under other keys are left, each with its
values. -/
lemma get?_outcome (hd : d.Tidy) {w : Waiver} (h : w.passes ctx generated candidate d = true)
    (k : Key) :
    (w.outcome ctx generated candidate d).2.get? k = if w.Owns k then none else d.get? k := by
  rw [passes_eq] at h
  rcases outcome_cases ctx generated candidate w hd with
    ⟨hout, hfree⟩ | ⟨hout, -⟩ | ⟨hout, -⟩
  · rw [hout]
    split_ifs with hk
    · exact Difference.contains_eq_false_iff.mp (hfree k (owns_scope_iff.mpr hk))
    · rfl
  · rw [hout, Scope.get?_clear]
    simp only [owns_scope_iff]
  · rw [hout] at h
    exact absurd h Bool.false_ne_true

/-- No rule leaves a setting without properties behind. -/
lemma tidy_outcome (hd : d.Tidy) (w : Waiver) : (w.outcome ctx generated candidate d).2.Tidy := by
  rcases outcome_cases ctx generated candidate w hd with ⟨hout, -⟩ | ⟨hout, -⟩ | ⟨hout, -⟩
  · rwa [hout]
  · rw [hout]
    exact w.scope.tidy_clear hd
  · rwa [hout]

/-- **Verdicts stay**: what a passing rule leaves is judged by every rule as the whole was. Other
rules own other keys, and the rule itself passes again. -/
lemma passes_outcome (hd : d.Tidy) {w : Waiver} (h : w.passes ctx generated candidate d = true)
    (w' : Waiver) :
    w'.passes ctx generated candidate (w.outcome ctx generated candidate d).2
      = w'.passes ctx generated candidate d := by
  rw [Bool.eq_iff_iff, passes_iff ctx generated candidate hd,
    passes_iff ctx generated candidate (tidy_outcome ctx generated candidate hd w)]
  refine forall₂_congr fun k hk' => ?_
  have hget := get?_outcome ctx generated candidate hd h k
  by_cases hk : w.Owns k
  · have hsame : w = w' := eq_of_owns (owns_scope_iff.mpr hk) (owns_scope_iff.mpr hk')
    subst hsame
    rw [if_pos hk] at hget
    rw [Difference.contains_eq_false_iff.mpr hget]
    have hcond := (passes_iff ctx generated candidate hd w).mp h k hk
    simpa using hcond
  · rw [if_neg hk] at hget
    rw [Difference.contains, Difference.contains, hget]

end Step

end Waiver

/-! ### Rules in turn -/

section Run

variable (ctx : WaiverContext) (generated candidate : Profile) {d : Difference}

/-- Behind a rule that passes, the others go on with what it leaves. -/
lemma outcomeBy_cons_of_passes {w : Waiver} (h : w.passes ctx generated candidate d = true)
    (ws : List Waiver) :
    outcomeBy ctx generated candidate (w :: ws) d
      = outcomeBy ctx generated candidate ws (w.outcome ctx generated candidate d).2 := by
  rw [Waiver.passes_eq] at h
  rw [outcomeBy]
  cases hout : w.outcome ctx generated candidate d with
  | mk passes d' =>
      rw [hout] at h
      subst h
      rfl

/-- A rule that fails ends the run. -/
lemma outcomeBy_cons_of_fails {w : Waiver} (h : w.passes ctx generated candidate d = false)
    (ws : List Waiver) : outcomeBy ctx generated candidate (w :: ws) d = (false, d) := by
  rw [outcomeBy, Waiver.outcome_of_fails ctx generated candidate h]

/-- Rules in turn leave no setting without properties behind. -/
lemma tidy_outcomeBy (ws : List Waiver) (hd : d.Tidy) :
    (outcomeBy ctx generated candidate ws d).2.Tidy := by
  induction ws generalizing d with
  | nil => exact hd
  | cons w ws ih =>
      cases hpass : w.passes ctx generated candidate d with
      | false =>
          rw [outcomeBy_cons_of_fails ctx generated candidate hpass]
          exact hd
      | true =>
          rw [outcomeBy_cons_of_passes ctx generated candidate hpass]
          exact ih (Waiver.tidy_outcome ctx generated candidate hd w)

/-- **Rules in turn leave** the entries that no rule before the first that fails owns. The whole
difference decides which rule fails first, although each is tried on what is left by those before
it. -/
lemma get?_outcomeBy (ws : List Waiver) (hd : d.Tidy) (k : Key) :
    (outcomeBy ctx generated candidate ws d).2.get? k =
      if ∃ w ∈ ws.takeWhile (Waiver.passes ctx generated candidate d), w.Owns k then none
      else d.get? k := by
  induction ws generalizing d with
  | nil => simp [outcomeBy]
  | cons w ws ih =>
      cases hpass : w.passes ctx generated candidate d with
      | false =>
          rw [outcomeBy_cons_of_fails ctx generated candidate hpass]
          simp [hpass]
      | true =>
          have hverdicts : Waiver.passes ctx generated candidate
              (w.outcome ctx generated candidate d).2 = Waiver.passes ctx generated candidate d :=
            funext (Waiver.passes_outcome ctx generated candidate hd hpass)
          rw [outcomeBy_cons_of_passes ctx generated candidate hpass,
            ih (Waiver.tidy_outcome ctx generated candidate hd w), hverdicts,
            Waiver.get?_outcome ctx generated candidate hd hpass k]
          by_cases hk : w.Owns k <;> simp [hpass, hk]

/-- **Rules in turn accept** a difference exactly if each of them passes on the whole of it and
nothing is left. -/
lemma outcomeBy_fst_iff_passes (ws : List Waiver) (hd : d.Tidy) :
    (outcomeBy ctx generated candidate ws d).1 = true ↔
      (∀ w ∈ ws, w.passes ctx generated candidate d = true)
        ∧ (outcomeBy ctx generated candidate ws d).2.isEmpty = true := by
  induction ws generalizing d with
  | nil => simp [outcomeBy]
  | cons w ws ih =>
      cases hpass : w.passes ctx generated candidate d with
      | false =>
          rw [outcomeBy_cons_of_fails ctx generated candidate hpass]
          simp [hpass]
      | true =>
          have hverdicts := Waiver.passes_outcome ctx generated candidate hd hpass
          rw [outcomeBy_cons_of_passes ctx generated candidate hpass,
            ih (Waiver.tidy_outcome ctx generated candidate hd w)]
          simp only [hverdicts, List.mem_cons, forall_eq_or_imp, hpass, true_and]

/-- What all rules leave, by keys. -/
lemma contains_waive_iff (options : Options) (lookup : Lookup) (hd : d.Tidy) (k : Key) :
    (waive generated candidate options lookup d).2.contains k = true ↔
      d.contains k = true
        ∧ ∀ w ∈ Waiver.all.takeWhile (Waiver.passes ⟨options, lookup⟩ generated candidate d),
          ¬ w.Owns k := by
  rw [Difference.contains, waive_eq_outcomeBy, get?_outcomeBy _ _ _ _ hd, Difference.contains]
  split_ifs with howned
  · simpa using fun _ => howned
  · simpa using fun _ => howned

end Run

/-- **The residue of the rules.** A rule that fails leaves a difference as it was, one that passes
takes out exactly its own keys, whatever routes are sorted already. All rules leave exactly the
entries whose keys no rule owns that stands before the first one to fail on the difference as it was
at the start, each with its values and no setting without properties; and they accept exactly if
none of them fails on it and nothing is left. -/
theorem waive_leaves_unowned {d : Difference} (hd : d.Tidy) (ctx : WaiverContext)
    (generated candidate : Profile) :
    (∀ (w : Waiver) (cache : RouteCache ctx.options generated),
        let after := ((w.apply ctx generated candidate d).run cache).1
        (after.1 = false → after.2 = d)
          ∧ (after.1 = true → after.2.Tidy
            ∧ ∀ k, after.2.get? k = if w.Owns k then none else d.get? k))
      ∧ let result := waive generated candidate ctx.options ctx.lookup d
        let passed := Waiver.all.takeWhile (Waiver.passes ctx generated candidate d)
        (∀ k, result.2.get? k = if ∃ w ∈ passed, w.Owns k then none else d.get? k)
          ∧ result.2.Tidy
          ∧ (result.1 = true ↔ (∀ w ∈ Waiver.all, w.passes ctx generated candidate d = true)
            ∧ result.2.isEmpty = true) := by
  refine ⟨fun w cache => ?_, ?_⟩
  · have hpasses := Waiver.passes_eq ctx generated candidate d w
    intro after
    have hafter : after = w.outcome ctx generated candidate d :=
      Waiver.apply_run_fst ctx generated candidate w d cache
    rw [hafter, ← hpasses]
    constructor
    · intro hfails
      rw [Waiver.outcome_of_fails ctx generated candidate hfails]
    · intro hpass
      exact ⟨Waiver.tidy_outcome ctx generated candidate hd w,
        Waiver.get?_outcome ctx generated candidate hd hpass⟩
  · intro result passed
    have hresult : result = outcomeBy ctx generated candidate Waiver.all d :=
      waive_eq_outcomeBy generated candidate ctx.options ctx.lookup d
    rw [hresult]
    exact ⟨get?_outcomeBy ctx generated candidate Waiver.all hd,
      tidy_outcomeBy ctx generated candidate Waiver.all hd,
      outcomeBy_fst_iff_passes ctx generated candidate Waiver.all hd⟩

/-- A method of the wide family that is excused, one of the narrow family that is not, and a name
that would be: the second rule fails, so that the first alone takes its key out. -/
theorem waive_leaves_unowned_name :
    let generated := ((Profile.empty.set .interfaceName (.text "eth1")).set (.ipMethod .v4)
      (.text "disabled")).set (.ipMethod .v6) (.text "link-local")
    let candidate := Profile.empty.set (.ipMethod .v4) (.text "manual")
    let ctx : WaiverContext := ⟨Options.default, .among isUuid []⟩
    let d := Difference.between generated candidate
    let left := (waive generated candidate ctx.options ctx.lookup d).2
    d.Tidy ∧ d.keys = [.interfaceName, .ipMethod .v4, .ipMethod .v6]
      ∧ Waiver.interfaceName.passes ctx generated candidate d = true
      ∧ left.get? (.ipMethod .v6) = none
      ∧ left.get? (.ipMethod .v4) = some (some (.text "disabled"), some (.text "manual"))
      ∧ left.get? .interfaceName = some (some (.text "eth1"), none) := by
  intro generated candidate ctx d left
  have htidy : d.Tidy := Difference.tidy_between generated candidate
  have hpassed : Waiver.all.takeWhile (Waiver.passes ctx generated candidate d)
      = [.ipMethod .v6] := by decide +kernel
  have hget := (waive_leaves_unowned htidy ctx generated candidate).2.1
  rw [hpassed] at hget
  refine ⟨htidy, by decide +kernel, by decide +kernel, ?_, ?_, ?_⟩
  · exact (hget _).trans (by decide +kernel)
  · exact (hget _).trans (by decide +kernel)
  · exact (hget _).trans (by decide +kernel)

end ProfileMatch
