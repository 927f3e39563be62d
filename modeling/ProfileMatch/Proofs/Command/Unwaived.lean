import Mathlib.Data.List.Nodup
import Mathlib.Data.List.TakeWhile
import Mathlib.Tactic.Common
import ProfileMatch.Command.Report
import ProfileMatch.Matching.Identifier
import ProfileMatch.Proofs.Matching.Residue
/-!
What a report names as unwaived.

* `Waiver.Obstacle`: a property that differs and is not excused, because no rule owns it or because
  the rule that owns it fails on the whole difference;
* `Waiver.untried`: the rules behind the first that fails, which are never tried;
* `mem_unwaived_iff`: a report names all obstacles, and with them what rules that were never tried
  would have excused;
* `exists_unwaived_not_obstacle`: there are reports that do the latter.
-/

namespace ProfileMatch

namespace Waiver

section Verdicts

variable (ctx : WaiverContext) (generated candidate : Profile) (d : Difference)

/-- A property that differs and that the rules do not excuse. -/
def Obstacle (k : Key) : Prop :=
  d.contains k = true ∧ ∀ w ∈ all, w.Owns k → w.passes ctx generated candidate d = false

instance (k : Key) : Decidable (Obstacle ctx generated candidate d k) :=
  inferInstanceAs (Decidable (_ ∧ _))

/-- The rules behind the first that fails. -/
def untried : List Waiver :=
  (all.dropWhile (passes ctx generated candidate d)).tail

lemma nodup_all : all.Nodup := by decide

/-- A rule that passes is tried, or it stands behind the first that fails. -/
lemma mem_takeWhile_or_mem_untried {w : Waiver} (h : w.passes ctx generated candidate d = true) :
    w ∈ all.takeWhile (passes ctx generated candidate d)
      ∨ w ∈ untried ctx generated candidate d := by
  have hmem := w.mem_all
  rw [← List.takeWhile_append_dropWhile (p := passes ctx generated candidate d) (l := all),
    List.mem_append] at hmem
  refine hmem.imp_right fun hrest => ?_
  rw [untried]
  cases hdrop : all.dropWhile (passes ctx generated candidate d) with
  | nil =>
      rw [hdrop] at hrest
      exact absurd hrest List.not_mem_nil
  | cons first rest =>
      have hfirst : first.passes ctx generated candidate d = false := by
        have hhead := List.head?_dropWhile_not (passes ctx generated candidate d) all
        rw [hdrop] at hhead
        simpa using hhead
      rw [hdrop] at hrest
      rcases List.mem_cons.mp hrest with rfl | hrest
      · rw [hfirst] at h
        exact absurd h Bool.false_ne_true
      · exact hrest

/-- No rule is tried before the first that fails and stands behind it as well. -/
lemma notMem_untried {w : Waiver} (h : w ∈ all.takeWhile (passes ctx generated candidate d)) :
    w ∉ untried ctx generated candidate d := by
  have hnodup := nodup_all
  rw [← List.takeWhile_append_dropWhile (p := passes ctx generated candidate d) (l := all)]
    at hnodup
  intro hrest
  exact List.disjoint_of_nodup_append hnodup h (List.mem_of_mem_tail hrest)

/-- **What passes over a key**: no rule that is tried and passes owns it exactly if no rule excuses
it, or one that is never tried would. -/
lemma forall_not_owns_iff (k : Key) :
    (∀ w ∈ all.takeWhile (passes ctx generated candidate d), ¬ w.Owns k) ↔
      (∀ w ∈ all, w.Owns k → w.passes ctx generated candidate d = false)
        ∨ ∃ w ∈ untried ctx generated candidate d,
          w.Owns k ∧ w.passes ctx generated candidate d = true := by
  constructor
  · intro hfree
    refine or_iff_not_imp_right.mpr fun hrest w _ hk => ?_
    cases hpass : w.passes ctx generated candidate d with
    | false => rfl
    | true =>
        rcases mem_takeWhile_or_mem_untried ctx generated candidate d hpass with htried | huntried
        · exact absurd hk (hfree w htried)
        · exact absurd ⟨w, huntried, hk, hpass⟩ hrest
  · rintro (hfails | ⟨w', hrest, hk', -⟩) w htried hk
    · have hpass := List.mem_takeWhile_imp htried
      rw [hfails w w.mem_all hk] at hpass
      exact Bool.false_ne_true hpass
    · have hsame : w = w' := eq_of_owns (owns_scope_iff.mpr hk) (owns_scope_iff.mpr hk')
      subst hsame
      exact notMem_untried ctx generated candidate d htried hrest

end Verdicts

end Waiver

/-- A report names what the rules leave of the difference. -/
lemma unwaived_report (isIdentifier : String → Bool) (d : MatchDocument) (options : Options)
    (c : Profile) :
    (d.report isIdentifier options c).unwaived =
      (waive d.generated c options (d.lookup isIdentifier)
        (Difference.between d.generated c)).2.keys.map Key.text := by
  rw [MatchDocument.report]
  cases hexact : (Difference.between d.generated c).isEmpty with
  | false => rfl
  | true =>
      -- the rules leave of an equal candidate what there is: nothing
      have hdifference := Difference.eq_empty_of_isEmpty hexact
      have hleft : (waive d.generated c options (d.lookup isIdentifier) .empty).2 = .empty := by
        refine Difference.Tidy.ext ?_ Difference.tidy_empty fun k => ?_
        · rw [waive_eq_outcomeBy]
          exact tidy_outcomeBy _ _ _ _ Difference.tidy_empty
        · rw [waive_eq_outcomeBy, get?_outcomeBy _ _ _ _ Difference.tidy_empty]
          exact ite_self _
      simp [hdifference, hleft]

/-- **What reports name as unwaived**: in every report of a document, all obstacles, and besides
them just the properties that a rule would have excused which stands behind the first that fails. -/
theorem mem_unwaived_iff (isIdentifier : String → Bool) (d : MatchDocument) (options : Options) :
    ∀ r ∈ d.reports isIdentifier options, ∃ c ∈ d.candidates,
      r = d.report isIdentifier options c ∧
        let ctx : WaiverContext := ⟨options, d.lookup isIdentifier⟩
        let difference := Difference.between d.generated c
        ∀ s, s ∈ r.unwaived ↔ ∃ k : Key, k.text = s
          ∧ (Waiver.Obstacle ctx d.generated c difference k
            ∨ difference.contains k = true
              ∧ ∃ w ∈ Waiver.untried ctx d.generated c difference,
                w.Owns k ∧ w.passes ctx d.generated c difference = true) := by
  intro r hr
  obtain ⟨c, hc, rfl⟩ := List.mem_map.mp hr
  refine ⟨c, hc, rfl, ?_⟩
  intro ctx difference s
  have htidy : difference.Tidy := Difference.tidy_between d.generated c
  rw [unwaived_report, List.mem_map]
  refine exists_congr fun k => ?_
  rw [Difference.mem_keys_iff, contains_waive_iff d.generated c options _ htidy,
    Waiver.forall_not_owns_iff, Waiver.Obstacle, ← and_or_left, and_comm]

/-- The method of the wide family fails the first rule, so that the name, which the fifth excuses,
is named as unwaived with it. -/
theorem mem_unwaived_of_untried :
    let generated := (Profile.empty.set .interfaceName (.text "eth1")).set (.ipMethod .v6)
      (.text "auto")
    let candidate := Profile.empty.set (.ipMethod .v6) (.text "manual")
    let d : MatchDocument := ⟨generated, [candidate], [], .default⟩
    let r := d.report isUuid d.options candidate
    r ∈ d.reports isUuid d.options
      ∧ "ipv6.method" ∈ r.unwaived ∧ "connection.interface-name" ∈ r.unwaived := by
  intro generated candidate d r
  have hr : r ∈ d.reports isUuid d.options := List.mem_singleton.mpr rfl
  obtain ⟨c, hc, -, hnames⟩ := mem_unwaived_iff isUuid d d.options r hr
  cases List.mem_singleton.mp hc
  refine ⟨hr, (hnames _).mpr ⟨.ipMethod .v6, by decide, .inl (by decide +kernel)⟩,
    (hnames _).mpr ⟨.interfaceName, by decide, .inr ⟨by decide +kernel, .interfaceName, ?_⟩⟩⟩
  exact ⟨by decide +kernel, rfl, by decide +kernel⟩

/-- **Reports name more than obstacles**: in the report of the last document the name is unwaived,
although the rule that owns it passes on the difference. -/
theorem exists_unwaived_not_obstacle :
    let generated := (Profile.empty.set .interfaceName (.text "eth1")).set (.ipMethod .v6)
      (.text "auto")
    let candidate := Profile.empty.set (.ipMethod .v6) (.text "manual")
    let d : MatchDocument := ⟨generated, [candidate], [], .default⟩
    ¬ ∀ c ∈ d.candidates, ∀ s ∈ (d.report isUuid d.options c).unwaived, ∃ k : Key, k.text = s
      ∧ Waiver.Obstacle ⟨d.options, d.lookup isUuid⟩ d.generated c
        (Difference.between d.generated c) k := by
  intro generated candidate d hobstacles
  have hunwaived : "connection.interface-name" ∈ (d.report isUuid d.options candidate).unwaived :=
    by decide +kernel
  obtain ⟨k, htext, hobstacle⟩ := hobstacles candidate List.mem_cons_self _ hunwaived
  -- of the keys that differ, one has another text and the other is excused
  have hkeys : ∀ k ∈ (Difference.between d.generated candidate).keys,
      k.text = "connection.interface-name" →
        ¬ Waiver.Obstacle ⟨d.options, d.lookup isUuid⟩ d.generated candidate
          (Difference.between d.generated candidate) k := by decide +kernel
  exact hkeys k (Difference.mem_keys_iff.mpr hobstacle.1) htext hobstacle

end ProfileMatch
