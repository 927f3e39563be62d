import Mathlib.Tactic.Common
import ProfileMatch.Matching.Identifier
import ProfileMatch.Proofs.Matching.Rules
/-!
The order in which the rules are tried does not matter.

* `outcomeBy_fst_congr`: which rules there are decides whether they accept a difference, not the
  order in which they stand, although the first that fails ends the run: as scopes are disjoint, no
  other rule can take out the key that it fails on;
* `isEmpty_outcomeBy_snd`: rules that accept leave nothing;
* `waiveBy_eq_waive_of_perm`: so any order of the rules gives the verdict of theirs.
-/

namespace ProfileMatch

variable {ctx : WaiverContext} {generated candidate : Profile} {d : Difference}

/-- Lists of the same rules accept the same differences. -/
lemma outcomeBy_fst_congr {ws ws' : List Waiver} (hws : ∀ w, w ∈ ws ↔ w ∈ ws') (hd : d.Tidy) :
    (outcomeBy ctx generated candidate ws d).1 = (outcomeBy ctx generated candidate ws' d).1 := by
  rw [Bool.eq_iff_iff, outcomeBy_fst_iff ws hd, outcomeBy_fst_iff ws' hd]
  refine forall₂_congr fun k _ => exists_congr fun w => ?_
  rw [hws w]

/-- Rules that accept a difference leave nothing of it. -/
lemma isEmpty_outcomeBy_snd (ws : List Waiver)
    (h : (outcomeBy ctx generated candidate ws d).1 = true) :
    (outcomeBy ctx generated candidate ws d).2.isEmpty = true := by
  induction ws generalizing d with
  | nil => exact h
  | cons w ws ih =>
      rw [outcomeBy] at h ⊢
      cases hout : w.outcome ctx generated candidate d with
      | mk passes d' =>
          rw [hout] at h
          cases passes with
          | false => exact absurd h Bool.false_ne_true
          | true => exact ih h

/-- **The order of the rules does not matter**: tried in any order, up to the first that fails and
with whatever routes are sorted already, they accept the differences that they accept in theirs, and
then nothing is left in either. -/
theorem waiveBy_eq_waive_of_perm {ws : List Waiver} (hws : ws.Perm Waiver.all) {d : Difference}
    (hd : d.Tidy) (ctx : WaiverContext) (generated candidate : Profile)
    (cache : RouteCache ctx.options generated) :
    let permuted := ((waiveBy ctx generated candidate ws d).run cache).1
    let inTurn := waive generated candidate ctx.options ctx.lookup d
    permuted.1 = inTurn.1 ∧ (inTurn.1 = true → permuted.2 = .empty ∧ inTurn.2 = .empty) := by
  intro permuted inTurn
  have hpermuted : permuted = outcomeBy ctx generated candidate ws d :=
    waiveBy_run_fst ctx generated candidate ws d cache
  have hinTurn : inTurn = outcomeBy ctx generated candidate Waiver.all d :=
    waive_eq_outcomeBy generated candidate ctx.options ctx.lookup d
  have hverdict : permuted.1 = inTurn.1 := by
    rw [hpermuted, hinTurn]
    exact outcomeBy_fst_congr (fun _ => hws.mem_iff) hd
  refine ⟨hverdict, fun h => ?_⟩
  rw [hpermuted, hinTurn] at hverdict ⊢
  rw [hinTurn] at h
  have hleft := isEmpty_outcomeBy_snd ws (hverdict.trans h)
  have hleft' := isEmpty_outcomeBy_snd Waiver.all h
  exact ⟨Difference.eq_empty_of_isEmpty hleft, Difference.eq_empty_of_isEmpty hleft'⟩

/-- The rules from the last to the first, on profiles that name the same controller by its present
and by its former name and differ in the narrow family and in a hint. Without a carrier both orders
accept them; with one both reject them, and what they leave is not the same. -/
theorem waiveBy_reverse_all :
    let generated := (Profile.empty.set .controller (.text "br0")).set (.ipMethod .v4)
      (.text "disabled")
    let candidate := (Profile.empty.set .master (.text "br0")).set ⟨Key.hints, "driver"⟩
      (.list ["e1000e"])
    let d := Difference.between generated candidate
    let inTurn options := waive generated candidate options (.among isUuid []) d
    let reversed options := ((waiveBy ⟨options, .among isUuid []⟩ generated candidate
      Waiver.all.reverse d).run .fresh).1
    let carrierless := { Options.default with hasCarrier := false }
    Waiver.all.reverse.Perm Waiver.all ∧ d.Tidy ∧ d.size = 4
      ∧ (inTurn carrierless).1 = true ∧ reversed carrierless = (true, .empty)
      ∧ (inTurn .default).1 = false ∧ (inTurn .default).2.size = 4
      ∧ (reversed .default).1 = false ∧ (reversed .default).2.size = 1 := by
  intro generated candidate d inTurn reversed carrierless
  have hperm : Waiver.all.reverse.Perm Waiver.all := List.reverse_perm Waiver.all
  have htidy : d.Tidy := Difference.tidy_between generated candidate
  have horder options := waiveBy_eq_waive_of_perm hperm htidy ⟨options, .among isUuid []⟩ generated
    candidate .fresh
  have hwaived : (inTurn carrierless).1 = true := by decide +kernel
  have hrejected : (inTurn .default).1 = false := by decide +kernel
  refine ⟨hperm, htidy, by decide +kernel, hwaived, Prod.ext ?_ ?_, hrejected, by decide +kernel,
    ?_, by decide +kernel⟩
  · exact (horder carrierless).1.trans hwaived
  · exact ((horder carrierless).2 hwaived).1
  · exact (horder .default).1.trans hrejected

end ProfileMatch
