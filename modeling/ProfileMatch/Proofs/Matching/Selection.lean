import Mathlib.Tactic.Common
import ProfileMatch.Matching.Selection
import ProfileMatch.Proofs.Matching.Rules
/-!
The one pass of the selection is two searches.

* `scan_filter`: candidates that are not let pass might as well not be there;
* `exists_scan_cons`: one step of the pass tries a candidate as if it were the only one, whatever
  the cache holds;
* `scan_indicated`, `scan_matching`: the pass over any part of the candidates, from any waived
  match found before and any state of the cache;
* `keptCandidates`: the candidates that are let pass, in the order of their places;
* `isPossibleMatch_of_bestMatch?`: what is chosen by the difference is a possible match;
* `bestMatch?_eq_find?`: the choice is that of the first candidate of the kind, or of the first
  equal one and else of the first possible match, where each candidate is judged on its own.
-/

namespace ProfileMatch

namespace Selection

variable {ctx : WaiverContext} {generated : Profile}

/-- Candidates that are not let pass are passed over. -/
lemma scan_filter (keep : Profile → Bool) (best : Option (Profile × Nat))
    (cs : List (Profile × Nat)) (cache : RouteCache ctx.options generated) :
    (scan ctx generated keep best cs).run cache
      = (scan ctx generated (fun _ => true) best (cs.filter fun c => keep c.1)).run cache := by
  induction cs generalizing best cache with
  | nil => rfl
  | cons c cs ih =>
      cases hkeep : keep c.1 with
      | false =>
          have hfilter : (c :: cs).filter (fun c => keep c.1) = cs.filter fun c => keep c.1 :=
            List.filter_cons_of_neg (by simp [hkeep])
          rw [hfilter, ← ih, scan]
          simp only [hkeep, Bool.not_false, if_true]
      | true =>
          have hfilter : (c :: cs).filter (fun c => keep c.1)
              = c :: cs.filter fun c => keep c.1 := List.filter_cons_of_pos hkeep
          rw [hfilter, scan, scan]
          simp only [hkeep, Bool.not_true, Bool.false_eq_true, if_false]
          split_ifs
          · rfl
          · exact ih best cache
          · rfl
          · exact ih best cache
          · rw [StateT.run_bind, StateT.run_bind]
            exact bind_congr fun result => ih _ result.2

/-- **One step of the pass** with nothing recorded: the candidate is recorded if it is a possible
match on its own. What the cache held has no part in it. -/
lemma exists_scan_cons {c : Profile × Nat} (hctx : ctx.options.indicated = false)
    (hexact : (Difference.between generated c.1).isEmpty = false) (cs : List (Profile × Nat))
    (cache : RouteCache ctx.options generated) :
    ∃ cache', ((scan ctx generated (fun _ => true) none (c :: cs)).run cache).1
      = ((scan ctx generated (fun _ => true)
          (if isPossibleMatch generated c.1 ctx.options ctx.lookup then some c else none)
          cs).run cache').1 := by
  have hpossible : isPossibleMatch generated c.1 ctx.options ctx.lookup
      = ((waiveIn ctx generated c.1 (Difference.between generated c.1)).run cache).1.1 := by
    rw [isPossibleMatch, waive_eq_outcomeBy, waiveIn, waiveBy_run_fst, hexact, Bool.false_or]
  refine ⟨((waiveIn ctx generated c.1 (Difference.between generated c.1)).run cache).2, ?_⟩
  rw [scan, hpossible]
  simp only [hctx, hexact, Option.isSome_none, Bool.not_true, Bool.false_eq_true, if_false]
  rfl

/-- Candidates that are known to belong to the device are searched for the first of the kind. -/
lemma scan_indicated (hctx : ctx.options.indicated = true) (cs : List (Profile × Nat))
    (cache : RouteCache ctx.options generated) :
    ((scan ctx generated (fun _ => true) none cs).run cache).1
      = cs.find? fun c => sameKind generated c.1 := by
  induction cs with
  | nil => rfl
  | cons c cs ih =>
      rw [scan, List.find?_cons]
      simp only [hctx, Bool.not_true, Bool.false_eq_true, if_false, if_true]
      cases sameKind generated c.1 with
      | true => rfl
      | false => exact ih

/-- Other candidates are searched for the first equal one; the waived match found so far comes
behind it, and before the first possible match of those to come. -/
lemma scan_matching (hctx : ctx.options.indicated = false) (best : Option (Profile × Nat))
    (cs : List (Profile × Nat)) (cache : RouteCache ctx.options generated) :
    ((scan ctx generated (fun _ => true) best cs).run cache).1
      = (cs.find? fun c => (Difference.between generated c.1).isEmpty).or
          (best.or (cs.find? fun c => isPossibleMatch generated c.1 ctx.options ctx.lookup)) := by
  induction cs generalizing best cache with
  | nil => exact (Option.or_none).symm
  | cons c cs ih =>
      rw [List.find?_cons, List.find?_cons]
      cases hexact : (Difference.between generated c.1).isEmpty with
      | true =>
          rw [scan]
          simp only [hctx, hexact, Bool.not_true, Bool.false_eq_true, if_false, if_true]
          rfl
      | false =>
          cases best with
          | some b =>
              -- a waived match is recorded: the rules are not tried
              rw [scan]
              simp only [hctx, hexact, Option.isSome_some, Bool.not_true, Bool.false_eq_true,
                if_false, if_true]
              rw [ih, Option.some_or, Option.some_or]
          | none =>
              obtain ⟨cache', hstep⟩ := exists_scan_cons hctx hexact cs cache
              rw [hstep, ih]
              cases isPossibleMatch generated c.1 ctx.options ctx.lookup <;> rfl

end Selection

/-- The candidates that are let pass, in order, each with its place among all. -/
def keptCandidates (candidates : List Profile) (keep : Profile → Bool) : List (Profile × Nat) :=
  candidates.zipIdx.filter fun c => keep c.1

section Choice

variable {candidates : List Profile} {generated : Profile} {options : Options} {lookup : Lookup}
  {keep : Profile → Bool} {c : Profile × Nat}

/-- The places of the candidates are those in the list of all. -/
lemma getElem?_of_mem_keptCandidates (h : c ∈ keptCandidates candidates keep) :
    candidates[c.2]? = some c.1 := by
  have hmem : c ∈ candidates.zipIdx := (List.mem_filter.mp h).1
  exact List.mem_zipIdx_iff_getElem?.mp hmem

/-- The candidates stand in the order of their places. -/
lemma pairwise_keptCandidates (candidates : List Profile) (keep : Profile → Bool) :
    (keptCandidates candidates keep).Pairwise fun a b => a.2 < b.2 := by
  have hplaces : (candidates.zipIdx.map Prod.snd).Pairwise (· < ·) := by
    rw [List.zipIdx_map_snd]
    exact List.pairwise_lt_range'
  exact (List.pairwise_map.mp hplaces).filter _

/-- Of candidates that are known to belong to the device, the first of the kind is chosen. -/
lemma bestMatch?_of_indicated (hmode : options.indicated = true) :
    bestMatch? candidates generated options lookup keep =
      (keptCandidates candidates keep).find? fun c => Selection.sameKind generated c.1 := by
  rw [bestMatch?, Selection.scan_filter, Selection.scan_indicated hmode]
  rfl

/-- Of other candidates, the first equal one is chosen, or else the first possible match. -/
lemma bestMatch?_of_not_indicated (hmode : options.indicated = false) :
    bestMatch? candidates generated options lookup keep =
      ((keptCandidates candidates keep).find? fun c =>
          (Difference.between generated c.1).isEmpty).or
        ((keptCandidates candidates keep).find? fun c =>
          isPossibleMatch generated c.1 options lookup) := by
  rw [bestMatch?, Selection.scan_filter, Selection.scan_matching hmode]
  rfl

/-- The choice is one of the candidates that are let pass. -/
lemma mem_keptCandidates_of_bestMatch?
    (h : bestMatch? candidates generated options lookup keep = some c) :
    c ∈ keptCandidates candidates keep := by
  cases hmode : options.indicated with
  | true =>
      rw [bestMatch?_of_indicated hmode] at h
      exact List.mem_of_find?_eq_some h
  | false =>
      rw [bestMatch?_of_not_indicated hmode, Option.or_eq_some_iff] at h
      rcases h with hexact | ⟨-, hpossible⟩
      · exact List.mem_of_find?_eq_some hexact
      · exact List.mem_of_find?_eq_some hpossible

/-- The choice stands at its place among all candidates. -/
lemma getElem?_of_bestMatch?
    (h : bestMatch? candidates generated options lookup keep = some c) :
    candidates[c.2]? = some c.1 :=
  getElem?_of_mem_keptCandidates (mem_keptCandidates_of_bestMatch? h)

/-- A choice by the difference is a possible match, be it equal or not. -/
lemma isPossibleMatch_of_bestMatch? (hmode : options.indicated = false)
    (h : bestMatch? candidates generated options lookup keep = some c) :
    isPossibleMatch generated c.1 options lookup = true := by
  rw [bestMatch?_of_not_indicated hmode, Option.or_eq_some_iff] at h
  rcases h with hexact | ⟨-, hpossible⟩
  · have hempty := List.find?_some hexact
    rw [isPossibleMatch, hempty, Bool.true_or]
  · have hfound := List.find?_some hpossible
    exact hfound

end Choice

/-- **Selector specification**: of the candidates that are let pass, the first of the type and port
type of the generated profile is chosen if they are known to belong to the device; else the first
equal to it, wherever it stands, and if there is none the first possible match, judged on its own.
Neither the cache nor the match that was found before shows in the choice. -/
theorem bestMatch?_eq_find? (candidates : List Profile) (generated : Profile) (options : Options)
    (lookup : Lookup) (keep : Profile → Bool) :
    bestMatch? candidates generated options lookup keep =
      if options.indicated then
        (keptCandidates candidates keep).find? fun c =>
          c.1.type? = generated.type? ∧ c.1.portType? = generated.portType?
      else
        ((keptCandidates candidates keep).find? fun c =>
            (Difference.between generated c.1).isEmpty).or
          ((keptCandidates candidates keep).find? fun c =>
            isPossibleMatch generated c.1 options lookup) := by
  rw [bestMatch?, Selection.scan_filter]
  cases hmode : options.indicated with
  | true =>
      rw [if_pos rfl, Selection.scan_indicated hmode]
      refine congrArg (List.find? · _) (funext fun c => ?_)
      rw [Selection.sameKind, Bool.decide_and]
      simp only [beq_eq_decide, eq_comm]
  | false =>
      rw [if_neg Bool.false_ne_true, Selection.scan_matching hmode]
      rfl

end ProfileMatch
