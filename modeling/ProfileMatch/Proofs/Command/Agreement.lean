import Mathlib.Tactic.Common
import ProfileMatch.Command.Report
import ProfileMatch.Matching.Identifier
import ProfileMatch.Proofs.Matching.Selection
/-!
A match answers what the reports on its candidates say.

* `MatchDocument.report_waived`: the report on a candidate counts it as waived exactly if it is a
  possible match, exact ones included;
* `decidingReport?`: the first exact report, or else the first waived one;
* `MatchDocument.select_eq`: a match is answered by the label in that report, and fails without one;
* `MatchDocument.select_agrees_with_reports`: so it succeeds exactly if some report is waived.

All of this holds whatever counts as an identifier of a stored profile.
-/

namespace ProfileMatch

/-- A search among items with their places finds what a search among the items does. -/
lemma map_fst_find?_zipIdx {α : Type} (xs : List α) (cond : α → Bool) :
    (xs.zipIdx.find? fun x => cond x.1).map Prod.fst = xs.find? cond := by
  have hmap : (xs.zipIdx.map Prod.fst).find? cond
      = (xs.zipIdx.find? fun x => cond x.1).map Prod.fst := List.find?_map
  rw [List.zipIdx_map_fst] at hmap
  exact hmap.symm

/-- The best match is the first equal candidate, or else the first possible match. -/
lemma map_fst_bestMatch? {options : Options} (hmode : options.indicated = false)
    (candidates : List Profile) (generated : Profile) (lookup : Lookup) :
    (bestMatch? candidates generated options lookup fun _ => true).map Prod.fst =
      (candidates.find? fun c => (Difference.between generated c).isEmpty).or
        (candidates.find? fun c => isPossibleMatch generated c options lookup) := by
  have hequal := map_fst_find?_zipIdx candidates fun c => (Difference.between generated c).isEmpty
  have hpossible := map_fst_find?_zipIdx candidates fun c =>
    isPossibleMatch generated c options lookup
  rw [bestMatch?, Selection.scan_matching hmode, Option.none_or, Option.map_or, ← hequal,
    ← hpossible]

/-- The report that decides a match: the first exact one, or else the first waived one. -/
def decidingReport? (reports : List CandidateReport) : Option CandidateReport :=
  (reports.find? CandidateReport.exact).or (reports.find? CandidateReport.waived)

namespace MatchDocument

section Reports

variable (isIdentifier : String → Bool) (d : MatchDocument) (options : Options)

/-! ### Reports -/

lemma report_exact (c : Profile) :
    (d.report isIdentifier options c).exact = (Difference.between d.generated c).isEmpty := rfl

/-- **A report is waived** exactly if the candidate is a possible match. -/
lemma report_waived (c : Profile) :
    (d.report isIdentifier options c).waived =
      isPossibleMatch d.generated c options (d.lookup isIdentifier) := by
  rw [report, isPossibleMatch]
  cases (Difference.between d.generated c).isEmpty <;> rfl

/-- An exact report is waived as well. -/
lemma waived_of_exact {r : CandidateReport} (hr : r ∈ d.reports isIdentifier options)
    (hexact : r.exact = true) : r.waived = true := by
  obtain ⟨c, -, rfl⟩ := List.mem_map.mp hr
  rw [report_exact] at hexact
  rw [report_waived, isPossibleMatch, hexact, Bool.true_or]

/-- No report decides exactly if none is waived. -/
lemma decidingReport?_eq_none_iff :
    decidingReport? (d.reports isIdentifier options) = none ↔
      ∀ r ∈ d.reports isIdentifier options, r.waived = false := by
  rw [decidingReport?, Option.or_eq_none_iff, List.find?_eq_none, List.find?_eq_none]
  constructor
  · rintro ⟨-, hwaived⟩ r hr
    exact Bool.eq_false_iff.mpr (hwaived r hr)
  · intro hwaived
    refine ⟨fun r hr hexact => ?_, fun r hr => Bool.eq_false_iff.mp (hwaived r hr)⟩
    exact Bool.eq_false_iff.mp (hwaived r hr) (waived_of_exact isIdentifier d options hr hexact)

/-! ### Matches -/

variable {options}

/-- A match is answered by the label in the report that decides, and fails without one. -/
lemma select_eq (hmode : options.indicated = false) :
    d.select isIdentifier options (fun _ => true) =
      match decidingReport? (d.reports isIdentifier options) with
      | some r => .ok r.connection
      | none => .error (.general
          ("No connection matches the generated connection " ++ d.generated.label)) := by
  have hreport : decidingReport? (d.reports isIdentifier options) =
      ((bestMatch? d.candidates d.generated options (d.lookup isIdentifier) fun _ => true).map
        Prod.fst).map (d.report isIdentifier options) := by
    rw [map_fst_bestMatch? hmode, decidingReport?, reports, List.find?_map,
      List.find?_map, Option.map_or]
    simp only [Function.comp_def, report_exact, report_waived]
  rw [hreport, select]
  cases bestMatch? d.candidates d.generated options (d.lookup isIdentifier) fun _ => true with
  | none => rfl
  | some best => rfl

/-- **A match and the reports agree**: unless the candidates are known to belong to the device, a
match among all of them succeeds exactly if some report is waived. Its answer is then the label in
the first exact report, or in the first waived one if none is exact; otherwise it fails with exit
code 1. -/
theorem select_agrees_with_reports (hmode : options.indicated = false) :
    ((∃ text, d.select isIdentifier options (fun _ => true) = .ok text) ↔
        ∃ r ∈ d.reports isIdentifier options, r.waived = true)
      ∧ (∀ text, d.select isIdentifier options (fun _ => true) = .ok text →
          ∃ r, ((d.reports isIdentifier options).find? CandidateReport.exact).or
              ((d.reports isIdentifier options).find? CandidateReport.waived) = some r
            ∧ text = r.connection)
      ∧ ((∀ r ∈ d.reports isIdentifier options, r.waived = false) →
          ∃ failure, d.select isIdentifier options (fun _ => true) = .error failure
            ∧ failure.code = 1) := by
  have hanswer := select_eq isIdentifier d hmode
  have hnone := decidingReport?_eq_none_iff isIdentifier d options
  cases hdecide : decidingReport? (d.reports isIdentifier options) with
  | none =>
      rw [hdecide] at hanswer
      have hunwaived := hnone.mp hdecide
      refine ⟨⟨?_, ?_⟩, ?_, fun _ => ⟨_, hanswer, rfl⟩⟩
      · rintro ⟨text, htext⟩
        exact absurd (htext.symm.trans hanswer) (by simp)
      · rintro ⟨r, hr, hwaived⟩
        exact absurd hwaived (Bool.eq_false_iff.mp (hunwaived r hr))
      · intro text htext
        exact absurd (htext.symm.trans hanswer) (by simp)
  | some r =>
      rw [hdecide] at hanswer
      have hwaived : ¬ ∀ r ∈ d.reports isIdentifier options, r.waived = false := by
        intro hall
        exact absurd (hdecide.symm.trans (hnone.mpr hall)) (by simp)
      refine ⟨⟨fun _ => ?_, fun _ => ⟨_, hanswer⟩⟩, ?_, fun hall => absurd hall hwaived⟩
      · simpa using hwaived
      · intro text htext
        exact ⟨r, hdecide, Except.ok.inj (htext.symm.trans hanswer)⟩

end Reports

/-- An exact candidate behind one that is not waived and one that is, and the first of them
alone. -/
theorem select_exact_behind_waived :
    let generated := (Profile.empty.set .interfaceName (.text "eth1")).set (.ipMethod .v4)
      (.text "disabled")
    let static := (Profile.empty.set .connectionId (.text "static")).set (.ipMethod .v4)
      (.text "manual")
    let wired := Profile.empty.set .connectionId (.text "wired")
    let stored := generated.set .connectionId (.text "stored")
    let options := { Options.default with hasCarrier := false }
    let d : MatchDocument := ⟨generated, [static, wired, stored], [], .default⟩
    let d' : MatchDocument := ⟨generated, [static], [], .default⟩
    options.indicated = false
      ∧ (d.reports isUuid options).map (fun r => (r.exact, r.waived))
        = [(false, false), (false, true), (true, true)]
      ∧ d.select isUuid options (fun _ => true) = .ok "stored"
      ∧ (∀ r ∈ d'.reports isUuid options, r.waived = false)
      ∧ ∃ failure, d'.select isUuid options (fun _ => true) = .error failure
        ∧ failure.code = 1 := by
  intro generated static wired stored options d d'
  have hflags : (d.reports isUuid options).map (fun r => (r.exact, r.waived))
      = [(false, false), (false, true), (true, true)] := by decide +kernel
  have hwaived : ∃ r ∈ d.reports isUuid options, r.waived = true := by decide +kernel
  have hdecide : (decidingReport? (d.reports isUuid options)).map CandidateReport.connection
      = some "stored" := by decide +kernel
  have hunwaived : ∀ r ∈ d'.reports isUuid options, r.waived = false := by decide +kernel
  have hmode : options.indicated = false := rfl
  have hagrees := select_agrees_with_reports isUuid d hmode
  obtain ⟨text, htext⟩ := hagrees.1.mpr hwaived
  obtain ⟨r, hr, rfl⟩ := hagrees.2.1 text htext
  rw [decidingReport?, hr] at hdecide
  refine ⟨hmode, hflags, ?_, hunwaived, ?_⟩
  · rw [htext, Option.some.inj hdecide]
  · exact (select_agrees_with_reports isUuid d' hmode).2.2 hunwaived

end MatchDocument

end ProfileMatch
