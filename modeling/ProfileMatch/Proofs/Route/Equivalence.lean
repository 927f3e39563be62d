import Mathlib.Data.Fintype.Pi
import Mathlib.Data.List.FinRange
import Mathlib.Tactic.Common
import ProfileMatch.Proofs.Route.Order
import ProfileMatch.Route.Equivalence
/-!
One pass over two sorted lists decides whether the wanted routes can be assigned to present ones.

* `Route.Agree`, `Route.Matches`: agreement of two routes, and the assignment: it is injective, each
  wanted route agrees with the present one that it is assigned to, and the present routes left over
  lead to single hosts;
* `exists_assignment_iff`: an assignment exists exactly if one list is the other with some more, in
  whatever order;
* `coversSorted_iff`: on sorted lists the pass decides the latter. The present route at the cursor
  is the first in order; if it is not wanted first, it is not wanted at all, so it may be left over
  without a loss;
* `covers_canonical?_iff`: with the metrics of either side settled by a default of its own, that is
  `Route.Matches`.
-/

namespace ProfileMatch

open Std

/-! ### Assignments -/

section Assignment

variable {α : Type} {P : α → Prop} {xs ys : List α}

/-- The items of a list at the places that a map hits, and then those at all other places, are the
list in another order. -/
lemma perm_ofFn_append_filter {n : ℕ} (xs : List α) (σ : Fin n → Fin xs.length)
    (hσ : Function.Injective σ) :
    xs.Perm (List.ofFn (fun i => xs[σ i])
      ++ ((List.finRange xs.length).filter fun j => ∀ i, σ i ≠ j).map fun j => xs[j]) := by
  have hplaces : (List.finRange xs.length).Perm
      (List.ofFn σ ++ (List.finRange xs.length).filter fun j => ∀ i, σ i ≠ j) := by
    refine (List.perm_ext_iff_of_nodup (List.nodup_finRange _) ?_).mpr fun j => ?_
    · refine List.Nodup.append (List.nodup_ofFn.mpr hσ) ((List.nodup_finRange _).filter _) ?_
      intro j hj hj'
      obtain ⟨i, rfl⟩ := List.mem_ofFn.mp hj
      have hne := (List.mem_filter.mp hj').2
      rw [decide_eq_true_eq] at hne
      exact hne i rfl
    · by_cases hj : ∃ i, σ i = j
      · simp [hj]
      · simp only [not_exists] at hj
        simp [hj]
  have hitems := hplaces.map fun j => xs[j]
  rw [List.map_append, List.map_ofFn, ← List.ofFn_eq_map] at hitems
  rwa [show List.ofFn (fun j : Fin xs.length => xs[j]) = xs from List.ofFn_getElem] at hitems

/-- **Assignments**: the items of a list can be assigned, each to an equal one of another list and
no two to the same, with items of a kind left over, exactly if the other list is the first with
items of that kind added, in whatever order. -/
lemma exists_assignment_iff [DecidableEq α] :
    (∃ extra, xs.Perm (ys ++ extra) ∧ ∀ x ∈ extra, P x) ↔
      ∃ σ : Fin ys.length → Fin xs.length, Function.Injective σ ∧ (∀ i, xs[σ i] = ys[i])
        ∧ ∀ j, (∀ i, σ i ≠ j) → P xs[j] := by
  constructor
  · rintro ⟨extra, hperm, hextra⟩
    -- a permutation moves the places of the longer list, those of `ys` come first
    have hlen : ys.length ≤ (ys ++ extra).length := by simp
    refine ⟨fun i => hperm.symm.idxBij (i.castLE hlen), ?_, ?_, ?_⟩
    · exact hperm.symm.idxBij_injective.comp (Fin.castLE_injective hlen)
    · intro i
      have hget := hperm.symm.getElem_idxBij_eq_getElem (i.castLE hlen)
      exact hget.trans (List.getElem_append_left i.isLt)
    · intro j hj
      obtain ⟨i, rfl⟩ := hperm.symm.idxBij_surjective j
      have hget := hperm.symm.getElem_idxBij_eq_getElem i
      have hi : ys.length ≤ i := by
        by_contra hlt
        exact hj ⟨i, by omega⟩ rfl
      rw [List.getElem_append_right hi] at hget
      rw [show xs[hperm.symm.idxBij i] = _ from hget]
      exact hextra _ (List.getElem_mem _)
  · rintro ⟨σ, hσ, hassigned, hleft⟩
    have hys : List.ofFn (fun i => xs[σ i]) = ys := by
      rw [funext hassigned]
      exact List.ofFn_getElem
    refine ⟨((List.finRange xs.length).filter fun j => ∀ i, σ i ≠ j).map fun j => xs[j], ?_, ?_⟩
    · have hperm := perm_ofFn_append_filter xs σ hσ
      rwa [hys] at hperm
    · intro x hx
      obtain ⟨j, hj, rfl⟩ := List.mem_map.mp hx
      have hne := (List.mem_filter.mp hj).2
      rw [decide_eq_true_eq] at hne
      exact hleft j hne

end Assignment

namespace Route

/-! ### Which routes match -/

/-- A present route agrees with a wanted one: the fields are the same, a metric of -1 counts as the
default of its side, no next hop as an empty one, and the destinations lie in one network. -/
structure Agree (presentDefault wantedDefault : Int) (present wanted : Route) : Prop where
  family : present.family = wanted.family
  prefixLength : present.prefixLength = wanted.prefixLength
  metric : (if present.metric = -1 then presentDefault else present.metric)
    = if wanted.metric = -1 then wantedDefault else wanted.metric
  hop : present.nextHop.getD "" = wanted.nextHop.getD ""
  network : present.network? = wanted.network?

lemma agree_iff {dp dw : Int} {present wanted : Route} :
    Agree dp dw present wanted ↔ present.signature dp = wanted.signature dw := by
  rw [signature, signature, Signature.mk.injEq]
  refine ⟨fun h => ⟨h.family, h.prefixLength, h.metric, h.hop, h.network⟩, ?_⟩
  rintro ⟨hfamily, hlength, hmetric, hhop, hnetwork⟩
  exact ⟨hfamily, hlength, hmetric, hhop, hnetwork⟩

/-- **Matching route lists**: all destinations are valid, every wanted route is assigned to a
present one that agrees with it, no two to the same, and every present route left over leads to a
single host. -/
def Matches (presentDefault wantedDefault : Int) (hostLength : Nat) (present wanted : List Route) :
    Prop :=
  (∀ r ∈ present ++ wanted, r.network?.isSome)
    ∧ ∃ σ : Fin wanted.length → Fin present.length, Function.Injective σ
      ∧ (∀ i, Agree presentDefault wantedDefault present[σ i] wanted[i])
      ∧ ∀ j, (∀ i, σ i ≠ j) → present[j].prefixLength = hostLength

instance {dp dw : Int} {present wanted : Route} : Decidable (Agree dp dw present wanted) :=
  decidable_of_iff _ agree_iff.symm

instance {dp dw : Int} {h : Nat} {present wanted : List Route} :
    Decidable (Matches dp dw h present wanted) :=
  inferInstanceAs (Decidable (_ ∧ _))

/-! ### The pass over sorted lists -/

variable {h : Nat} {p w : Route} {ps ws present wanted : List Route}

/-- With nothing more wanted, all that is left has to lead to single hosts. -/
lemma coversSorted_nil_right :
    coversSorted h present [] = true ↔ ∀ r ∈ present, r.prefixLength = h := by
  cases present <;> simp [coversSorted]

/-- With nothing left, nothing more may be wanted. -/
lemma coversSorted_nil_cons : coversSorted h [] (w :: ws) = false := rfl

/-- One step of the pass: the present route at the cursor is assigned to the wanted one, or it is
left over. -/
lemma coversSorted_cons_cons :
    coversSorted h (p :: ps) (w :: ws) =
      if order openMetric p w = .eq then coversSorted h ps ws
      else if p.prefixLength = h then coversSorted h ps (w :: ws)
      else false := by
  by_cases heq : order openMetric p w = .eq
  · rw [coversSorted, dropThrough?, if_pos heq, if_pos heq]
  · by_cases hhost : p.prefixLength = h
    · rw [coversSorted, dropThrough?, if_neg heq, if_neg heq, if_pos hhost, if_pos hhost,
        coversSorted]
    · rw [coversSorted, dropThrough?, if_neg heq, if_neg heq, if_neg hhost, if_neg hhost]

/-- The wanted routes, with more routes to single hosts, are the present ones in another order, as
far as signatures tell. -/
def CoversSignatures (h : Nat) (present wanted : List Route) : Prop :=
  ∃ extra, (present.map (signature openMetric)).Perm (wanted.map (signature openMetric) ++ extra)
    ∧ ∀ s ∈ extra, s.prefixLength = h

/-- In sorted lists the present route that comes first is wanted first or not at all: it is before
every present route, hence before the first wanted one, which is before all that are wanted. -/
lemma signature_notMem_of_order_ne_eq (hvp : ∀ r ∈ p :: ps, r.network?.isSome)
    (hvw : ∀ r ∈ w :: ws, r.network?.isSome) (hsp : Sorted (p :: ps)) (hsw : Sorted (w :: ws))
    (hne : order openMetric p w ≠ .eq)
    (hw : w.signature openMetric ∈ (p :: ps).map (signature openMetric)) :
    p.signature openMetric ∉ (w :: ws).map (signature openMetric) := by
  have hfirst : ∀ {a : Route} {as : List Route}, Sorted (a :: as) → ∀ r ∈ a :: as,
      (order openMetric a r).isLE := by
    intro a as hs r hr
    rcases List.mem_cons.mp hr with rfl | hr
    · have hself : order openMetric r r = .eq := ReflCmp.compare_self
      rw [hself]
      rfl
    · exact (List.pairwise_cons.mp hs).1 r hr
  intro hp
  obtain ⟨p', hp', hpw⟩ := List.mem_map.mp hw
  obtain ⟨w', hw', hwp⟩ := List.mem_map.mp hp
  have hvp₁ := hvp p List.mem_cons_self
  have hvw₁ := hvw w List.mem_cons_self
  have hple : (order openMetric p w).isLE := by
    have heq := (order_eq_iff (hvp p' hp') hvw₁).mpr hpw
    exact TransCmp.isLE_trans (hfirst hsp p' hp') (by rw [heq]; rfl)
  have hwle : (order openMetric w p).isLE := by
    have heq := (order_eq_iff (hvw w' hw') hvp₁).mpr hwp
    exact TransCmp.isLE_trans (hfirst hsw w' hw') (by rw [heq]; rfl)
  exact hne (OrientedCmp.isLE_antisymm hple hwle)

/-- A present route that agrees with the first wanted one can be assigned to it. -/
lemma coversSignatures_of_order_eq (hp : p.network?.isSome) (hw : w.network?.isSome)
    (heq : order openMetric p w = .eq) :
    CoversSignatures h (p :: ps) (w :: ws) ↔ CoversSignatures h ps ws := by
  have hsig := (order_eq_iff hp hw).mp heq
  refine exists_congr fun extra => and_congr_left fun _ => ?_
  rw [List.map_cons, List.map_cons, hsig, List.cons_append, List.perm_cons]

/-- A present route that comes first and does not agree with the first wanted one is left over. -/
lemma coversSignatures_of_order_ne_eq (hvp : ∀ r ∈ p :: ps, r.network?.isSome)
    (hvw : ∀ r ∈ w :: ws, r.network?.isSome) (hsp : Sorted (p :: ps)) (hsw : Sorted (w :: ws))
    (hne : order openMetric p w ≠ .eq) :
    CoversSignatures h (p :: ps) (w :: ws) ↔
      p.prefixLength = h ∧ CoversSignatures h ps (w :: ws) := by
  constructor
  · rintro ⟨extra, hperm, hextra⟩
    have hw : w.signature openMetric ∈ (p :: ps).map (signature openMetric) :=
      hperm.mem_iff.mpr (by simp)
    have hp : p.signature openMetric ∈ extra := by
      have hmem : p.signature openMetric ∈ (w :: ws).map (signature openMetric) ++ extra :=
        hperm.mem_iff.mp (by simp)
      exact (List.mem_append.mp hmem).resolve_left
        (signature_notMem_of_order_ne_eq hvp hvw hsp hsw hne hw)
    refine ⟨hextra _ hp, extra.erase (p.signature openMetric), ?_, ?_⟩
    · have hmoved := (List.perm_cons_erase hp).append_left
        ((w :: ws).map (signature openMetric))
      exact ((hperm.trans hmoved).trans List.perm_middle).cons_inv
    · intro s hs
      exact hextra s (List.mem_of_mem_erase hs)
  · rintro ⟨hhost, extra, hperm, hextra⟩
    refine ⟨p.signature openMetric :: extra, ?_, ?_⟩
    · exact (hperm.cons _).trans List.perm_middle.symm
    · intro s hs
      rcases List.mem_cons.mp hs with rfl | hs
      · exact hhost
      · exact hextra s hs

/-- **The pass decides coverage** on sorted lists of routes with valid destinations. -/
lemma coversSorted_iff (hvp : ∀ r ∈ present, r.network?.isSome)
    (hvw : ∀ r ∈ wanted, r.network?.isSome) (hsp : Sorted present) (hsw : Sorted wanted) :
    coversSorted h present wanted = true ↔ CoversSignatures h present wanted := by
  induction present generalizing wanted with
  | nil =>
      cases wanted with
      | nil =>
          rw [coversSorted_nil_right]
          exact ⟨fun _ => ⟨[], List.Perm.refl _, by simp⟩, by simp⟩
      | cons w ws =>
          rw [coversSorted_nil_cons]
          refine ⟨by simp, ?_⟩
          rintro ⟨extra, hperm, -⟩
          have hlen := hperm.length_eq
          simp at hlen
  | cons p ps ih =>
      have hvps : ∀ r ∈ ps, r.network?.isSome := fun r hr => hvp r (List.mem_cons_of_mem p hr)
      have hsps := (List.pairwise_cons.mp hsp).2
      cases wanted with
      | nil =>
          rw [coversSorted_nil_right]
          constructor
          · intro hall
            refine ⟨(p :: ps).map (signature openMetric), List.Perm.refl _, fun s hs => ?_⟩
            obtain ⟨r, hr, rfl⟩ := List.mem_map.mp hs
            exact hall r hr
          · rintro ⟨extra, hperm, hextra⟩ r hr
            exact hextra _ (hperm.mem_iff.mp (List.mem_map_of_mem hr))
      | cons w ws =>
          have hvws : ∀ r ∈ ws, r.network?.isSome := fun r hr => hvw r (List.mem_cons_of_mem w hr)
          rw [coversSorted_cons_cons]
          by_cases heq : order openMetric p w = .eq
          · rw [if_pos heq, ih hvps hvws hsps (List.pairwise_cons.mp hsw).2,
              coversSignatures_of_order_eq (hvp p List.mem_cons_self)
                (hvw w List.mem_cons_self) heq]
          · rw [if_neg heq, coversSignatures_of_order_ne_eq hvp hvw hsp hsw heq,
              ← ih hvps hvw hsps hsw]
            split
            · next hhost => simp [hhost]
            · next hhost => simp [hhost]

/-! ### Lists in any order -/

/-- Settling and sorting keep the signatures. -/
lemma map_signature_sort_settled (d : Int) (rs : List Route) :
    ((sort d (rs.map (·.settled d))).map (signature openMetric)).Perm (rs.map (signature d)) := by
  have hperm := (sort_perm d (rs.map (·.settled d))).map (signature openMetric)
  rw [List.map_map] at hperm
  rwa [show signature openMetric ∘ (·.settled d) = signature d from
    funext fun r => signature_settled] at hperm

/-- Routes match exactly if their destinations are valid and their signatures, each side with its
own default, leave over single hosts only. -/
lemma matches_iff {dp dw : Int} :
    Matches dp dw h present wanted ↔
      (∀ r ∈ present ++ wanted, r.network?.isSome) ∧
        ∃ extra, (present.map (signature dp)).Perm (wanted.map (signature dw) ++ extra)
          ∧ ∀ s ∈ extra, s.prefixLength = h := by
  rw [exists_assignment_iff, Matches]
  refine and_congr_right fun _ => ?_
  have hp : (present.map (signature dp)).length = present.length := List.length_map _
  have hw : (wanted.map (signature dw)).length = wanted.length := List.length_map _
  constructor
  · rintro ⟨σ, hσ, hagree, hleft⟩
    refine ⟨fun i => (σ (i.cast hw)).cast hp.symm, ?_, ?_, ?_⟩
    · intro i j hij
      simpa [Fin.ext_iff] using hσ (Fin.cast_injective _ hij)
    · intro i
      simpa using agree_iff.mp (hagree (i.cast hw))
    · intro j hj
      simpa [signature] using hleft (j.cast hp) fun i hi => hj (i.cast hw.symm) (by simp [hi])
  · rintro ⟨σ, hσ, hagree, hleft⟩
    refine ⟨fun i => (σ (i.cast hw.symm)).cast hp, ?_, ?_, ?_⟩
    · intro i j hij
      simpa [Fin.ext_iff] using hσ (Fin.cast_injective _ hij)
    · intro i
      exact agree_iff.mpr (by simpa using hagree (i.cast hw.symm))
    · intro j hj
      simpa [signature] using hleft (j.cast hp.symm) fun i hi => hj (i.cast hw) (by simp [hi])

/-- **The comparison of canonical lists** is that of the routes, with the metrics of either side
settled by its own default; it fails if some destination is not valid. -/
theorem covers_canonical?_iff (dp dw : Int) (h : Nat) (present wanted : List Route) :
    covers h (canonical? dp present) (canonical? dw wanted) = true ↔
      Matches dp dw h present wanted := by
  rw [matches_iff]
  by_cases hvp : ∀ r ∈ present, r.network?.isSome
  · by_cases hvw : ∀ r ∈ wanted, r.network?.isSome
    · have hvalid : ∀ {d : Int} {rs : List Route}, (∀ r ∈ rs, r.network?.isSome) →
          ∀ r ∈ sort d (rs.map (·.settled d)), r.network?.isSome := by
        intro d rs hrs r hr
        obtain ⟨r, hr', rfl⟩ := List.mem_map.mp ((sort_perm d _).mem_iff.mp hr)
        exact hrs r hr'
      have hall : ∀ r ∈ present ++ wanted, r.network?.isSome := by
        intro r hr
        exact (List.mem_append.mp hr).elim (hvp r) (hvw r)
      rw [canonical?_of_valid hvp, canonical?_of_valid hvw, covers,
        coversSorted_iff (hvalid hvp) (hvalid hvw) (sorted_sort_settled dp present)
          (sorted_sort_settled dw wanted), CoversSignatures, and_iff_right hall]
      refine exists_congr fun extra => and_congr_left fun _ => ?_
      rw [(map_signature_sort_settled dp present).congr_left,
        ((map_signature_sort_settled dw wanted).append_right extra).congr_right]
    · rw [canonical?_of_invalid hvw]
      refine ⟨fun hcovers => by cases canonical? dp present <;> simp [covers] at hcovers, ?_⟩
      rintro ⟨hall, -⟩
      exact absurd (fun r hr => hall r (List.mem_append_right _ hr)) hvw
  · rw [canonical?_of_invalid hvp]
    refine ⟨fun hcovers => by simp [covers] at hcovers, ?_⟩
    rintro ⟨hall, -⟩
    exact absurd (fun r hr => hall r (List.mem_append_left _ hr)) hvp

end Route

end ProfileMatch
