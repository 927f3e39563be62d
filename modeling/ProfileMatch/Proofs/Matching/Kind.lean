import Mathlib.Tactic.Common
import ProfileMatch.Matching.Identifier
import ProfileMatch.Proofs.Matching.Selection
import ProfileMatch.Proofs.Matching.WellFormed
/-!
The kind of a connection, which the difference holds as values and the selection compares as texts.

* `Profile.WellFormed.folded?_connectionType`, `folded?_portType`: of well-formed profiles both are
  the same, with the port type under either of its names;
* `Waiver.owns_kind`: no rule takes the type or the port type out of a difference;
* `contains_eq_false_of_isPossibleMatch`, `sameKind_of_isPossibleMatch`: so neither differs in a
  possible match;
* `exists_find?_eq_some`: the first item found stands no later than any other that would do;
* `sameKind_and_bestMatch?_of_ofJson`: so candidates that are known to belong to the device are
  judged less strictly, and the choice among them comes no later.
-/

namespace ProfileMatch

/-! ### Types as values and as texts -/

namespace Profile.WellFormed

variable {p : Profile}

/-- The type is compared as the text that it is. -/
lemma folded?_connectionType (h : p.WellFormed) :
    p.folded? .connectionType = p.type?.map .text := by
  have htype : p.effective? .connectionType = (p.text? .connectionType).map .text :=
    h.effective?_of_text (by decide)
  rw [folded?, if_neg (by decide), htype, type?]

/-- The port type is compared as the text that it is, under whichever of its names. -/
lemma folded?_portType (h : p.WellFormed) : p.folded? .portType = p.portType?.map .text := by
  have hport : p.effective? .portType = (p.text? .portType).map .text :=
    h.effective?_of_text (by decide)
  have hslave : p.effective? .slaveType = (p.text? .slaveType).map .text :=
    h.effective?_of_text (by decide)
  rw [folded?, if_pos rfl, hport, hslave, portType?, Option.map_or]

end Profile.WellFormed

/-! ### Possible matches -/

section Kind

variable {generated candidate : Profile}

lemma contains_connectionType_iff (hg : generated.WellFormed) (hc : candidate.WellFormed) :
    (Difference.between generated candidate).contains .connectionType = true ↔
      generated.type? ≠ candidate.type? :=
  Difference.contains_between_iff_of_injective Value.map_text_injective (by decide)
    hg.folded?_connectionType hc.folded?_connectionType

/-- The port types differ or not whatever names they stand under. -/
lemma contains_portType_iff (hg : generated.WellFormed) (hc : candidate.WellFormed) :
    (Difference.between generated candidate).contains .portType = true ↔
      generated.portType? ≠ candidate.portType? :=
  Difference.contains_between_iff_of_injective Value.map_text_injective (by decide)
    hg.folded?_portType hc.folded?_portType

/-- The former name of the port type never differs on its own. -/
lemma contains_slaveType_eq_false (generated candidate : Profile) :
    (Difference.between generated candidate).contains .slaveType = false := by
  rw [← Bool.not_eq_true, Difference.contains_between_iff]
  exact fun h => h.1.2 rfl

/-- No rule is for the type or the port type. -/
lemma Waiver.owns_kind (w : Waiver) :
    w.scope.owns .connectionType = false ∧ w.scope.owns .portType = false := by
  have hall : ∀ w ∈ all, w.scope.owns .connectionType = false ∧ w.scope.owns .portType = false := by
    decide
  exact hall w w.mem_all

/-- A key that no rule is for does not differ in a possible match. -/
lemma contains_eq_false_of_isPossibleMatch {k : Key} {options : Options} {lookup : Lookup}
    (hk : ∀ w : Waiver, w.scope.owns k = false)
    (h : isPossibleMatch generated candidate options lookup = true) :
    (Difference.between generated candidate).contains k = false := by
  rw [← Bool.not_eq_true]
  intro hcontains
  obtain ⟨w, -, howns, -⟩ := isPossibleMatch_iff_forall_owner.mp h k hcontains
  exact absurd ((hk w).symm.trans howns) Bool.false_ne_true

/-- **Possible matches are of one kind**: a type or port type that differs is never excused. -/
lemma sameKind_of_isPossibleMatch (hg : generated.WellFormed) (hc : candidate.WellFormed)
    {options : Options} {lookup : Lookup}
    (h : isPossibleMatch generated candidate options lookup = true) :
    generated.type? = candidate.type? ∧ generated.portType? = candidate.portType? := by
  have htype := contains_eq_false_of_isPossibleMatch (fun w => w.owns_kind.1) h
  have hport := contains_eq_false_of_isPossibleMatch (fun w => w.owns_kind.2) h
  rw [← Bool.not_eq_true, contains_connectionType_iff hg hc, not_not] at htype
  rw [← Bool.not_eq_true, contains_portType_iff hg hc, not_not] at hport
  exact ⟨htype, hport⟩

lemma sameKind_iff :
    Selection.sameKind generated candidate = true ↔
      generated.type? = candidate.type? ∧ generated.portType? = candidate.portType? := by
  rw [Selection.sameKind, Bool.and_eq_true, beq_iff_eq, beq_iff_eq]

end Kind

/-! ### The choice -/

/-- Where an item would do, a search among items in the order of their places finds it or one in
front of it. -/
lemma exists_find?_eq_some {α : Type} {cond : α × Nat → Bool} {xs : List (α × Nat)} {x : α × Nat}
    (hsorted : xs.Pairwise fun a b => a.2 < b.2) (hx : x ∈ xs) (hcond : cond x = true) :
    ∃ y, xs.find? cond = some y ∧ (y = x ∨ y.2 < x.2) := by
  induction xs with
  | nil => exact absurd hx List.not_mem_nil
  | cons z zs ih =>
      obtain ⟨hfirst, hrest⟩ := List.pairwise_cons.mp hsorted
      cases hz : cond z with
      | true =>
          refine ⟨z, List.find?_cons_of_pos hz, ?_⟩
          rcases List.mem_cons.mp hx with rfl | hx
          · exact .inl rfl
          · exact .inr (hfirst x hx)
      | false =>
          rw [List.find?_cons_of_neg (by rw [hz]; exact Bool.false_ne_true)]
          rcases List.mem_cons.mp hx with rfl | hx
          · exact absurd (hz.symm.trans hcond) Bool.false_ne_true
          · exact ih hrest hx

/-- **Known candidates are judged less strictly.** Of profiles that were read, the port types differ
exactly if their texts do, under whichever names, and nothing differs under the former name; and a
possible match is of the type and port type of the generated profile, which is all that candidates
are checked for that are known to belong to the device. So wherever one is chosen by the difference,
the choice among candidates that are known to belong to the device is the same or stands in front of
it. -/
theorem sameKind_and_bestMatch?_of_ofJson {v : Json} {generated : Profile}
    (h : Profile.ofJson v = .ok generated) :
    (∀ (v' : Json) (candidate : Profile), Profile.ofJson v' = .ok candidate →
      ((Difference.between generated candidate).contains .portType = true ↔
          generated.portType? ≠ candidate.portType?)
        ∧ (Difference.between generated candidate).contains .slaveType = false
        ∧ ∀ (options : Options) (lookup : Lookup),
            isPossibleMatch generated candidate options lookup = true →
            (generated.type? = candidate.type? ∧ generated.portType? = candidate.portType?)
              ∧ Selection.sameKind generated candidate = true)
    ∧ ∀ candidates : List Profile, (∀ c ∈ candidates, ∃ v', Profile.ofJson v' = .ok c) →
        ∀ (options options' : Options) (lookup : Lookup) (keep : Profile → Bool),
          options.indicated = false → options'.indicated = true →
          ∀ c, bestMatch? candidates generated options lookup keep = some c →
            ∃ c', bestMatch? candidates generated options' lookup keep = some c'
              ∧ (c' = c ∨ c'.2 < c.2) := by
  have hg := Profile.wellFormed_of_ofJson h
  constructor
  · intro v' candidate h'
    have hc := Profile.wellFormed_of_ofJson h'
    refine ⟨contains_portType_iff hg hc, contains_slaveType_eq_false generated candidate, ?_⟩
    intro options lookup hpossible
    have hkind := sameKind_of_isPossibleMatch hg hc hpossible
    exact ⟨hkind, sameKind_iff.mpr hkind⟩
  · intro candidates hread options options' lookup keep hmode hmode' c hbest
    have hmem := mem_keptCandidates_of_bestMatch? hbest
    have hin : c.1 ∈ candidates := List.mem_of_getElem? (getElem?_of_bestMatch? hbest)
    obtain ⟨v', h'⟩ := hread c.1 hin
    have hkind := sameKind_of_isPossibleMatch hg (Profile.wellFormed_of_ofJson h')
      (isPossibleMatch_of_bestMatch? hmode hbest)
    rw [bestMatch?_of_indicated hmode']
    exact exists_find?_eq_some (pairwise_keptCandidates candidates keep) hmem
      (sameKind_iff.mpr hkind)

/-- A port type under its former name: the profile that says so is equal, but of known candidates
the one in front of it, which differs in its addresses, is of the kind as well. -/
theorem sameKind_and_bestMatch?_former_name :
    let generated := (Profile.empty.set .connectionType (.text "ethernet")).set .portType
      (.text "bond")
    let former := (Profile.empty.set .connectionType (.text "ethernet")).set .slaveType
      (.text "bond")
    let manual := generated.set ⟨"ipv4", "addresses"⟩ (.list ["192.0.2.1/24"])
    let options : Options := .default
    let known : Options := { options with indicated := true }
    Profile.ofJson generated.toJson = .ok generated
      ∧ (∀ c ∈ [manual, former], ∃ v, Profile.ofJson v = .ok c)
      ∧ bestMatch? [manual, former] generated options (.among isUuid []) (fun _ => true)
        = some (former, 1)
      ∧ (Difference.between generated former).contains .portType = false
      ∧ ∃ c, bestMatch? [manual, former] generated known (.among isUuid []) (fun _ => true) = some c
        ∧ c.1 = manual ∧ (c = (former, 1) ∨ c.2 < 1) := by
  intro generated former manual options known
  have hread : ∀ p ∈ [generated, manual, former],
      (Profile.ofJson p.toJson).toOption = some p := by decide +kernel
  have hgenerated : Profile.ofJson generated.toJson = .ok generated :=
    eq_ok_of_toOption (hread generated (by simp))
  have hcandidates : ∀ c ∈ [manual, former], ∃ v, Profile.ofJson v = .ok c := fun c hc =>
    ⟨c.toJson, eq_ok_of_toOption (hread c (List.mem_cons_of_mem generated hc))⟩
  have hbest : bestMatch? [manual, former] generated options (.among isUuid []) (fun _ => true)
      = some (former, 1) := by decide +kernel
  obtain ⟨hkind, hchoice⟩ := sameKind_and_bestMatch?_of_ofJson hgenerated
  obtain ⟨hport, -, -⟩ := hkind former.toJson former (eq_ok_of_toOption (hread former (by simp)))
  have hsame : (Difference.between generated former).contains .portType = false := by
    rw [← Bool.not_eq_true, hport, not_not]
    decide +kernel
  obtain ⟨c, hknown, hplace⟩ := hchoice _ hcandidates options known (.among isUuid [])
    (fun _ => true) rfl rfl (former, 1) hbest
  have hfirst : bestMatch? [manual, former] generated known (.among isUuid []) (fun _ => true)
      = some (manual, 0) := by decide +kernel
  have hc : c = (manual, 0) := Option.some.inj (hknown.symm.trans hfirst)
  exact ⟨hgenerated, hcandidates, hbest, hsame, c, hknown, congrArg Prod.fst hc, hplace⟩

end ProfileMatch
