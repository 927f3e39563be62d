import Mathlib.Tactic.Common
import ProfileMatch.Proofs.Difference.Entries
import ProfileMatch.Proofs.Profile.Values
/-!
What the difference of two profiles holds, and what it depends on.

* `Key.Compared`, `Profile.folded?`: the keys that can differ, and the values by which they do; the
  port type goes by its former name where it has no value under its own;
* `Difference.get?_between`: the entry of a key. Only the settings that one of the two profiles
  holds are looked at, but in any other both have the defaults;
* `Difference.between_congr`, `Difference.between_swap`: the difference depends on the values of
  inferrable properties alone, and the sides can be exchanged;
* `Difference.get?_between_iff_and_equivalence`: all of this, with the consequence that to have no
  difference is an equivalence.
-/

namespace ProfileMatch

/-! ### Compared keys -/

/-- A key is compared if it is inferrable, unless it is the former name of the port type. -/
def Key.Compared (k : Key) : Prop :=
  k.Inferrable ∧ k ≠ .slaveType

instance : DecidablePred Key.Compared := fun k =>
  inferInstanceAs (Decidable (k.Inferrable ∧ k ≠ .slaveType))

lemma Key.inferrable_slaveType : Key.slaveType.Inferrable := by decide

/-- The only former name is that of the port type. -/
lemma any_formerNames (k : Key) : (formerNames.any fun n => n.2 == k) = true ↔ k = .slaveType := by
  rw [formerNames, List.any_cons, List.any_nil, Bool.or_false, beq_iff_eq, eq_comm]

/-- The keys that are compared in a setting are the compared ones of that setting. -/
lemma mem_comparedKeys_iff {setting : String} {k : Key} :
    k ∈ comparedKeys setting ↔ k.setting = setting ∧ k.Compared := by
  rw [comparedKeys]
  constructor
  · intro hk
    cases hs : SettingSchema.of? setting with
    | none =>
        rw [hs] at hk
        exact absurd hk List.not_mem_nil
    | some s =>
        rw [hs] at hk
        obtain ⟨hkeys, hformer⟩ := List.mem_filter.mp hk
        obtain ⟨p, hp, rfl⟩ := List.mem_map.mp hkeys
        obtain ⟨hmem, hinferrable⟩ := List.mem_filter.mp hp
        obtain ⟨hschema, hname⟩ := SettingSchema.of?_eq_some_iff.mp hs
        refine ⟨rfl, ⟨s, hschema, hname, p, hmem, rfl, hinferrable⟩, fun heq => ?_⟩
        rw [(any_formerNames _).mpr heq] at hformer
        exact absurd hformer (by simp)
  · rintro ⟨rfl, ⟨s, hschema, hname, p, hmem, hproperty, hinferrable⟩, hne⟩
    rw [SettingSchema.of?_eq_some_iff.mpr ⟨hschema, hname⟩]
    refine List.mem_filter.mpr ⟨List.mem_map.mpr ⟨p, ?_, ?_⟩, ?_⟩
    · exact List.mem_filter.mpr ⟨hmem, hinferrable⟩
    · rw [hproperty]
    · rw [Bool.not_eq_true', ← Bool.not_eq_true, any_formerNames]
      exact hne

/-! ### Compared values -/

namespace Profile

variable {p q : Profile} {k : Key}

/-- The effective value of a property; that of the port type is the one under its former name if it
has none under its own. -/
def folded? (p : Profile) (k : Key) : Option Value :=
  if k = .portType then (p.effective? .portType).or (p.effective? .slaveType) else p.effective? k

lemma compared?_eq_folded? (p : Profile) (k : Key) : p.compared? k = p.folded? k := by
  rw [compared?, folded?, formerNames, List.lookup_cons]
  by_cases hk : k = .portType
  · rw [if_pos hk, beq_iff_eq.mpr hk, hk]
  · rw [if_neg hk, beq_false_of_ne hk]
    rfl

/-- Profiles with the same effective values of inferrable properties compare as the same. -/
lemma folded?_congr (h : ∀ k, k.Inferrable → p.effective? k = q.effective? k) (hk : k.Inferrable) :
    p.folded? k = q.folded? k := by
  rw [folded?, folded?]
  split
  · next hport => rw [← hport, h k hk, h _ Key.inferrable_slaveType]
  · exact h k hk

/-- Of a setting that neither profile holds, both have the defaults. -/
lemma folded?_eq_of_absent (hp : p.settings.get? k.setting = none)
    (hq : q.settings.get? k.setting = none) : p.folded? k = q.folded? k := by
  have heffective : ∀ k', k'.setting = k.setting → p.effective? k' = q.effective? k' := by
    intro k' hk'
    refine effective?_eq_of_get?_eq ?_
    rw [get?_of_settings_eq_none (hk' ▸ hp), get?_of_settings_eq_none (hk' ▸ hq)]
  rw [folded?, folded?]
  split
  · next hport =>
    -- the former name of the port type belongs to the same setting
    rw [heffective .portType (hport ▸ rfl), heffective .slaveType (hport ▸ rfl)]
  · exact heffective k rfl

end Profile

namespace Difference

variable {generated candidate : Profile} {k : Key}

/-! ### Entries -/

/-- One comparison enters its key if the values differ, and changes no other. -/
lemma get?_compareKey (generated candidate : Profile) (d : Difference) (k k' : Key) :
    (compareKey generated candidate d k').get? k =
      if k = k' ∧ generated.folded? k ≠ candidate.folded? k
      then some (generated.folded? k, candidate.folded? k) else d.get? k := by
  simp only [compareKey, Profile.compared?_eq_folded?]
  by_cases hk : k = k'
  · subst hk
    by_cases hvalue : generated.folded? k = candidate.folded? k
    · simp [hvalue]
    · simp [hvalue, get?_insert]
  · by_cases hvalue : generated.folded? k' = candidate.folded? k'
    · simp [hvalue, hk]
    · simp [hvalue, hk, get?_insert]

/-- Comparisons in turn enter those of their keys whose values differ. -/
lemma get?_foldl_compareKey (generated candidate : Profile) (ks : List Key) (d : Difference)
    (k : Key) :
    (ks.foldl (compareKey generated candidate) d).get? k =
      if k ∈ ks ∧ generated.folded? k ≠ candidate.folded? k
      then some (generated.folded? k, candidate.folded? k) else d.get? k := by
  induction ks generalizing d with
  | nil => simp
  | cons k' ks ih =>
      rw [List.foldl_cons, ih, get?_compareKey]
      by_cases hmem : k ∈ ks
      · have hmem' : k ∈ k' :: ks := List.mem_cons_of_mem k' hmem
        by_cases hvalue : generated.folded? k = candidate.folded? k
        · simp [hvalue]
        · rw [if_pos ⟨hmem, hvalue⟩, if_pos ⟨hmem', hvalue⟩]
      · rw [if_neg fun h => hmem h.1]
        simp [hmem]

/-- **The entry of a key**: the difference holds the two values of a compared key if they are not
the same. -/
lemma get?_between (generated candidate : Profile) (k : Key) :
    (between generated candidate).get? k =
      if k.Compared ∧ generated.folded? k ≠ candidate.folded? k
      then some (generated.folded? k, candidate.folded? k) else none := by
  rw [between, get?_foldl_compareKey, get?_empty]
  refine if_congr (and_congr_left fun hvalue => ?_) rfl rfl
  rw [List.mem_flatMap]
  constructor
  · rintro ⟨setting, -, hk⟩
    exact (mem_comparedKeys_iff.mp hk).2
  · intro hk
    refine ⟨k.setting, ?_, mem_comparedKeys_iff.mpr ⟨rfl, hk⟩⟩
    -- a setting that neither side holds has the defaults on both
    by_contra hnames
    rw [List.mem_append, not_or] at hnames
    have hgenerated := Table.get?_eq_none_of_notMem_names hnames.1
    have hcandidate := Table.get?_eq_none_of_notMem_names hnames.2
    exact hvalue (Profile.folded?_eq_of_absent hgenerated hcandidate)

/-- A key differs if it is compared and its values are not the same. -/
lemma contains_between_iff :
    (between generated candidate).contains k = true ↔
      k.Compared ∧ generated.folded? k ≠ candidate.folded? k := by
  rw [contains, get?_between]
  by_cases hk : k.Compared ∧ generated.folded? k ≠ candidate.folded? k
  · rw [if_pos hk]
    exact iff_of_true rfl hk
  · rw [if_neg hk]
    exact iff_of_false Bool.false_ne_true hk

/-- A key whose values stand for what is the same only if they are differs exactly if that does. -/
lemma contains_between_iff_of_injective {α : Type} {wrap : α → Option Value} {x y : α}
    (hwrap : Function.Injective wrap) (hk : k.Compared) (hx : generated.folded? k = wrap x)
    (hy : candidate.folded? k = wrap y) :
    (between generated candidate).contains k = true ↔ x ≠ y := by
  rw [contains_between_iff, hx, hy, hwrap.ne_iff]
  exact and_iff_right hk

/-- Nothing differs exactly if all compared keys have the same values. -/
lemma isEmpty_between_iff :
    (between generated candidate).isEmpty = true ↔
      ∀ k, k.Compared → generated.folded? k = candidate.folded? k := by
  rw [(tidy_between generated candidate).isEmpty_iff]
  refine forall_congr' fun k => ?_
  rw [contains_eq_false_iff, get?_between]
  simp

/-- **The difference depends on values of inferrable properties alone.** -/
lemma between_congr {generated' candidate' : Profile}
    (h : ∀ k, k.Inferrable → generated.effective? k = generated'.effective? k)
    (h' : ∀ k, k.Inferrable → candidate.effective? k = candidate'.effective? k) :
    between generated candidate = between generated' candidate' := by
  refine (tidy_between _ _).ext (tidy_between _ _) fun k => ?_
  rw [get?_between, get?_between]
  by_cases hk : k.Compared
  · rw [Profile.folded?_congr h hk.1, Profile.folded?_congr h' hk.1]
  · rw [if_neg fun hand => hk hand.1, if_neg fun hand => hk hand.1]

/-! ### Sides -/

/-- The difference with the sides exchanged. -/
def swap (d : Difference) : Difference :=
  ⟨d.settings.mapValues fun props => props.mapValues Prod.swap⟩

lemma get?_swap (d : Difference) (k : Key) : d.swap.get? k = (d.get? k).map Prod.swap := by
  rw [get?, swap, Table.get?_mapValues, get?]
  cases d.settings.get? k.setting with
  | none => rfl
  | some props => exact Table.get?_mapValues Prod.swap props k.property

lemma Tidy.swap {d : Difference} (h : d.Tidy) : d.swap.Tidy := by
  rw [tidy_iff] at h ⊢
  intro setting props hget
  rw [Difference.swap, Table.get?_mapValues] at hget
  obtain ⟨props', hprops', rfl⟩ := Option.map_eq_some_iff.mp hget
  rw [← h setting props' hprops', Table.isEmpty_mapValues]

/-- **The sides can be exchanged.** -/
lemma between_swap (generated candidate : Profile) :
    between candidate generated = (between generated candidate).swap := by
  refine (tidy_between _ _).ext (tidy_between _ _).swap fun k => ?_
  rw [get?_swap, get?_between, get?_between]
  by_cases hk : k.Compared ∧ generated.folded? k ≠ candidate.folded? k
  · rw [if_pos hk, if_pos ⟨hk.1, hk.2.symm⟩]
    rfl
  · rw [if_neg hk, if_neg fun h => hk ⟨h.1, h.2.symm⟩]
    rfl

/-! ### The whole of it -/

/-- Profiles with the same effective values of inferrable properties can stand in for one another on
either side of a comparison. -/
lemma between_congr_both {p p' : Profile}
    (h : ∀ k, k.Inferrable → p.effective? k = p'.effective? k) (q : Profile) :
    between p q = between p' q ∧ between q p = between q p' :=
  ⟨between_congr h fun _ _ => rfl, between_congr (fun _ _ => rfl) h⟩

/-- To have no difference is an equivalence: it is to have the same compared values. -/
lemma equivalence_isEmpty_between :
    Equivalence fun p q : Profile => (between p q).isEmpty = true where
  refl _ := isEmpty_between_iff.mpr fun _ _ => rfl
  symm h := isEmpty_between_iff.mpr fun k hk => (isEmpty_between_iff.mp h k hk).symm
  trans h h' := isEmpty_between_iff.mpr fun k hk =>
    (isEmpty_between_iff.mp h k hk).trans (isEmpty_between_iff.mp h' k hk)

/-- **Differ specification**: the difference holds exactly the compared keys whose values are not
the same, with these two values, and is empty if there is no such key. Nothing else has an effect:
only effective values of inferrable properties count, so that neither the presence of a setting nor
the value of any other property shows. The sides can be exchanged, and to have no difference is an
equivalence. -/
theorem get?_between_iff_and_equivalence :
    (∀ (generated candidate : Profile) (k : Key) (c : Change),
      (between generated candidate).get? k = some c ↔
        k.Compared ∧ generated.folded? k ≠ candidate.folded? k
          ∧ c = (generated.folded? k, candidate.folded? k))
    ∧ (∀ generated candidate : Profile, (between generated candidate).isEmpty = true ↔
        ∀ k, (between generated candidate).get? k = none)
    ∧ (∀ p p' : Profile, (∀ k, k.Inferrable → p.effective? k = p'.effective? k) →
        ∀ q, between p q = between p' q ∧ between q p = between q p')
    ∧ (∀ (p : Profile) (setting : String) (q : Profile),
        between (p.addSetting setting) q = between p q
          ∧ between q (p.addSetting setting) = between q p)
    ∧ (∀ (p : Profile) (k : Key) (v : Value), ¬ k.Inferrable →
        ∀ q, between (p.set k v) q = between p q ∧ between q (p.set k v) = between q p)
    ∧ (∀ generated candidate : Profile,
        between candidate generated = (between generated candidate).swap)
    ∧ Equivalence fun p q : Profile => (between p q).isEmpty = true := by
  refine ⟨?_, ?_, fun p p' h q => between_congr_both h q, ?_, ?_, between_swap,
    equivalence_isEmpty_between⟩
  · intro generated candidate k c
    rw [get?_between]
    by_cases hk : k.Compared ∧ generated.folded? k ≠ candidate.folded? k
    · rw [if_pos hk, Option.some.injEq, eq_comm]
      exact ⟨fun hc => ⟨hk.1, hk.2, hc⟩, fun h => h.2.2⟩
    · rw [if_neg hk]
      exact ⟨fun h => absurd h (by simp), fun h => absurd ⟨h.1, h.2.1⟩ hk⟩
  · intro generated candidate
    rw [(tidy_between generated candidate).isEmpty_iff]
    exact forall_congr' fun k => contains_eq_false_iff
  · intro p setting q
    exact between_congr_both
      (fun k _ => Profile.effective?_eq_of_get?_eq (p.get?_addSetting setting k)) q
  · intro p k v hk q
    refine between_congr_both (fun k' hk' => ?_) q
    have hne : k' ≠ k := fun heq => hk (heq ▸ hk')
    rw [Profile.effective?_set, if_neg hne]

/-- The port type by its former name on one side and by its present one on the other, where both say
the same, beside a setting that only one side holds and that the schema does not know. -/
example :
    let generated := (Profile.empty.set .slaveType (.text "bond")).set ⟨"user", "data"⟩ (.int 1)
    let candidate := (Profile.empty.set .portType (.text "bond")).addSetting "ipv4"
    between generated candidate = empty := by
  decide +kernel

end Difference

end ProfileMatch
