import Mathlib.Tactic.Common
import ProfileMatch.Proofs.Matching.RouteWaiver
/-!
When a candidate is accepted: every property that differs is excused on its own.

* `Excused`: the table of excuses, by key. A line reads the two profiles, the options and the stored
  profiles, and nothing of the difference but the key it is for;
* `exists_owner_excused_iff`: a line of the table holds for a key exactly if the condition of the
  rule holds in whose scope the key is;
* `isPossibleMatch_iff_forall_excused`: the rules, which take keys out of one difference in turn and
  may fail at any of them, accept what the table accepts.
-/

namespace ProfileMatch

/-- A candidate accepts that a family stays without an address: it has no setting for the family, or
one that says so. -/
def Tolerates (candidate : Profile) (f : Family) : Prop :=
  candidate.hasSetting f.name = false ∨ candidate.ipMayFail? f = some true

/-- **The table of excuses** for properties in which a generated profile and a candidate differ. -/
inductive Excused (options : Options) (lookup : Lookup) (generated candidate : Profile) : Key → Prop
  /-- Hints for the choice of a device are no state. -/
  | hint (property : String) : Excused options lookup generated candidate ⟨Key.hints, property⟩
  | linkLocal (present : generated.ipMethod .v6 = "link-local")
      (wanted : candidate.ipMethod .v6 = "auto") (tolerates : Tolerates candidate .v6) :
      Excused options lookup generated candidate (.ipMethod .v6)
  | ignored (present : generated.ipMethod .v6 ∈ ["link-local", "disabled", "auto"])
      (wanted : candidate.ipMethod .v6 = "ignore") :
      Excused options lookup generated candidate (.ipMethod .v6)
  | withoutCarrier (present : generated.ipMethod .v4 = "disabled")
      (wanted : candidate.ipMethod .v4 = "auto") (tolerates : Tolerates candidate .v4)
      (carrier : options.hasCarrier = false) :
      Excused options lookup generated candidate (.ipMethod .v4)
  | routes (f : Family)
      (matching : Route.Matches (options.metric f)
        (if candidate.routeMetric f = -1 then options.metric f else candidate.routeMetric f)
        f.width (generated.ipRoutes f) (candidate.ipRoutes f)) :
      Excused options lookup generated candidate (.ipRoutes f)
  | interfaceName (unset : generated.interfaceName? = none ∨ candidate.interfaceName? = none) :
      Excused options lookup generated candidate .interfaceName
  | wiredMac (unset : generated.wiredMac? = none ∨ candidate.wiredMac? = none) :
      Excused options lookup generated candidate .wiredMac
  | infinibandMac (unset : generated.infinibandMac? = none ∨ candidate.infinibandMac? = none) :
      Excused options lookup generated candidate .infinibandMac
  /-- A symbolic value of the generated profile counts as unset, one of the candidate does not. -/
  | clonedMac (unset : generated.clonedMac? = none
      ∨ (∃ m ∈ ["preserve", "permanent", "random", "stable", "stable-ssid"],
          generated.clonedMac? = some m)
      ∨ candidate.clonedMac? = none) :
      Excused options lookup generated candidate .clonedMac
  /-- Both names of the controller go by the controllers, whichever of them differs. -/
  | controller {k : Key} (key : k = .controller ∨ k = .master) {present wanted : String}
      (hpresent : generated.controller? = some present)
      (hwanted : candidate.controller? = some wanted)
      (same : present = wanted ∨ lookup.isIdentifier present = true
        ∧ ∃ p, lookup.find? present = some p ∧ p.interfaceName? = some wanted) :
      Excused options lookup generated candidate k
  | channels {k : Key} (key : k = .subchannels ∨ k = .nettype ∨ k = .channelOptions)
      (absent : generated.hasSetting Key.wired = false)
      (present : candidate.hasSetting Key.wired = true)
      (subchannels : candidate.subchannels = []) (nettype : candidate.nettype? = none)
      (count : candidate.channelOptionCount = 0) :
      Excused options lookup generated candidate k

/-! ### Conditions of the rules -/

namespace Waiver

variable {options : Options} {lookup : Lookup} {generated candidate : Profile} {f : Family}

lemma mayFail_iff : mayFail candidate f = true ↔ Tolerates candidate f := by
  rw [mayFail, Tolerates, Profile.hasSetting, Table.contains, Profile.ipMayFail?]
  cases candidate.settings.get? f.name <;> simp

lemma excusesMethod6_iff :
    excusesMethod6 generated candidate = true ↔
      (generated.ipMethod .v6 = "link-local" ∧ candidate.ipMethod .v6 = "auto"
          ∧ Tolerates candidate .v6)
        ∨ generated.ipMethod .v6 ∈ ["link-local", "disabled", "auto"]
          ∧ candidate.ipMethod .v6 = "ignore" := by
  simp only [excusesMethod6, Bool.or_eq_true, Bool.and_eq_true, beq_iff_eq, mayFail_iff,
    List.contains_iff_mem, and_assoc]

lemma excusesMethod4_iff :
    excusesMethod4 options generated candidate = true ↔
      generated.ipMethod .v4 = "disabled" ∧ candidate.ipMethod .v4 = "auto"
        ∧ Tolerates candidate .v4 ∧ options.hasCarrier = false := by
  simp only [excusesMethod4, Bool.and_eq_true, beq_iff_eq, mayFail_iff, Bool.not_eq_true',
    and_assoc]

lemma eitherUnset_iff {present wanted : Option String} :
    eitherUnset present wanted = true ↔ present = none ∨ wanted = none := by
  rw [eitherUnset, Bool.or_eq_true, Option.isNone_iff_eq_none, Option.isNone_iff_eq_none]

lemma excusesClonedMac_iff :
    excusesClonedMac generated candidate = true ↔
      generated.clonedMac? = none ∨ (∃ m ∈ symbolicMacs, generated.clonedMac? = some m)
        ∨ candidate.clonedMac? = none := by
  rw [excusesClonedMac, eitherUnset_iff, ← or_assoc]
  refine or_congr_left ?_
  cases generated.clonedMac? with
  | none => simp
  | some m => simp [Option.filter_eq_none_iff]

lemma excusesController_iff :
    excusesController lookup generated candidate = true ↔
      ∃ present wanted, generated.controller? = some present ∧ candidate.controller? = some wanted
        ∧ (present = wanted ∨ lookup.isIdentifier present = true
          ∧ ∃ p, lookup.find? present = some p ∧ p.interfaceName? = some wanted) := by
  rw [excusesController]
  cases generated.controller? with
  | none => simp
  | some present =>
      cases candidate.controller? with
      | none => simp
      | some wanted => cases hfind : lookup.find? present <;> simp [hfind]

lemma excusesChannels_iff :
    excusesChannels generated candidate = true ↔
      generated.hasSetting Key.wired = false ∧ candidate.hasSetting Key.wired = true
        ∧ candidate.subchannels = [] ∧ candidate.nettype? = none
        ∧ candidate.channelOptionCount = 0 := by
  simp only [excusesChannels, Bool.and_eq_true, Bool.not_eq_true', List.isEmpty_iff,
    Option.isNone_iff_eq_none, beq_iff_eq, and_assoc]

end Waiver

/-! ### The table and the rules -/

section Table

variable (options : Options) (lookup : Lookup) (generated candidate : Profile)

/-- The condition of the rule in whose scope a key is makes a line of the table for the key. -/
lemma Excused.of_owner {w : Waiver} {k : Key} (hk : w.scope.owns k = true)
    (hcond : w.excused ⟨options, lookup⟩ generated candidate = true) :
    Excused options lookup generated candidate k := by
  rcases Waiver.owns_iff.mp hk with hk | ⟨-, hsetting⟩
  · cases w with
    | ipMethod f =>
        cases List.mem_singleton.mp hk
        cases f with
        | v4 =>
            obtain ⟨h, h', ht, hc⟩ := Waiver.excusesMethod4_iff.mp hcond
            exact .withoutCarrier h h' ht hc
        | v6 =>
            rcases Waiver.excusesMethod6_iff.mp hcond with ⟨h, h', ht⟩ | ⟨h, h'⟩
            · exact .linkLocal h h' ht
            · exact .ignored h h'
    | ipRoutes f =>
        cases List.mem_singleton.mp hk
        rw [Waiver.excused_ipRoutes] at hcond
        exact .routes f (Waiver.excusesRoutes_iff.mp hcond)
    | interfaceName =>
        cases List.mem_singleton.mp hk
        exact .interfaceName (Waiver.eitherUnset_iff.mp hcond)
    | wiredMac =>
        cases List.mem_singleton.mp hk
        exact .wiredMac (Waiver.eitherUnset_iff.mp hcond)
    | infinibandMac =>
        cases List.mem_singleton.mp hk
        exact .infinibandMac (Waiver.eitherUnset_iff.mp hcond)
    | clonedMac =>
        cases List.mem_singleton.mp hk
        exact .clonedMac (Waiver.excusesClonedMac_iff.mp hcond)
    | controller =>
        obtain ⟨present, wanted, h, h', hsame⟩ := Waiver.excusesController_iff.mp hcond
        exact .controller (by simpa [Waiver.listed, Waiver.scope] using hk) h h' hsame
    | channels =>
        obtain ⟨h, h', hs, hn, hc⟩ := Waiver.excusesChannels_iff.mp hcond
        exact .channels (by simpa [Waiver.listed, Waiver.scope] using hk) h h' hs hn hc
    | hints => exact absurd hk (by simp [Waiver.listed, Waiver.scope])
  · obtain ⟨setting, property⟩ := k
    cases hsetting
    exact .hint property

/-- **The table and the rules**: a line holds for a key exactly if the key is in the scope of a rule
whose condition holds. -/
lemma exists_owner_excused_iff {k : Key} :
    (∃ w ∈ Waiver.all, w.scope.owns k = true
        ∧ w.excused ⟨options, lookup⟩ generated candidate = true) ↔
      Excused options lookup generated candidate k := by
  constructor
  · rintro ⟨w, -, hk, hcond⟩
    exact .of_owner options lookup generated candidate hk hcond
  · have hrule : ∀ {w : Waiver}, k ∈ w.listed →
        w.excused ⟨options, lookup⟩ generated candidate = true →
        ∃ w ∈ Waiver.all, w.scope.owns k = true
          ∧ w.excused ⟨options, lookup⟩ generated candidate = true :=
      fun {w} hk hcond => ⟨w, w.mem_all, Waiver.owns_iff.mpr (.inl hk), hcond⟩
    intro h
    cases h with
    | hint property =>
        exact ⟨.hints, Waiver.mem_all _, Waiver.owns_iff.mpr (.inr ⟨rfl, rfl⟩), rfl⟩
    | linkLocal h h' ht =>
        exact hrule (w := .ipMethod .v6) (List.mem_singleton.mpr rfl)
          (Waiver.excusesMethod6_iff.mpr (.inl ⟨h, h', ht⟩))
    | ignored h h' =>
        exact hrule (w := .ipMethod .v6) (List.mem_singleton.mpr rfl)
          (Waiver.excusesMethod6_iff.mpr (.inr ⟨h, h'⟩))
    | withoutCarrier h h' ht hc =>
        exact hrule (w := .ipMethod .v4) (List.mem_singleton.mpr rfl)
          (Waiver.excusesMethod4_iff.mpr ⟨h, h', ht, hc⟩)
    | routes f hmatch =>
        refine hrule (w := .ipRoutes f) (List.mem_singleton.mpr rfl) ?_
        rw [Waiver.excused_ipRoutes]
        exact Waiver.excusesRoutes_iff.mpr hmatch
    | interfaceName h =>
        exact hrule (w := .interfaceName) (List.mem_singleton.mpr rfl)
          (Waiver.eitherUnset_iff.mpr h)
    | wiredMac h =>
        exact hrule (w := .wiredMac) (List.mem_singleton.mpr rfl) (Waiver.eitherUnset_iff.mpr h)
    | infinibandMac h =>
        exact hrule (w := .infinibandMac) (List.mem_singleton.mpr rfl)
          (Waiver.eitherUnset_iff.mpr h)
    | clonedMac h =>
        exact hrule (w := .clonedMac) (List.mem_singleton.mpr rfl)
          (Waiver.excusesClonedMac_iff.mpr h)
    | controller hk h h' hsame =>
        exact hrule (w := .controller) (by simpa [Waiver.listed, Waiver.scope] using hk)
          (Waiver.excusesController_iff.mpr ⟨_, _, h, h', hsame⟩)
    | channels hk h h' hs hn hc =>
        exact hrule (w := .channels) (by simpa [Waiver.listed, Waiver.scope] using hk)
          (Waiver.excusesChannels_iff.mpr ⟨h, h', hs, hn, hc⟩)

/-- **Declarative acceptance**: a candidate is a possible match exactly if the table excuses every
property in which it differs from the generated profile. -/
theorem isPossibleMatch_iff_forall_excused :
    isPossibleMatch generated candidate options lookup = true ↔
      ∀ k, (Difference.between generated candidate).contains k = true →
        Excused options lookup generated candidate k := by
  rw [isPossibleMatch_iff_forall_owner]
  exact forall₂_congr fun k _ => exists_owner_excused_iff options lookup generated candidate

end Table

end ProfileMatch
