import Mathlib.Tactic.Common
import ProfileMatch.Matching.Identifier
import ProfileMatch.Proofs.Matching.Residue
import ProfileMatch.Proofs.Matching.WellFormed
/-!
The rule for channels on profiles that were read: it can reject a candidate, and do nothing else.

* `Waiver.run_apply_channels`: whatever is left of the difference from a well-formed candidate, the
  rule fails exactly if a key of channels is in it, and takes nothing out;
* `isPossibleMatch_eq_false_of_channels`: so no candidate is a possible match where channels differ;
* `channels_rejects_iff_contains`: both, for candidates that were read.
-/

namespace ProfileMatch

section Channels

variable {generated candidate : Profile} {d : Difference}

/-- **Fail or nothing**: on a part of the difference from a well-formed candidate the rule for
channels fails if one of its keys is there, and leaves the difference as it is in any case. -/
lemma Waiver.run_apply_channels (hc : candidate.WellFormed)
    (hd : ∀ k, d.contains k = true → (Difference.between generated candidate).contains k = true)
    (ctx : WaiverContext) (cache : RouteCache ctx.options generated) :
    ((channels.apply ctx generated candidate d).run cache).1
      = (!channels.scope.touches d, d) := by
  rw [apply_run_fst, outcome]
  cases htouch : channels.scope.touches d with
  | false => rfl
  | true =>
      obtain ⟨k, hk, hcontains⟩ := List.any_eq_true.mp htouch
      have hfails : channels.excused ctx generated candidate = false :=
        excusesChannels_eq_false_of_contains hc hk (hd k hcontains)
      rw [hfails]
      rfl

/-- Where a key of channels differs from a well-formed candidate, that is no possible match. -/
lemma isPossibleMatch_eq_false_of_channels (hc : candidate.WellFormed) {k : Key}
    (hk : Waiver.channels.Owns k)
    (hcontains : (Difference.between generated candidate).contains k = true) (options : Options)
    (lookup : Lookup) : isPossibleMatch generated candidate options lookup = false := by
  rw [← Bool.not_eq_true, isPossibleMatch_iff_forall_owner]
  intro hall
  obtain ⟨w, -, howns, hcond⟩ := hall k hcontains
  have hw : w = .channels := Waiver.eq_of_owns howns (Waiver.owns_scope_iff.mpr hk)
  subst hw
  have hlisted : k ∈ Waiver.channels.listed := by
    simpa [Waiver.listed, Waiver.scope, Waiver.Owns] using hk
  have hfails : Waiver.channels.excused ⟨options, lookup⟩ generated candidate = false :=
    Waiver.excusesChannels_eq_false_of_contains hc hlisted hcontains
  exact Bool.false_ne_true (hfails.symm.trans hcond)

/-- **The rule for channels can only reject.** For a candidate that was read, on whatever part of
its difference from a generated profile the rule is tried, whatever options and stored profiles
there are and whatever routes are sorted already, it fails exactly if channels, type or options of
the channel subsystem are in it, and never takes anything out. So its condition holds for no
difference that it is asked about, and a candidate in which one of the three differs is no possible
match. -/
theorem channels_rejects_iff_contains {v : Json} (hread : Profile.ofJson v = .ok candidate)
    (generated : Profile) (options : Options) (lookup : Lookup) :
    (∀ d : Difference,
        (∀ k, d.contains k = true → (Difference.between generated candidate).contains k = true) →
        ∀ cache : RouteCache options generated,
          let after :=
            ((Waiver.channels.apply ⟨options, lookup⟩ generated candidate d).run cache).1
          (after.1 = false ↔
              ∃ k ∈ [Key.subchannels, .nettype, .channelOptions], d.contains k = true)
            ∧ after.2 = d)
      ∧ ∀ k ∈ [Key.subchannels, .nettype, .channelOptions],
          (Difference.between generated candidate).contains k = true →
            Waiver.excusesChannels generated candidate = false
              ∧ isPossibleMatch generated candidate options lookup = false := by
  have hc := Profile.wellFormed_of_ofJson hread
  constructor
  · intro d hd cache after
    have hafter : after = (!Waiver.channels.scope.touches d, d) :=
      Waiver.run_apply_channels hc hd ⟨options, lookup⟩ cache
    rw [hafter]
    refine ⟨?_, rfl⟩
    rw [Bool.not_eq_false', Waiver.scope, Scope.touches, List.any_eq_true]
  · intro k hk hcontains
    refine ⟨Waiver.excusesChannels_eq_false_of_contains hc hk hcontains, ?_⟩
    have howns : Waiver.channels.Owns k := by simpa [Waiver.Owns] using hk
    exact isPossibleMatch_eq_false_of_channels hc howns hcontains options lookup

/-- A candidate with a type of the channel subsystem and no options, and a generated profile without
the setting. -/
theorem channels_rejects_nettype :
    let v : Json := .object
      [("802-3-ethernet", .object
        [("s390-nettype", .string "qeth"), ("s390-options", .object []), ("mtu", .string "0")])]
    let candidate := (((Profile.empty.set ⟨"802-3-ethernet", "mtu"⟩ (.int 0)).set .nettype
      (.text "qeth")).set .channelOptions (.map .empty))
    let d := Difference.between .empty candidate
    Profile.ofJson v = .ok candidate
      ∧ d.keys = [.nettype]
      ∧ (∀ k, d.contains k = true → (Difference.between .empty candidate).contains k = true)
      ∧ ((Waiver.channels.apply ⟨.default, .among isUuid []⟩ .empty candidate d).run .fresh).1
        = (false, d)
      ∧ isPossibleMatch .empty candidate .default (.among isUuid []) = false := by
  intro v candidate d
  have hread : Profile.ofJson v = .ok candidate := eq_ok_of_toOption (by decide +kernel)
  have hkeys : d.keys = [.nettype] := by decide +kernel
  have hin : d.contains .nettype = true := by
    rw [← Difference.mem_keys_iff, hkeys]
    exact List.mem_cons_self
  obtain ⟨hrule, hreject⟩ :=
    channels_rejects_iff_contains hread .empty .default (.among isUuid [])
  obtain ⟨hfails, hleft⟩ := hrule d (fun _ h => h) .fresh
  exact ⟨hread, hkeys, fun _ h => h,
    Prod.ext (hfails.mpr ⟨.nettype, by simp, hin⟩) hleft,
    (hreject .nettype (by simp) hin).2⟩

/-- A difference that no comparison makes: an entry for channels, beside a candidate that says
nothing of them. The rule takes it out. -/
example :
    let candidate := Profile.empty.set ⟨"802-3-ethernet", "mtu"⟩ (.int 0)
    let d := Difference.empty.insert .subchannels (none, some (.list []))
    ((Waiver.channels.apply ⟨.default, .among isUuid []⟩ .empty candidate d).run .fresh).1
      = (true, .empty) := by
  decide +kernel

end Channels

end ProfileMatch
