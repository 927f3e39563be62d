import Mathlib.Tactic.Common
import ProfileMatch.Proofs.Difference.Comparison
import ProfileMatch.Proofs.Profile.WellFormed
import ProfileMatch.Proofs.Reading
/-!
Accessors of profiles and defaults of the schema.

The accessors have fallbacks of their own for what is not stored, and the difference between two
profiles goes by the defaults of the schema. On profiles that were read both say the same.

* `Profile.textAccessors`: the accessors of texts that have no default;
* `Profile.AccessorsAgree`: what each accessor says is the effective value of its property;
* `Profile.WellFormed.accessorsAgree`: so it is on well-formed profiles;
* `Profile.AccessorsAgree.contains_ipMethod_iff`, `contains_subchannels_iff`,
  `contains_textAccessor_iff`: hence a property differs exactly if its accessor does;
* `Profile.accessorsAgree_of_ofJson`: all of this for profiles that were read.
-/

namespace ProfileMatch.Profile

/-- The accessors of texts that have no default, with the properties that they read. -/
def textAccessors : List (Key × (Profile → Option String)) :=
  [(.connectionType, type?), (.interfaceName, interfaceName?), (.wiredMac, wiredMac?),
   (.clonedMac, clonedMac?), (.infinibandMac, infinibandMac?), (.nettype, nettype?)]

/-- **Accessors agree with the schema**: what they say is the effective value, so that the fallback
of an accessor is the default of the schema, and a text is unset exactly if it has no effective
value. The default of routes is a list of texts; where it is effective, there are none. -/
structure AccessorsAgree (p : Profile) : Prop where
  ipMethod : ∀ f, p.effective? (.ipMethod f) = some (.text (p.ipMethod f))
  ipMayFail : ∀ f, p.effective? (.ipMayFail f) = some (.bool ((p.ipMayFail? f).getD true))
  routeMetric : ∀ f, p.effective? (.ipRouteMetric f) = some (.int (p.routeMetric f))
  ipRoutes : ∀ f, p.effective? (.ipRoutes f) = some (.routes (p.ipRoutes f))
    ∨ p.get? (.ipRoutes f) = none ∧ p.effective? (.ipRoutes f) = some (.list [])
      ∧ p.ipRoutes f = []
  subchannels : p.effective? .subchannels = some (.list p.subchannels)
  channelOptions : ∃ entries, p.effective? .channelOptions = some (.map entries)
    ∧ p.channelOptionCount = entries.size
  text : ∀ a ∈ textAccessors, p.effective? a.1 = (a.2 p).map .text

variable {p q : Profile} {a : Key × (Profile → Option String)}

/-! ### Well-formed profiles -/

/-- Each accessor of texts reads its property, which is a text without a default. -/
lemma textAccessors_cases (ha : a ∈ textAccessors) :
    a.2 = (fun p => p.text? a.1)
      ∧ (Property.of? a.1).map (fun q => (q.kind, q.default)) = some (.text, none)
      ∧ a.1.Compared ∧ a.1 ≠ .portType := by
  simp only [textAccessors, List.mem_cons, List.not_mem_nil, or_false] at ha
  rcases ha with rfl | rfl | rfl | rfl | rfl | rfl <;> exact ⟨rfl, by decide⟩

/-- The effective routes of a well-formed profile are those that it stores, or else the default. -/
lemma WellFormed.effective?_ipRoutes (h : p.WellFormed) (f : Family) :
    p.effective? (.ipRoutes f) = some (.routes (p.ipRoutes f))
      ∨ p.get? (.ipRoutes f) = none ∧ p.effective? (.ipRoutes f) = some (.list [])
        ∧ p.ipRoutes f = [] := by
  have hdefault : (Property.of? (.ipRoutes f)).map (fun q => (q.kind, q.default))
      = some (.routes, some (.list [])) := by
    cases f <;> decide
  have hstored := h.get?_eq_map (k := .ipRoutes f) (fun _ => Value.map_routes?_of_kind)
    (by cases f <;> decide)
  rw [h.effective?_eq_or (fun _ => Value.map_routes?_of_kind) hdefault, Profile.ipRoutes]
  cases hread : (p.get? (.ipRoutes f)).bind Value.routes? with
  | none =>
      rw [hread] at hstored
      exact .inr ⟨hstored, rfl, rfl⟩
  | some rs => exact .inl rfl

/-- **On well-formed profiles accessors agree with the schema.** -/
lemma WellFormed.accessorsAgree (h : p.WellFormed) : p.AccessorsAgree where
  ipMethod f := h.effective?_eq_getD (fun _ => Value.map_text?_of_kind) (by cases f <;> decide)
  ipMayFail f := by
    rw [getD_ipMayFail?]
    exact h.effective?_eq_getD (fun _ => Value.map_bool?_of_kind) (by cases f <;> decide)
  routeMetric f := h.effective?_eq_getD (fun _ => Value.map_int?_of_kind) (by cases f <;> decide)
  ipRoutes := h.effective?_ipRoutes
  subchannels := h.effective?_eq_getD (fun _ => Value.map_list?_of_kind) (by decide)
  channelOptions := by
    have hdefault : (Property.of? .channelOptions).map (fun q => (q.kind, q.default))
        = some (.map, some (.map .empty)) := by
      decide
    refine ⟨_, h.effective?_eq_getD (fun _ => Value.map_map?_of_kind) hdefault, ?_⟩
    rw [channelOptionCount]
    cases (p.get? .channelOptions).bind Value.map? <;> rfl
  text a ha := by
    obtain ⟨haccessor, hproperty, -⟩ := textAccessors_cases ha
    rw [haccessor]
    exact h.effective?_of_text hproperty

/-! ### Differences -/

namespace AccessorsAgree

/-- The methods differ as properties exactly if they do as accessors give them. -/
lemma contains_ipMethod_iff (hp : p.AccessorsAgree) (hq : q.AccessorsAgree) (f : Family) :
    (Difference.between p q).contains (.ipMethod f) = true ↔ p.ipMethod f ≠ q.ipMethod f := by
  have hkey : (Key.ipMethod f).Compared ∧ Key.ipMethod f ≠ .portType := by cases f <;> decide
  have hinjective : Function.Injective fun s => some (Value.text s) :=
    fun _ _ h => Value.text.inj (Option.some.inj h)
  refine Difference.contains_between_iff_of_injective hinjective hkey.1 ?_ ?_
  · rw [folded?, if_neg hkey.2, hp.ipMethod]
  · rw [folded?, if_neg hkey.2, hq.ipMethod]

/-- And so do the channels. -/
lemma contains_subchannels_iff (hp : p.AccessorsAgree) (hq : q.AccessorsAgree) :
    (Difference.between p q).contains .subchannels = true ↔ p.subchannels ≠ q.subchannels := by
  have hinjective : Function.Injective fun items => some (Value.list items) :=
    fun _ _ h => Value.list.inj (Option.some.inj h)
  refine Difference.contains_between_iff_of_injective hinjective (by decide) ?_ ?_
  · rw [folded?, if_neg (by decide), hp.subchannels]
  · rw [folded?, if_neg (by decide), hq.subchannels]

/-- And so do texts without a default. -/
lemma contains_textAccessor_iff (hp : p.AccessorsAgree) (hq : q.AccessorsAgree)
    (ha : a ∈ textAccessors) :
    (Difference.between p q).contains a.1 = true ↔ a.2 p ≠ a.2 q := by
  obtain ⟨-, -, hcompared, hport⟩ := textAccessors_cases ha
  refine Difference.contains_between_iff_of_injective Value.map_text_injective hcompared ?_ ?_
  · rw [folded?, if_neg hport, hp.text a ha]
  · rw [folded?, if_neg hport, hq.text a ha]

end AccessorsAgree

/-- **Accessors and schema tell the same** on every profile that was read, whatever in it is absent,
null, empty or written out with its default. So between two such profiles the method of a family,
the channels and each text without a default are in the difference exactly if the accessors, by
which rules go, tell the two profiles apart. -/
theorem accessorsAgree_of_ofJson {v : Json} (h : ofJson v = .ok p) :
    p.AccessorsAgree
      ∧ ∀ v' q, ofJson v' = .ok q →
        (∀ f, (Difference.between p q).contains (.ipMethod f) = true ↔
            p.ipMethod f ≠ q.ipMethod f)
          ∧ ((Difference.between p q).contains .subchannels = true ↔
            p.subchannels ≠ q.subchannels)
          ∧ ∀ a ∈ textAccessors,
            (Difference.between p q).contains a.1 = true ↔ a.2 p ≠ a.2 q := by
  have hp := (wellFormed_of_ofJson h).accessorsAgree
  refine ⟨hp, fun v' q h' => ?_⟩
  have hq := (wellFormed_of_ofJson h').accessorsAgree
  exact ⟨hp.contains_ipMethod_iff hq, hp.contains_subchannels_iff hq,
    fun a => hp.contains_textAccessor_iff hq⟩

/-- Properties that are null, empty, written out with their defaults and left out, against ones that
are set. -/
theorem accessorsAgree_of_ofJson_defaults :
    let v : Json := .object
      [("ipv4", .object
        [("method", .string ""), ("may-fail", .null), ("route-metric", .string "-1"),
         ("routes", .array [])]),
       ("802-3-ethernet", .object
        [("mac-address", .string ""), ("s390-options", .object [("layer2", .int 1)])])]
    let v' : Json := .object
      [("ipv4", .object [("method", .string "auto"), ("may-fail", .string "no")]),
       ("802-3-ethernet", .object
        [("mac-address", .string "00:11:22:33:44:55"), ("s390-subchannels", .string "0.0.8000,")])]
    ∃ p q, ofJson v = .ok p ∧ ofJson v' = .ok q ∧ p.AccessorsAgree
      ∧ p.effective? (.ipMayFail .v6) = some (.bool true)
      ∧ (Difference.between p q).contains (.ipMethod .v4) = false
      ∧ (Difference.between p q).contains .subchannels = true
      ∧ (Difference.between p q).contains .wiredMac = true := by
  intro v v'
  obtain ⟨p, hp, hvalues⟩ := exists_eq_ok_of_map_toOption (x := ofJson v)
    (f := fun p => (p.ipMethod .v4, p.ipMayFail? .v6, p.subchannels, p.wiredMac?))
    (b := ("auto", none, [], none)) (by decide +kernel)
  obtain ⟨q, hq, hvalues'⟩ := exists_eq_ok_of_map_toOption (x := ofJson v')
    (f := fun q => (q.ipMethod .v4, q.subchannels, q.wiredMac?))
    (b := ("auto", ["0.0.8000"], some "00:11:22:33:44:55")) (by decide +kernel)
  simp only [Prod.mk.injEq] at hvalues hvalues'
  obtain ⟨hmethod, hmayFail, hchannels, hmac⟩ := hvalues
  obtain ⟨hmethod', hchannels', hmac'⟩ := hvalues'
  obtain ⟨hagree, hothers⟩ := accessorsAgree_of_ofJson hp
  obtain ⟨hmethods, hsubchannels, htexts⟩ := hothers v' q hq
  refine ⟨p, q, hp, hq, hagree, ?_, ?_, ?_, ?_⟩
  · rw [hagree.ipMayFail, hmayFail]
    rfl
  · rw [← Bool.not_eq_true, hmethods, hmethod, hmethod']
    exact not_not_intro rfl
  · rw [hsubchannels, hchannels, hchannels']
    decide
  · refine (htexts (.wiredMac, wiredMac?) (by simp [textAccessors])).mpr ?_
    change p.wiredMac? ≠ q.wiredMac?
    rw [hmac, hmac']
    decide

end ProfileMatch.Profile
