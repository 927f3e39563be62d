import Mathlib.Tactic.Common
import ProfileMatch.Proofs.Route.Destination
import ProfileMatch.RoutingRule.Platform
/-!
The translation of policy routing rules for the platform.

* `InvalidOnly`: a stage of the translation fails with invalid arguments only;
* `PrefixOf`: a text writes a prefix of a family, with a length that the family has room for;
* `RoutingRule.HasFamily`: the family of a rule, declared or that of its first prefix;
* `RoutingRule.Fits`: the prefixes of a rule are of a family, and no range of it descends;
* `RoutingRule.Renders`: the parts of the rule for the platform, one by one; none of them depends on
  how the family is known;
* `RoutingRule.toPlatform_eq_ok_iff`: rules are translated as said by the family and the parts;
* `RoutingRule.exists_toPlatform_iff_and_renders`: hence which rules are translated, and to what;
* `RoutingRule.toPlatform_declare_iff`: declaring the family that a rule has by its prefixes changes
  nothing, and declaring the other one is refused.
-/

namespace ProfileMatch

/-! ### Kinds of faults -/

section Faults

variable {α β : Type} {x y : Except RuleFault α}

/-- A stage of the translation fails with invalid arguments only. -/
def InvalidOnly (x : Except RuleFault α) : Prop :=
  ∀ e, x = .error e → e.kind = .invalidArgument

lemma invalidOnly_ok {a : α} : InvalidOnly (.ok a) := by
  intro e h
  cases h

/-- Two stages in turn fail so if both do. -/
lemma InvalidOnly.bind {f : α → Except RuleFault β} (hx : InvalidOnly x)
    (hf : ∀ a, InvalidOnly (f a)) : InvalidOnly (x >>= f) := by
  cases x with
  | error e =>
      rintro _ ⟨⟩
      exact hx e rfl
  | ok a => exact hf a

lemma InvalidOnly.map {f : α → β} (hx : InvalidOnly x) : InvalidOnly (x.map f) :=
  hx.bind fun _ => invalidOnly_ok

end Faults

/-! ### Prefixes of a family -/

/-- A text writes an address of a family and a length that the family has room for; a length that is
left out is that of a single host. -/
structure PrefixOf (f : Family) (text : String) (a : Address) (n : ℕ) : Prop where
  family : a.family = f
  written : ∃ length?, WritesPrefix .u8 text a length? ∧ length?.getD f.width = n
  fits : n ≤ f.width

section Prefix

variable {f : Family} {wanted : Option Family} {text : String} {a : Address} {n : ℕ}
  {length? : Option ℕ}

lemma readPrefix_of_read?_eq_none (h : Address.read? (Route.cutPrefix text).1 = none) :
    readPrefix wanted text = .error ⟨.invalidArgument, .badAddress⟩ := by
  rw [readPrefix]
  simp only [h]
  rfl

/-- An address has to be of the family that is wanted, before its length is looked at. -/
lemma readPrefix_some_of_read? (h : Address.read? (Route.cutPrefix text).1 = some a) :
    readPrefix (some f) text
      = if f = a.family then readPrefix none text
        else .error ⟨.invalidArgument, .foreignPrefix text f⟩ := by
  rw [readPrefix, readPrefix]
  simp only [h]
  by_cases hfamily : f = a.family
  · rw [if_neg (not_not_intro hfamily), if_pos hfamily]
  · rw [if_pos hfamily, if_neg hfamily]
    rfl

/-- A prefix is read if the address has room for its length. -/
lemma readPrefix_of_writesPrefix (h : WritesPrefix .u8 text a length?) :
    readPrefix none text
      = if a.family.width < length?.getD a.family.width
        then .error ⟨.invalidArgument, .longLength text⟩
        else .ok (a, length?.getD a.family.width) := by
  rw [readPrefix]
  cases h with
  | host h =>
      simp only [Route.cutPrefix_of_notMem (Route.slash_notMem_of_read? h), h]
      rfl
  | network h hn =>
      simp only [Route.cutPrefix_append (Route.slash_notMem_of_read? h), h,
        IntegerRange.read?_eq_some_iff.mp hn]
      rfl

/-- Only prefixes are read. -/
lemma exists_writesPrefix_of_readPrefix (h : readPrefix none text = .ok (a, n)) :
    ∃ b length?, WritesPrefix .u8 text b length? := by
  cases haddress : Address.read? (Route.cutPrefix text).1 with
  | none =>
      rw [readPrefix_of_read?_eq_none haddress] at h
      cases h
  | some b =>
      rcases Route.cutPrefix_cases text with hcut | ⟨front, back, rfl, hcut⟩
      · rw [hcut] at haddress
        exact ⟨b, none, .host haddress⟩
      · rw [hcut] at haddress
        cases hlength : IntegerRange.u8.read back with
        | error e =>
            rw [readPrefix] at h
            simp only [hcut, haddress, hlength] at h
            cases h
        | ok i =>
            have hread := IntegerRange.read?_eq_some_iff.mpr hlength
            obtain ⟨m, rfl⟩ := IntegerRange.exists_nat_of_read? rfl (by decide) hread
            exact ⟨b, some m, .network haddress hread⟩

/-- Without a family wanted, a text is read as the prefix of some family that it writes. -/
lemma readPrefix_none_eq_ok_iff :
    readPrefix none text = .ok (a, n) ↔ PrefixOf a.family text a n := by
  constructor
  · intro h
    obtain ⟨b, length?, hwritten⟩ := exists_writesPrefix_of_readPrefix h
    rw [readPrefix_of_writesPrefix hwritten] at h
    split at h
    · cases h
    · next hfits =>
        cases h
        exact ⟨rfl, ⟨length?, hwritten, rfl⟩, Nat.le_of_not_lt hfits⟩
  · rintro ⟨-, ⟨length?, hwritten, rfl⟩, hfits⟩
    rw [readPrefix_of_writesPrefix hwritten, if_neg (Nat.not_lt_of_le hfits)]

/-- With a family wanted, a text is read as the prefix of that family that it writes. -/
lemma readPrefix_some_eq_ok_iff :
    readPrefix (some f) text = .ok (a, n) ↔ PrefixOf f text a n := by
  constructor
  · intro h
    cases haddress : Address.read? (Route.cutPrefix text).1 with
    | none =>
        rw [readPrefix_of_read?_eq_none haddress] at h
        cases h
    | some b =>
        rw [readPrefix_some_of_read? haddress] at h
        split at h
        · next hfamily =>
            -- the prefix is one of its own family, which is the one that is wanted
            have hpre := readPrefix_none_eq_ok_iff.mp h
            obtain ⟨length?, hwritten, -⟩ := hpre.written
            cases haddress.symm.trans (writesPrefix_iff.mp hwritten).1
            exact hfamily ▸ hpre
        · cases h
  · intro h
    obtain ⟨length?, hwritten, -⟩ := h.written
    rw [readPrefix_some_of_read? (writesPrefix_iff.mp hwritten).1, if_pos h.family.symm]
    exact readPrefix_none_eq_ok_iff.mpr (h.family ▸ h)

end Prefix

/-! ### Ranges of numbers -/

namespace NumberRange

/-- A range, if there is one, does not descend. -/
def Ascends (range? : Option NumberRange) : Prop := ∀ r ∈ range?, r.start ≤ r.stop

/-- The two ends of a range. -/
def pair (r : NumberRange) : ℕ × ℕ := (r.start, r.stop)

variable {name : String} {r : NumberRange} {range? : Option NumberRange} {ends : ℕ × ℕ}

lemma ends_eq_ok_iff : r.ends name = .ok ends ↔ r.start ≤ r.stop ∧ r.pair = ends := by
  rw [NumberRange.ends]
  by_cases hdescends : r.stop < r.start
  · simp [hdescends]
  · simp [hdescends, Nat.le_of_not_lt hdescends, pair]

lemma portsOf_eq_ok_iff :
    portsOf name range? = .ok ends ↔ Ascends range? ∧ (range?.map pair).getD (0, 0) = ends := by
  cases range? with
  | none => simp [portsOf, Ascends]
  | some r => simp [portsOf, Ascends, ends_eq_ok_iff]

lemma mapM_ends_eq_ok_iff {ends? : Option (ℕ × ℕ)} :
    range?.mapM (NumberRange.ends name) = .ok ends? ↔ Ascends range? ∧ range?.map pair = ends? := by
  cases range? with
  | none =>
      change (Except.ok none : Except RuleFault _) = .ok ends? ↔ _
      simp [Ascends]
  | some r =>
      change (r.ends name).map some = .ok ends? ↔ _
      simp only [map_eq_ok_iff, ends_eq_ok_iff]
      constructor
      · rintro ⟨_, ⟨hascends, rfl⟩, hends⟩
        exact ⟨by simpa [Ascends] using hascends, hends⟩
      · rintro ⟨hascends, hends⟩
        exact ⟨r.pair, ⟨hascends r rfl, rfl⟩, hends⟩

end NumberRange

/-! ### The parts of a rule -/

namespace RoutingRule

/-- A prefix of a family, or all of its addresses. -/
inductive PrefixOr (f : Family) : Option String → Address → ℕ → Prop
  | all : PrefixOr f none (.unspecified f) 0
  | written {text : String} {a : Address} {n : ℕ} (h : PrefixOf f text a n) :
      PrefixOr f (some text) a n

/-- The family of a rule: the one that it declares, or else that of its source or, without one, of
its destination. -/
inductive HasFamily (r : RoutingRule) (f : Family) : Prop
  | declared (h : r.family = some f)
  | inferred {text : String} {a : Address} {n : ℕ} (hnone : r.family = none)
      (htext : r.source.or r.destination = some text) (h : PrefixOf f text a n)

/-- A rule can be translated for a family. -/
structure Fits (r : RoutingRule) (f : Family) : Prop where
  source : ∀ text ∈ r.source, ∃ a n, PrefixOf f text a n
  destination : ∀ text ∈ r.destination, ∃ a n, PrefixOf f text a n
  sourcePort : NumberRange.Ascends r.sourcePort
  destinationPort : NumberRange.Ascends r.destinationPort
  uidRange : NumberRange.Ascends r.uidRange

/-- The parts of a rule as the platform takes them, in the family of the latter. -/
structure Renders (r : RoutingRule) (q : PlatformRule) : Prop where
  source : PrefixOr q.family r.source q.source q.sourceLength
  destination : PrefixOr q.family r.destination q.destination q.destinationLength
  sourcePort : NumberRange.Ascends r.sourcePort
  sourcePorts : q.sourcePorts = (r.sourcePort.map NumberRange.pair).getD (0, 0)
  destinationPort : NumberRange.Ascends r.destinationPort
  destinationPorts : q.destinationPorts = (r.destinationPort.map NumberRange.pair).getD (0, 0)
  users : NumberRange.Ascends r.uidRange
  uidRange : q.uidRange = r.uidRange.map NumberRange.pair
  /-- A rule that goes to a table goes to the main one if it names none, or table 0. -/
  table : q.table =
    if r.action.getD .toTable = .toTable ∧ (r.table = none ∨ r.table = some 0) then 254
    else r.table.getD 0
  action : q.action = (r.action.getD .toTable).code
  priority : q.priority = r.priority.getD 0
  invert : q.invert = r.invert
  tos : q.tos = r.tos.getD 0
  protocol : q.protocol = r.protocol.getD 0
  mark : q.mark = r.mark.getD 0
  markMask : q.markMask = r.markMask.getD 0
  inInterface : q.inInterface = r.inInterface
  outInterface : q.outInterface = r.outInterface
  suppressPrefixLength : q.suppressPrefixLength = r.suppressPrefixLength.getD (-1)

section Parts

variable {r : RoutingRule} {f g : Family} {text? : Option String} {a : Address} {n : ℕ}
  {q : PlatformRule}

lemma prefixOr_eq_ok_iff : prefixOr f text? = .ok (a, n) ↔ PrefixOr f text? a n := by
  cases text? with
  | none =>
      constructor
      · intro h
        cases h
        exact .all
      · rintro ⟨⟩
        rfl
  | some text =>
      constructor
      · intro h
        exact .written (readPrefix_some_eq_ok_iff.mp h)
      · rintro ⟨⟩
        next h => exact readPrefix_some_eq_ok_iff.mpr h

/-- A prefix can be read if it is one, or if there is none. -/
lemma exists_prefixOr_iff :
    (∃ a n, PrefixOr f text? a n) ↔ ∀ text ∈ text?, ∃ a n, PrefixOf f text a n := by
  constructor
  · rintro ⟨a, n, h⟩ text htext
    cases h with
    | all => cases htext
    | written h =>
        cases htext
        exact ⟨a, n, h⟩
  · intro h
    cases text? with
    | none => exact ⟨_, _, .all⟩
    | some text =>
        obtain ⟨a, n, hpre⟩ := h text rfl
        exact ⟨a, n, .written hpre⟩

lemma hasFamily_iff_of_declared (h : r.family = some g) : r.HasFamily f ↔ g = f := by
  constructor
  · rintro (hf | ⟨hnone, -, -⟩)
    · exact Option.some.inj (h.symm.trans hf)
    · rw [h] at hnone
      cases hnone
  · rintro rfl
    exact .declared h

lemma hasFamily_iff_of_undeclared (h : r.family = none) :
    r.HasFamily f ↔ ∃ text ∈ r.source.or r.destination, ∃ a n, PrefixOf f text a n := by
  constructor
  · rintro (hf | ⟨-, htext, hpre⟩)
    · rw [h] at hf
      cases hf
    · exact ⟨_, htext, _, _, hpre⟩
  · rintro ⟨text, htext, a, n, hpre⟩
    exact .inferred h htext hpre

/-- The family of a rule is found if it has one. -/
lemma resolveFamily_eq_ok_iff : r.resolveFamily = .ok f ↔ r.HasFamily f := by
  rw [resolveFamily]
  cases hfamily : r.family with
  | some g => simp [hasFamily_iff_of_declared hfamily]
  | none =>
      rw [hasFamily_iff_of_undeclared hfamily]
      cases htext : r.source.or r.destination with
      | none => simp
      | some text =>
          change (readPrefix none text).map _ = .ok f ↔ _
          rw [map_eq_ok_iff]
          constructor
          · rintro ⟨⟨a, n⟩, hread, rfl⟩
            exact ⟨text, rfl, a, n, readPrefix_none_eq_ok_iff.mp hread⟩
          · rintro ⟨_, ⟨⟩, a, n, hpre⟩
            have hread := readPrefix_none_eq_ok_iff.mpr (hpre.family.symm ▸ hpre)
            exact ⟨(a, n), hread, hpre.family⟩

lemma platformTable_eq {action : RuleAction} {table : Option ℕ} :
    platformTable action table
      = if action = .toTable ∧ (table = none ∨ table = some 0) then 254 else table.getD 0 := by
  cases action <;> rcases table with _ | _ | n <;> simp [platformTable, mainTable]

/-- **Rules for the platform**: a rule is translated to one in a family that it has, with the parts
that it has in that family. -/
lemma toPlatform_eq_ok_iff : r.toPlatform = .ok q ↔ r.HasFamily q.family ∧ r.Renders q := by
  rw [toPlatform]
  constructor
  · intro h
    obtain ⟨f, hfamily, h⟩ := bind_eq_ok_iff.mp h
    obtain ⟨⟨source, sourceLength⟩, hsource, h⟩ := bind_eq_ok_iff.mp h
    obtain ⟨⟨destination, destinationLength⟩, hdestination, h⟩ := bind_eq_ok_iff.mp h
    obtain ⟨sourcePorts, hsourcePorts, h⟩ := bind_eq_ok_iff.mp h
    obtain ⟨destinationPorts, hdestinationPorts, h⟩ := bind_eq_ok_iff.mp h
    obtain ⟨uidRange, huidRange, h⟩ := bind_eq_ok_iff.mp h
    obtain ⟨hsourcePort, rfl⟩ := NumberRange.portsOf_eq_ok_iff.mp hsourcePorts
    obtain ⟨hdestinationPort, rfl⟩ := NumberRange.portsOf_eq_ok_iff.mp hdestinationPorts
    obtain ⟨husers, rfl⟩ := NumberRange.mapM_ends_eq_ok_iff.mp huidRange
    cases h
    refine ⟨resolveFamily_eq_ok_iff.mp hfamily, ?_⟩
    exact {
      source := prefixOr_eq_ok_iff.mp hsource
      destination := prefixOr_eq_ok_iff.mp hdestination
      sourcePort := hsourcePort
      sourcePorts := rfl
      destinationPort := hdestinationPort
      destinationPorts := rfl
      users := husers
      uidRange := rfl
      table := platformTable_eq
      action := rfl
      priority := rfl
      invert := rfl
      tos := rfl
      protocol := rfl
      mark := rfl
      markMask := rfl
      inInterface := rfl
      outInterface := rfl
      suppressPrefixLength := rfl }
  · rintro ⟨hfamily, h⟩
    refine bind_eq_ok_iff.mpr ⟨_, resolveFamily_eq_ok_iff.mpr hfamily, ?_⟩
    refine bind_eq_ok_iff.mpr ⟨_, prefixOr_eq_ok_iff.mpr h.source, ?_⟩
    refine bind_eq_ok_iff.mpr ⟨_, prefixOr_eq_ok_iff.mpr h.destination, ?_⟩
    refine bind_eq_ok_iff.mpr ⟨_, NumberRange.portsOf_eq_ok_iff.mpr ⟨h.sourcePort, rfl⟩, ?_⟩
    refine bind_eq_ok_iff.mpr ⟨_, NumberRange.portsOf_eq_ok_iff.mpr ⟨h.destinationPort, rfl⟩, ?_⟩
    refine bind_eq_ok_iff.mpr ⟨_, NumberRange.mapM_ends_eq_ok_iff.mpr ⟨h.users, rfl⟩, ?_⟩
    refine congrArg Except.ok ?_
    rw [platformTable_eq, ← h.table, ← h.action, ← h.sourcePorts, ← h.destinationPorts,
      ← h.uidRange, ← h.priority, ← h.invert, ← h.tos, ← h.protocol, ← h.mark, ← h.markMask,
      ← h.inInterface, ← h.outInterface, ← h.suppressPrefixLength]

/-- The parts of a rule for the platform are there only if the rule fits the family. -/
lemma Renders.fits (h : r.Renders q) : r.Fits q.family where
  source := exists_prefixOr_iff.mp ⟨_, _, h.source⟩
  destination := exists_prefixOr_iff.mp ⟨_, _, h.destination⟩
  sourcePort := h.sourcePort
  destinationPort := h.destinationPort
  uidRange := h.users

/-- The parts of a rule do not depend on the family that it declares. -/
lemma renders_declare_iff : Renders { r with family := some f } q ↔ r.Renders q :=
  ⟨fun h => { h with }, fun h => { h with }⟩

/-- The first prefix of a rule is of the family that its parts are in. -/
lemma Renders.hasFamily (hnone : r.family = none) (hset : r.source.isSome ∨ r.destination.isSome)
    (h : r.Renders q) : r.HasFamily q.family := by
  have hfits := h.fits
  cases hsource : r.source with
  | some text =>
      obtain ⟨a, n, hpre⟩ := hfits.source text hsource
      exact .inferred hnone (by rw [hsource]; rfl) hpre
  | none =>
      rw [hsource] at hset
      obtain ⟨text, hdestination⟩ := Option.isSome_iff_exists.mp (hset.resolve_left nofun)
      obtain ⟨a, n, hpre⟩ := hfits.destination text hdestination
      exact .inferred hnone (by rw [hsource]; exact hdestination) hpre

/-- A rule is refused if its first prefix is not of the family that it declares. -/
lemma toPlatform_of_foreign {text : String} (hfamily : r.family = some g)
    (htext : r.source.or r.destination = some text) (h : PrefixOf f text a n) (hne : g ≠ f) :
    r.toPlatform = .error ⟨.invalidArgument, .foreignPrefix text g⟩ := by
  obtain ⟨length?, hwritten, -⟩ := h.written
  have hforeign : readPrefix (some g) text = .error ⟨.invalidArgument, .foreignPrefix text g⟩ := by
    rw [readPrefix_some_of_read? (writesPrefix_iff.mp hwritten).1, if_neg (h.family.symm ▸ hne)]
  have hresolved := resolveFamily_eq_ok_iff.mpr (.declared hfamily)
  -- a destination is the first prefix only where there is no source, which would fail before it
  cases hsource : r.source with
  | some text' =>
      obtain rfl : text' = text := by simpa [hsource] using htext
      simp only [toPlatform, hresolved, hsource, prefixOr, hforeign, bind, Except.bind]
  | none =>
      have hdestination : r.destination = some text := by simpa [hsource] using htext
      simp only [toPlatform, hresolved, hsource, hdestination, prefixOr, hforeign, bind,
        Except.bind]

/-- **Declared and inferred families agree.** A rule without a family that is translated is
translated to the same rule if it declares the family that it was found to have, and is refused for
its first prefix if it declares the other one. Conversely a rule with a prefix that is translated in
a family that it declares is translated to the same rule without declaring it. -/
theorem toPlatform_declare_iff (r : RoutingRule) (hnone : r.family = none) :
    (∀ q, r.toPlatform = .ok q →
        toPlatform { r with family := some q.family } = .ok q
          ∧ ∃ text ∈ r.source.or r.destination,
              toPlatform { r with family := some q.family.other }
                = .error ⟨.invalidArgument, .foreignPrefix text q.family.other⟩)
      ∧ ∀ f q, (r.source.isSome ∨ r.destination.isSome) →
          toPlatform { r with family := some f } = .ok q → r.toPlatform = .ok q := by
  constructor
  · intro q h
    obtain ⟨hfamily, hrenders⟩ := toPlatform_eq_ok_iff.mp h
    refine ⟨toPlatform_eq_ok_iff.mpr ⟨.declared rfl, renders_declare_iff.mpr hrenders⟩, ?_⟩
    -- the prefix that the family was inferred from is foreign to the other one
    obtain ⟨text, htext, a, n, hpre⟩ := (hasFamily_iff_of_undeclared hnone).mp hfamily
    have hother : q.family.other ≠ q.family := by cases q.family <;> decide
    exact ⟨text, htext, toPlatform_of_foreign rfl htext hpre hother⟩
  · intro f q hset h
    have hrenders := renders_declare_iff.mp (toPlatform_eq_ok_iff.mp h).2
    exact toPlatform_eq_ok_iff.mpr ⟨hrenders.hasFamily hnone hset, hrenders⟩

/-- A rule from a network to a host is translated the same as IPv4, and refused as IPv6. -/
theorem toPlatform_declare_network :
    let r : RoutingRule :=
      { empty with source := some "192.0.2.0/24", destination := some "198.51.100.1" }
    ∃ q, r.toPlatform = .ok q ∧ q.sourceLength = 24 ∧ q.destinationLength = 32
      ∧ toPlatform { r with family := some .v4 } = .ok q
      ∧ ∃ e, toPlatform { r with family := some .v6 } = .error e := by
  intro r
  have hvalue : (r.toPlatform.toOption.map fun q => (q.family, q.sourceLength, q.destinationLength))
      = some (.v4, 24, 32) := by decide +kernel
  obtain ⟨q, hq, hparts⟩ := exists_eq_ok_of_map_toOption hvalue
  obtain ⟨hfamily, hsource, hdestination⟩ : q.family = .v4 ∧ q.sourceLength = 24
      ∧ q.destinationLength = 32 := by simpa using hparts
  obtain ⟨hsame, text, -, hother⟩ := (toPlatform_declare_iff r rfl).1 q hq
  rw [hfamily] at hsame hother
  exact ⟨q, hq, hsource, hdestination, hsame, _, hother⟩

end Parts
end RoutingRule

end ProfileMatch
