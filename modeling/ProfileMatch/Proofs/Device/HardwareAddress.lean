import Mathlib.Tactic.Common
import ProfileMatch.Proofs.Device.Notation
import ProfileMatch.Proofs.Device.Spelling
/-!
Hardware addresses are matched by value, whatever their spelling.

* `sameHardware_iff`: texts that write octets are the same address exactly if the octets are;
* `Spec.read?_hardware`: what stands behind a tag of hardware addresses;
* `Spec.read?_untagged`: an address without a tag is read as an untagged text, since no tag opens
  with two hexadecimal digits;
* `Device.acceptsIff_octets`: so the specifications of an address accept the devices with its
  octets.
-/

namespace ProfileMatch

namespace Device

open Number

variable {octets octets' : List UInt8} {a b : String}

/-- **Addresses are compared by value.** -/
lemma sameHardware_iff (ha : WritesHardware WritesHex octets a)
    (hb : WritesHardware WritesHex octets' b) : sameHardware a b = true ↔ octets = octets' := by
  have hread {octets : List UInt8} {a : String} (h : WritesHardware WritesHex octets a) :
      readHardware? a = some octets :=
    readHardware?_eq_some_iff.mpr (h.imp fun _ _ _ hn => .plain hn)
  rw [sameHardware, hread ha, hread hb]
  exact beq_iff_eq

/-- An address opens with two digits. -/
lemma WritesHardware.exists_digits (h : WritesHardware WritesHex octets a) :
    ∃ c c' rest, a.toList = c :: c' :: rest ∧ (digit? 16 c).isSome ∧ (digit? 16 c').isSome := by
  have hpair {w : List Char} {n : ℕ} (hlength : w.length = 2) (hw : WritesHex n w) :
      ∃ c c', w = [c, c'] ∧ (digit? 16 c).isSome ∧ (digit? 16 c').isSome := by
    obtain ⟨c, c', rfl⟩ := List.length_eq_two.mp hlength
    exact ⟨c, c', rfl, hw.isSome_digit? c (by simp), hw.isSome_digit? c' (by simp)⟩
  rw [WritesHardware] at h
  generalize a.toList = cs at h ⊢
  cases h with
  | single hw =>
      obtain ⟨c, c', hpair, hc, hc'⟩ := hpair hw.1 hw.2
      exact ⟨c, c', [], hpair, hc, hc'⟩
  | cons hw _ _ =>
      obtain ⟨c, c', rfl, hc, hc'⟩ := hpair hw.1 hw.2
      exact ⟨c, c', _, rfl, hc, hc'⟩

/-- No blank stands in an address. -/
lemma WritesHardware.isBlank_eq_false (h : WritesHardware WritesHex octets a) :
    ∀ c ∈ a.toList, Text.isBlank c = false := by
  refine Text.Joined.forall_mem ?_ ?_ h
  · intro c hc
    rcases (Bool.or_eq_true _ _).mp hc with hc | hc
    · rw [beq_iff_eq.mp hc]
      decide
    · rw [beq_iff_eq.mp hc]
      decide
  · exact fun _ _ hw c hc => Text.isBlank_eq_false_of_digit? (hw.2.isSome_digit? c hc)

/-- Nothing is trimmed at the end of an address. -/
lemma WritesHardware.trimEnd_eq (h : WritesHardware WritesHex octets a) : Text.trimEnd a = a := by
  have htrimmed : Text.Trimmed a.toList := Text.trimmed_of_forall h.isBlank_eq_false
  rw [Text.trimEnd, Text.trimEndChars_eq_self htrimmed.last, String.ofList_toList]

end Device

namespace Spec

open Number

variable {t a : String}

/-- **What stands behind a tag of hardware addresses** is read as one, up to blanks at its end. -/
lemma read?_hardware (h : t = "mac:" ∨ t = "mac-address:") (a : String) :
    read? (t ++ a) = some ⟨false, .hardwareAddress (Text.trimEnd a)⟩ := by
  have htag : t.toList = macTag ∨ t.toList = macAddressTag := h.imp (congrArg _) (congrArg _)
  have htrimmed : Text.Trimmed t.toList :=
    Text.trimmed_of_any_eq_false (by rcases htag with htag | htag <;> rw [htag] <;> decide)
  have hne : t.toList ≠ [] := by rcases htag with htag | htag <;> rw [htag] <;> decide
  have hbody := isBody_append (mem_tags_hardware htag) (Text.trimEndChars a.toList)
  have hread := readTrimmed?_opening false hbody
  rw [readCriterion_hardware htag] at hread
  rw [read?, String.toList_append, Text.trimChars_append htrimmed hne]
  exact hread

/-- Some character among the first two of every tag is no hexadecimal digit. -/
lemma exists_digit?_eq_none {tag : List Char} (htag : tag ∈ exceptTag :: tags.map Prod.fst) :
    ∃ c ∈ tag.take 2, digit? 16 c = none := by
  have hall : ∀ tag ∈ exceptTag :: tags.map Prod.fst,
      ((tag.take 2).any fun c => (digit? 16 c).isNone) = true := by decide
  obtain ⟨c, hc, hnone⟩ := List.any_eq_true.mp (hall tag htag)
  exact ⟨c, hc, Option.isNone_iff_eq_none.mp hnone⟩

/-- No tag opens with two hexadecimal digits. -/
lemma not_prefix_of_digits {c c' : Char} {rest : List Char} (hc : (digit? 16 c).isSome)
    (hc' : (digit? 16 c').isSome) {tag : List Char} (htag : tag ∈ exceptTag :: tags.map Prod.fst) :
    ¬tag <+: c :: c' :: rest := by
  intro hprefix
  obtain ⟨more, hmore⟩ := hprefix
  obtain ⟨x, hx, hnone⟩ := exists_digit?_eq_none htag
  have hfirst : x ∈ (tag ++ more).take 2 := by
    rw [List.take_append]
    exact List.mem_append_left _ hx
  rw [hmore] at hfirst
  rcases List.mem_cons.mp hfirst with rfl | hlast
  · simp [hnone] at hc
  · rw [List.mem_singleton.mp hlast] at hnone
    simp [hnone] at hc'

/-- **An address without a tag** is read as an untagged text. -/
lemma read?_untagged {octets : List UInt8} (h : Device.WritesHardware WritesHex octets a) :
    read? a = some ⟨false, .untagged a⟩ := by
  obtain ⟨c, c', rest, hcs, hc, hc'⟩ := h.exists_digits
  have htrimmed : Text.Trimmed a.toList := Text.trimmed_of_forall h.isBlank_eq_false
  have hbody : IsBody a.toList := by
    rw [hcs]
    exact ⟨List.cons_ne_nil c _, not_prefix_of_digits hc hc' List.mem_cons_self⟩
  have hstar : a.toList ≠ ['*'] := by
    rw [hcs]
    simp
  have htags : ∀ tag ∈ tags, ¬tag.1 <+: a.toList := by
    intro tag htag
    rw [hcs]
    exact not_prefix_of_digits hc hc' (List.mem_cons_of_mem _ (List.mem_map_of_mem htag))
  have hread := readTrimmed?_opening false hbody
  rw [readCriterion, if_neg hstar, readTagged_of_untagged htags, String.ofList_toList] at hread
  rw [read?, Text.trimChars_of_trimmed htrimmed]
  exact hread

end Spec

namespace Device

open Number

variable {patterns : Patterns} {octets octets' : List UInt8} {a b text : String} {d : Device}
  {s : Spec} {p : Prop}

/-- A text is a specification that accepts devices, and accepts this one exactly if a condition
holds; alone in a list it decides so. -/
def AcceptsIff (patterns : Patterns) (d : Device) (text : String) (p : Prop) : Prop :=
  (∃ s, Spec.read? text = some s ∧ s.except = false ∧ (s.accepts patterns d = true ↔ p))
    ∧ (d.judgeBy patterns [text] = .matched ↔ p)

lemma acceptsIff_of_read? (hread : Spec.read? text = some s) (hexcept : s.except = false)
    (hp : s.accepts patterns d = true ↔ p) : d.AcceptsIff patterns text p := by
  refine ⟨⟨s, hread, hexcept, hp⟩, ?_⟩
  have hspecs : [text].filterMap Spec.read? = [s] := by simp [hread]
  rw [judgeBy, hspecs, judgeSpecs_eq_matched_iff, RejectedBy]
  simp [hexcept, hp]

/-- Behind a tag of hardware addresses, the address decides. -/
lemma acceptsIff_hardware {t : String} (ht : t = "mac:" ∨ t = "mac-address:")
    (hp : d.hasHardware (Text.trimEnd text) = true ↔ p) : d.AcceptsIff patterns (t ++ text) p :=
  acceptsIff_of_read? (Spec.read?_hardware ht text) rfl hp

lemma hasHardware_iff (ha : WritesHardware WritesHex octets a)
    (hb : WritesHardware WritesHex octets' b) (hd : d.hardwareAddress = some b) :
    d.hasHardware a = true ↔ octets = octets' := by
  rw [hasHardware, hd]
  exact sameHardware_iff ha hb

/-- **Hardware addresses are matched by value.** Take two texts that write octets, each with two
hexadecimal digits of either case, with colons and hyphens between them. The first one behind a tag
accepts the devices whose address is the second one exactly if the octets are the same, and without
a tag if they are or the first text is the name of the interface. A device without an address is
accepted by nothing behind such a tag. -/
theorem acceptsIff_octets (patterns : Patterns) :
    (∀ (octets octets' : List UInt8) (a b : String) (d : Device),
      WritesHardware WritesHex octets a → WritesHardware WritesHex octets' b →
      d.hardwareAddress = some b →
      d.AcceptsIff patterns ("mac:" ++ a) (octets = octets')
      ∧ d.AcceptsIff patterns ("mac-address:" ++ a) (octets = octets')
      ∧ d.AcceptsIff patterns a (octets = octets' ∨ d.interfaceName = some a))
    ∧ ∀ (d : Device) (text : String), d.hardwareAddress = none →
        d.AcceptsIff patterns ("mac:" ++ text) False
          ∧ d.AcceptsIff patterns ("mac-address:" ++ text) False := by
  constructor
  · intro octets octets' a b d ha hb hd
    have hvalue := hasHardware_iff ha hb hd
    have htagged : d.hasHardware (Text.trimEnd a) = true ↔ octets = octets' := by
      rw [ha.trimEnd_eq]
      exact hvalue
    refine ⟨acceptsIff_hardware (Or.inl rfl) htagged, acceptsIff_hardware (Or.inr rfl) htagged,
      acceptsIff_of_read? (Spec.read?_untagged ha) rfl ?_⟩
    simp [Spec.accepts, hvalue]
  · intro d text hd
    have hnone : d.hasHardware (Text.trimEnd text) = true ↔ False := by simp [hasHardware, hd]
    exact ⟨acceptsIff_hardware (Or.inl rfl) hnone, acceptsIff_hardware (Or.inr rfl) hnone⟩

/-- An address that is spelled in two ways, on a device that has it and on one that has none. -/
theorem acceptsIff_octets_mixed :
    let octets : List UInt8 := [0, 26, 255]
    let d : Device := { named "eth1" with hardwareAddress := some "00-1a:FF" }
    (WritesHardware WritesHex octets "00:1A-fF" ∧ WritesHardware WritesHex octets "00-1a:FF")
      ∧ d.judgeBy Glob.globMatches ["mac:00:1A-fF"] = .matched
      ∧ d.judgeBy Glob.globMatches ["00:1A-fF"] = .matched
      ∧ ¬ (named "eth1").judgeBy Glob.globMatches ["mac:00:1A-fF"] = .matched := by
  intro octets d
  have hread {text : String} (h : readHardware? text = some octets) (hplus : '+' ∉ text.toList) :
      WritesHardware WritesHex octets text :=
    (readHardware?_eq_some_iff.mp h).imp fun _ _ hw hn => hn.writesHex fun hmem => hplus (hw hmem)
  have ha : WritesHardware WritesHex octets "00:1A-fF" := hread (by decide +kernel) (by decide)
  have hb : WritesHardware WritesHex octets "00-1a:FF" := hread (by decide +kernel) (by decide)
  obtain ⟨hvalue, hnone⟩ := acceptsIff_octets Glob.globMatches
  obtain ⟨hmac, -, huntagged⟩ := hvalue octets octets _ _ d ha hb rfl
  refine ⟨⟨ha, hb⟩, hmac.2.mpr rfl, huntagged.2.mpr (Or.inl rfl), ?_⟩
  exact fun h => (hnone (named "eth1") "00:1A-fF" rfl).1.2.mp h

end Device

end ProfileMatch
