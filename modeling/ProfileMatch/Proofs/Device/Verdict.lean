import Mathlib.Tactic.Common
import ProfileMatch.Device.Glob
import ProfileMatch.Device.Matching
/-!
What a list of texts comes to for a device, as a condition on the set of its specifications.

* `Spec.Vacuous`, `Spec.read?_eq_none_iff`: the texts that are no specification;
* `Spec.criterion_of_untagged`: what stands behind `except:` without a tag asks for itself, which
  an exception accepts of no device;
* `Device.RejectedBy`: a set of specifications decides against a device;
* `Device.judgeFrom_eq_notMatched_iff`: one pass over any part of the list, from any state of its
  two flags, finds out whether the set does;
* `Device.judgeBy_iff_rejectedBy_and_congr`: so the order of the texts, their repetitions and those
  that are no specification do not show in the verdict.
-/

namespace ProfileMatch

namespace Spec

/-! ### Texts and what they ask for -/

/-- A text that is no specification: there is nothing in it, or nothing behind `except:`. -/
def Vacuous (text : String) : Prop :=
  Text.trim text = "" ∨ Text.trim text = "except:"

instance : DecidablePred Vacuous := fun text =>
  inferInstanceAs (Decidable (Text.trim text = "" ∨ Text.trim text = "except:"))

/-- A trimmed text is no specification if it has no body. -/
lemma readTrimmed?_eq_none_iff {cs : List Char} :
    readTrimmed? cs = none ↔ cs = [] ∨ cs = exceptTag := by
  rw [readTrimmed?]
  cases hafter : Text.after? exceptTag cs with
  | some body =>
      have hcs : cs = exceptTag ++ body := Text.after?_eq_some_iff.mp hafter
      have htag : exceptTag ≠ [] := by decide +kernel
      cases body with
      | nil => simp [hcs]
      | cons c body => simp [hcs, htag]
  | none =>
      have hne : cs ≠ exceptTag := by
        intro hcs
        have hsome : Text.after? exceptTag cs = some [] :=
          Text.after?_eq_some_iff.mpr (by rw [hcs, List.append_nil])
        exact absurd (hafter.symm.trans hsome) (by simp)
      simp [hne]

/-- **The texts that are no specification** are the vacuous ones. -/
lemma read?_eq_none_iff {text : String} : read? text = none ↔ Vacuous text := by
  rw [read?, readTrimmed?_eq_none_iff, Vacuous, Text.trim]
  refine or_congr ?_ ?_
  · rw [← String.toList_inj]
    simp
  · rw [← String.toList_inj, String.toList_ofList]
    rfl

/-- A body behind none of some tags is untagged. -/
lemma readTagged_of_untagged {body : List Char} {tags : List (List Char × (List Char → Criterion))}
    (h : ∀ tag ∈ tags, ¬ tag.1 <+: body) :
    readTagged body tags = .untagged (String.ofList body) := by
  induction tags with
  | nil => rfl
  | cons tag tags ih =>
      have hafter : Text.after? tag.1 body = none := by
        cases hsome : Text.after? tag.1 body with
        | none => rfl
        | some rest =>
            have hbody := Text.after?_eq_some_iff.mp hsome
            exact absurd ⟨rest, hbody.symm⟩ (h tag List.mem_cons_self)
      rw [readTagged, hafter]
      exact ih fun tag' htag' => h tag' (List.mem_cons_of_mem tag htag')

/-- An exception without a tag, other than the one of all devices, asks for its body. -/
lemma criterion_of_untagged {text body : String} {s : Spec}
    (htext : Text.trim text = "except:" ++ body) (hany : body ≠ "*")
    (huntagged : ∀ tag ∈ tags, ¬ tag.1 <+: body.toList) (hread : read? text = some s) :
    s = ⟨true, .untagged body⟩ := by
  have hcs : Text.trimChars text.toList = exceptTag ++ body.toList := by
    have hlist := congrArg String.toList htext
    rwa [Text.trim, String.toList_ofList, String.toList_append] at hlist
  have hafter : Text.after? exceptTag (Text.trimChars text.toList) = some body.toList :=
    Text.after?_eq_some_iff.mpr hcs
  have hstar : body.toList ≠ ['*'] := by
    intro hlist
    exact hany (String.toList_inj.mp hlist)
  rw [read?, readTrimmed?, hafter] at hread
  simp only [readCriterion, if_neg hstar, readTagged_of_untagged huntagged,
    String.ofList_toList] at hread
  split_ifs at hread
  exact (Option.some.inj hread).symm

/-- An exception that is untagged holds of no device. -/
lemma accepts_of_untagged_except (patterns : Patterns) (body : String) (d : Device) :
    accepts ⟨true, .untagged body⟩ patterns d = false := rfl

end Spec

namespace Device

variable {patterns : Patterns} {d : Device} {positive accepted : Bool} {s : Spec}
  {ss specs specs' : List Spec}

/-! ### The pass -/

/-- **A set of specifications decides against a device**: one of them excludes it, or some of them
accept devices and none of these accepts it. -/
def RejectedBy (patterns : Patterns) (d : Device) (specs : List Spec) : Prop :=
  (∃ s ∈ specs, s.except = true ∧ s.accepts patterns d = true)
    ∨ (∃ s ∈ specs, s.except = false)
      ∧ ∀ s ∈ specs, s.except = false → s.accepts patterns d = false

/-- An exception ends the pass or leaves its flags alone. -/
lemma judgeFrom_cons_of_except (h : s.except = true) :
    judgeFrom patterns d positive accepted (s :: ss) =
      if s.accepts patterns d then .notMatched else judgeFrom patterns d positive accepted ss := by
  rw [judgeFrom, if_pos h]

/-- Any other specification sets the flags and never ends the pass. -/
lemma judgeFrom_cons_of_not_except (h : s.except = false) :
    judgeFrom patterns d positive accepted (s :: ss)
      = judgeFrom patterns d true (accepted || s.accepts patterns d) ss := by
  rw [judgeFrom, if_neg (by rw [h]; exact Bool.false_ne_true)]

/-- The pass always decides. -/
lemma judgeFrom_ne_noSpecs (ss : List Spec) :
    judgeFrom patterns d positive accepted ss ≠ .noSpecs := by
  induction ss generalizing positive accepted with
  | nil => rw [judgeFrom]; split <;> simp
  | cons s ss ih =>
      cases hexcept : s.except with
      | true =>
          rw [judgeFrom_cons_of_except hexcept]
          split
          · simp
          · exact ih
      | false =>
          rw [judgeFrom_cons_of_not_except hexcept]
          exact ih

/-- **The pass**, from any state of its flags: it decides against the device exactly if an exception
is still to come that excludes it, or nothing has accepted it or will, although something accepts
devices. -/
lemma judgeFrom_eq_notMatched_iff (ss : List Spec) :
    judgeFrom patterns d positive accepted ss = .notMatched ↔
      (∃ s ∈ ss, s.except = true ∧ s.accepts patterns d = true)
        ∨ accepted = false ∧ (positive = true ∨ ∃ s ∈ ss, s.except = false)
          ∧ ∀ s ∈ ss, s.except = false → s.accepts patterns d = false := by
  induction ss generalizing positive accepted with
  | nil => cases positive <;> cases accepted <;> simp [judgeFrom]
  | cons s ss ih =>
      cases hexcept : s.except with
      | true =>
          rw [judgeFrom_cons_of_except hexcept]
          cases haccepts : s.accepts patterns d with
          | true => simp [hexcept, haccepts]
          | false => simpa [hexcept, haccepts] using ih
      | false =>
          rw [judgeFrom_cons_of_not_except hexcept, ih]
          cases haccepts : s.accepts patterns d <;> simp [hexcept, haccepts]

/-! ### The verdict on a list -/

lemma judgeSpecs_eq_noSpecs_iff : judgeSpecs patterns d specs = .noSpecs ↔ specs = [] := by
  rw [judgeSpecs]
  cases specs with
  | nil => simp
  | cons s ss => simpa using judgeFrom_ne_noSpecs (s :: ss)

/-- A list is decided against a device exactly if the set of it is. -/
lemma judgeSpecs_eq_notMatched_iff :
    judgeSpecs patterns d specs = .notMatched ↔ d.RejectedBy patterns specs := by
  rw [judgeSpecs, RejectedBy]
  cases specs with
  | nil => simp
  | cons s ss =>
      rw [if_neg (by simp), judgeFrom_eq_notMatched_iff]
      simp

/-- A list matches a device if it has specifications and is not decided against it. -/
lemma judgeSpecs_eq_matched_iff :
    judgeSpecs patterns d specs = .matched ↔ specs ≠ [] ∧ ¬ d.RejectedBy patterns specs := by
  rw [← judgeSpecs_eq_notMatched_iff, ne_eq, ← judgeSpecs_eq_noSpecs_iff (d := d)]
  cases judgeSpecs patterns d specs <;> simp

/-- Lists of the same specifications are decided against the same devices. -/
lemma rejectedBy_congr (h : ∀ s, s ∈ specs ↔ s ∈ specs') :
    d.RejectedBy patterns specs ↔ d.RejectedBy patterns specs' := by
  simp only [RejectedBy, h]

/-- **The verdict goes by the set**: neither the order of the specifications nor how often they
stand in the list has a part in it. -/
lemma judgeSpecs_congr (h : ∀ s, s ∈ specs ↔ s ∈ specs') :
    judgeSpecs patterns d specs = judgeSpecs patterns d specs' := by
  have hempty : specs = [] ↔ specs' = [] := by
    simp only [List.eq_nil_iff_forall_not_mem, h]
  cases hverdict : judgeSpecs patterns d specs' with
  | noSpecs =>
      have hnil := judgeSpecs_eq_noSpecs_iff.mp hverdict
      exact judgeSpecs_eq_noSpecs_iff.mpr (hempty.mpr hnil)
  | notMatched =>
      have hrejected := judgeSpecs_eq_notMatched_iff.mp hverdict
      exact judgeSpecs_eq_notMatched_iff.mpr ((rejectedBy_congr h).mpr hrejected)
  | matched =>
      obtain ⟨hne, hrejected⟩ := judgeSpecs_eq_matched_iff.mp hverdict
      refine judgeSpecs_eq_matched_iff.mpr ⟨fun hnil => hne (hempty.mp hnil), fun h' => ?_⟩
      exact hrejected ((rejectedBy_congr h).mp h')

/-- Texts that are the same but for vacuous ones hold the same specifications. -/
lemma mem_filterMap_read?_congr {texts texts' : List String}
    (h : ∀ text, ¬ Spec.Vacuous text → (text ∈ texts ↔ text ∈ texts')) (s : Spec) :
    s ∈ texts.filterMap Spec.read? ↔ s ∈ texts'.filterMap Spec.read? := by
  rw [List.mem_filterMap, List.mem_filterMap]
  refine exists_congr fun text => and_congr_left fun hread => h text fun hvacuous => ?_
  rw [Spec.read?_eq_none_iff.mpr hvacuous] at hread
  exact absurd hread (by simp)

/-- **Device matching**: without a specification among the texts there is nothing to match against.
Otherwise the texts decide against a device exactly if an exception among their specifications
excludes it, or some of these accept devices and none of them accepts it; in every other case it
matches. An exception without a tag, other than the one of all devices, excludes none. All of this
goes by the set of the texts: neither their order nor their repetitions show in the verdict, nor do
blank texts and bare exceptions, wherever they stand. It holds whichever names patterns match. -/
theorem judgeBy_iff_rejectedBy_and_congr (patterns : Patterns) (d : Device) :
    (∀ texts, d.judgeBy patterns texts = .noSpecs ↔ texts.filterMap Spec.read? = [])
    ∧ (∀ texts, d.judgeBy patterns texts = .notMatched ↔
        d.RejectedBy patterns (texts.filterMap Spec.read?))
    ∧ (∀ texts, d.judgeBy patterns texts = .matched ↔
        texts.filterMap Spec.read? ≠ [] ∧ ¬ d.RejectedBy patterns (texts.filterMap Spec.read?))
    ∧ (∀ text body : String, Text.trim text = "except:" ++ body → body ≠ "*" →
        (∀ tag ∈ Spec.tags, ¬ tag.1 <+: body.toList) →
        ∀ s, Spec.read? text = some s → s.accepts patterns d = false)
    ∧ ∀ texts texts' : List String,
        (∀ text, ¬ Spec.Vacuous text → (text ∈ texts ↔ text ∈ texts')) →
        d.judgeBy patterns texts = d.judgeBy patterns texts' := by
  refine ⟨fun texts => judgeSpecs_eq_noSpecs_iff, fun texts => judgeSpecs_eq_notMatched_iff,
    fun texts => judgeSpecs_eq_matched_iff, ?_, ?_⟩
  · intro text body htext hany huntagged s hread
    rw [Spec.criterion_of_untagged htext hany huntagged hread]
    exact Spec.accepts_of_untagged_except patterns body d
  · intro texts texts' h
    exact judgeSpecs_congr (mem_filterMap_read?_congr h)

/-- A name that is accepted by its tag and, untagged, excepted without effect; then the same texts
in another order, one of them twice, among vacuous ones. The same name behind its tag, excepted by a
pattern, and a type that the device is not of decide against it. Vacuous texts alone are nothing to
match against. -/
theorem judgeBy_untagged_exception :
    let d := named "eth1"
    let judge := d.judgeBy Glob.globMatches
    let texts := ["interface-name:=eth1", "except:eth1"]
    let texts' := ["except: ", "except:eth1", "interface-name:=eth1", "", "interface-name:=eth1"]
    (∀ s, Spec.read? "except:eth1" = some s → s.accepts Glob.globMatches d = false)
      ∧ judge texts = .matched ∧ judge texts' = .matched
      ∧ judge ["interface-name:=eth1", "except:interface-name:eth*"] = .notMatched
      ∧ judge ["except:interface-name:wlan*", "type:wifi"] = .notMatched
      ∧ judge [" ", " except: "] = .noSpecs := by
  intro d judge texts texts'
  obtain ⟨hnone, hnotMatched, -, huntagged, hcongr⟩ :=
    judgeBy_iff_rejectedBy_and_congr Glob.globMatches d
  have hmatched : judge texts = .matched := by decide +kernel
  have hsame : ∀ text, ¬ Spec.Vacuous text → (text ∈ texts ↔ text ∈ texts') := by
    intro text hsubstance
    have hbare : text ≠ "except: " := fun h => hsubstance (h ▸ by decide +kernel)
    have hblank : text ≠ "" := fun h => hsubstance (h ▸ by decide +kernel)
    simp [texts, texts', hbare, hblank, or_comm]
  refine ⟨?_, hmatched, (hcongr texts texts' hsame).symm.trans hmatched, ?_, ?_, ?_⟩
  · exact huntagged "except:eth1" "eth1" (by decide +kernel) (by decide) (by decide +kernel)
  · exact (hnotMatched _).mpr (.inl (by decide +kernel))
  · exact (hnotMatched _).mpr (.inr (by decide +kernel))
  · exact (hnone _).mpr (by decide +kernel)

end Device

end ProfileMatch
