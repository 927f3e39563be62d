import Mathlib.Logic.Relation
import ProfileMatch.Proofs.Device.Notation
/-!
Lists of channel addresses are compared by what they mean.

* `channelMeaning`: the addresses of a list, or the text itself if it is no such list;
* `sameSubchannels_iff`: the comparison is the equality of meanings;
* `plainSubchannels_eq`: in small letters, without zeros in front of a part and without blanks
  around an item, all spellings of a list are one;
* `sameSubchannels_equivalence_and_iff`: so the comparison is an equivalence that sees the values
  and nothing of their spelling.
-/

namespace ProfileMatch.Device

open Number

variable {a b text : String} {channels channels' : List (List ℕ)}

/-! ### Meanings -/

/-- What a text means as a list of channel addresses: the addresses, or the text itself if it is no
such list. -/
def channelMeaning (text : String) : List (List ℕ) ⊕ String :=
  match readSubchannels? text with
  | some channels => .inl channels
  | none => .inr text

lemma channelMeaning_of_eq_some (h : readSubchannels? text = some channels) :
    channelMeaning text = .inl channels := by
  rw [channelMeaning, h]

lemma channelMeaning_of_eq_none (h : readSubchannels? text = none) :
    channelMeaning text = .inr text := by
  rw [channelMeaning, h]

/-- **The comparison of lists of channel addresses** is the equality of their meanings. -/
lemma sameSubchannels_iff :
    sameSubchannels a b = true ↔ channelMeaning a = channelMeaning b := by
  -- Texts differ where only one of them is a list of addresses.
  have hne (hread : readSubchannels? a ≠ readSubchannels? b) : a ≠ b :=
    fun h => hread (congrArg _ h)
  cases ha : readSubchannels? a with
  | none =>
      rw [channelMeaning_of_eq_none ha, sameSubchannels, ha]
      cases hb : readSubchannels? b with
      | none => simp [channelMeaning_of_eq_none hb]
      | some ys => simp [channelMeaning_of_eq_some hb, hne (by simp [ha, hb])]
  | some xs =>
      rw [channelMeaning_of_eq_some ha, sameSubchannels, ha]
      cases hb : readSubchannels? b with
      | none => simp [channelMeaning_of_eq_none hb, hne (by simp [ha, hb])]
      | some ys => simp [channelMeaning_of_eq_some hb]

/-- Lists of channel addresses are the same exactly if the addresses are. -/
lemma sameSubchannels_iff_of_eq_some (ha : readSubchannels? a = some channels)
    (hb : readSubchannels? b = some channels') :
    sameSubchannels a b = true ↔ channels = channels' := by
  rw [sameSubchannels_iff, channelMeaning_of_eq_some ha, channelMeaning_of_eq_some hb]
  exact Sum.inl_injective.eq_iff

/-! ### Spellings -/

/-- The parts of an item in small letters, without signs, zeros in front and blanks around it. -/
def plainChannel (item : List Char) : List (List Char) :=
  ((Text.trimChars item).splitOn '.').map plainDigits

/-- The items of a list, each with its parts in small letters, without signs, zeros in front and
blanks around it. -/
def plainSubchannels (text : String) : List (List (List Char)) :=
  (text.toList.splitOn ',').map plainChannel

/-- All spellings of a channel address have the same plain one. -/
lemma plainChannel_eq {item : List Char} {channel : List ℕ} (h : readChannel? item = some channel) :
    plainChannel item = channel.map neededDigits := by
  rw [readChannel?] at h
  split_ifs at h
  have hpart (part : List Char) (n : ℕ) (hread : readChannelPart? part = some n) :
      plainDigits part = neededDigits n :=
    plainDigits_eq (readChannelPart?_eq_some_iff.mp hread).2
  exact map_eq_map_of_mapM_eq_some hpart h

/-- **All spellings of a list of channel addresses** have the same plain one. -/
lemma plainSubchannels_eq (h : readSubchannels? text = some channels) :
    plainSubchannels text = channels.map (List.map neededDigits) :=
  map_eq_map_of_mapM_eq_some (fun _ _ => plainChannel_eq) h

/-- Lists of channel addresses are the same exactly if their plain spellings are. -/
lemma plainSubchannels_eq_iff (ha : readSubchannels? a = some channels)
    (hb : readSubchannels? b = some channels') :
    plainSubchannels a = plainSubchannels b ↔ channels = channels' := by
  have hinjective : Function.Injective (List.map (List.map neededDigits)) :=
    List.map_injective_iff.mpr (List.map_injective_iff.mpr neededDigits_injective)
  rw [plainSubchannels_eq ha, plainSubchannels_eq hb]
  exact hinjective.eq_iff

/-! ### The comparison as a whole -/

/-- **The comparison of lists of channel addresses** is an equivalence on all texts. A text that can
be read is never the same as one that cannot. Two that can be read are the same exactly if nothing
is different about them but the case of letters, signs, zeros in front of a part and blanks around
an item, and this is so exactly if they write the same numbers in the same places. -/
theorem sameSubchannels_equivalence_and_iff :
    (Equivalence fun a b => sameSubchannels a b = true)
    ∧ (∀ a b, (readSubchannels? a).isSome = true → readSubchannels? b = none →
        sameSubchannels a b = false)
    ∧ (∀ a b, (readSubchannels? a).isSome = true → (readSubchannels? b).isSome = true →
        (sameSubchannels a b = true ↔ plainSubchannels a = plainSubchannels b))
    ∧ ∀ a b channels channels', WritesSubchannels WritesNumber channels a →
        WritesSubchannels WritesNumber channels' b →
        (sameSubchannels a b = true ↔ channels = channels') := by
  refine ⟨?_, ?_, ?_, ?_⟩
  · simp only [sameSubchannels_iff]
    exact eq_equivalence.comap channelMeaning
  · intro a b ha hb
    obtain ⟨channels, ha⟩ := Option.isSome_iff_exists.mp ha
    rw [← Bool.not_eq_true, sameSubchannels_iff, channelMeaning_of_eq_some ha,
      channelMeaning_of_eq_none hb]
    exact Sum.inl_ne_inr
  · intro a b ha hb
    obtain ⟨channels, ha⟩ := Option.isSome_iff_exists.mp ha
    obtain ⟨channels', hb⟩ := Option.isSome_iff_exists.mp hb
    rw [sameSubchannels_iff_of_eq_some ha hb, plainSubchannels_eq_iff ha hb]
  · intro a b channels channels' ha hb
    exact sameSubchannels_iff_of_eq_some (readSubchannels?_eq_some_iff.mpr ha)
      (readSubchannels?_eq_some_iff.mpr hb)

/-- A list in two spellings, in another order, and a text that is none. -/
theorem sameSubchannels_spellings :
    sameSubchannels "0.0.8000,0.0.00aF" " 0.0.08000 ,0.0.Af" = true
      ∧ sameSubchannels "0.0.8000,0.0.00aF" "0.0.af,0.0.8000" = false
      ∧ sameSubchannels "0.0.8000" "0.8000" = false := by
  obtain ⟨-, hunread, hplain, hvalues⟩ := sameSubchannels_equivalence_and_iff
  have hwrites {text : String} {channels : List (List ℕ)}
      (h : readSubchannels? text = some channels) : WritesSubchannels WritesNumber channels text :=
    readSubchannels?_eq_some_iff.mp h
  have horder := hvalues "0.0.8000,0.0.00aF" "0.0.af,0.0.8000" [[0, 0, 32768], [0, 0, 175]]
    [[0, 0, 175], [0, 0, 32768]] (hwrites (by decide +kernel)) (hwrites (by decide +kernel))
  refine ⟨(hplain _ _ (by decide +kernel) (by decide +kernel)).mpr (by decide +kernel), ?_,
    hunread _ _ (by decide +kernel) (by decide +kernel)⟩
  rw [← Bool.not_eq_true, horder]
  decide

end ProfileMatch.Device
