import Mathlib.Tactic.Common
import ProfileMatch.Device.Hardware
import ProfileMatch.Proofs.Number.Hexadecimal
import ProfileMatch.Proofs.Text.Parts
import ProfileMatch.Proofs.Text.Trimming
/-!
The notation of hardware addresses and of channel addresses.

* `WritesHardware`: octets of two characters each, between colons and hyphens;
* `WritesChannel`, `WritesSubchannels`: three numbers between points; a list of such items with
  commas, each with blanks around it;
* `readHardware?_iff_and_readSubchannels?_iff`: the readers accept this notation, with the values
  that it writes, and nothing else. A number in it may have a plus sign in front;
* `exists_read_with_sign`: so a text with signs is taken as an address.
-/

namespace ProfileMatch.Device

open Number

variable {text : String} {number : ℕ → List Char → Prop}

/-- The separators between the octets of a hardware address. -/
def isOctetSeparator (c : Char) : Bool := c == ':' || c == '-'

/-- A text writes octets between colons and hyphens, each with two characters that write its number
in a given way. -/
def WritesHardware (number : ℕ → List Char → Prop) (octets : List UInt8) (text : String) : Prop :=
  Text.Joined isOctetSeparator (fun b w => w.length = 2 ∧ number b.toNat w) octets text.toList

/-- Characters write a channel address: three numbers of 32 bits between points, each written in a
given way. -/
def WritesChannel (number : ℕ → List Char → Prop) (channel : List ℕ) (w : List Char) : Prop :=
  channel.length = 3 ∧ Text.Joined (· == '.') (fun n part => n < 2 ^ 32 ∧ number n part) channel w

/-- A text writes a list of channel addresses with commas, each with blanks around it. -/
def WritesSubchannels (number : ℕ → List Char → Prop) (channels : List (List ℕ)) (text : String) :
    Prop :=
  Text.Joined (· == ',')
    (fun channel item => ∃ w, Text.Padded w item ∧ WritesChannel number channel w)
    channels text.toList

/-! ### Hardware addresses -/

/-- An octet is read off two characters that write its number. -/
lemma readHardwareOctet?_eq_some_iff {w : List Char} {b : UInt8} :
    readHardwareOctet? w = some b ↔ w.length = 2 ∧ WritesNumber b.toNat w := by
  constructor
  · intro h
    unfold readHardwareOctet? at h
    split at h
    · rename_i c c'
      split at h
      · rename_i i hread
        obtain ⟨n, rfl, hn, hwrites⟩ := (IntegerRange.readChars_eq_ok_iff rfl).mp hread
        change (n : Int) ≤ 255 at hn
        obtain rfl := Option.some.inj h
        have hvalue : (UInt8.ofNat (n : Int).toNat).toNat = n := by
          rw [Int.toNat_natCast, UInt8.toNat_ofNat', Nat.mod_eq_of_lt (by omega)]
        exact ⟨rfl, hvalue.symm ▸ hwrites⟩
      · cases h
    · cases h
  · rintro ⟨hlength, hwrites⟩
    obtain ⟨c, c', rfl⟩ := List.length_eq_two.mp hlength
    have hfits : ((b.toNat : ℕ) : Int) ≤ IntegerRange.u8.greatest := by
      have hlt := b.toNat_lt
      change (b.toNat : Int) ≤ 255
      omega
    have hread := (IntegerRange.readChars_eq_ok_iff rfl).mpr ⟨b.toNat, rfl, hfits, hwrites⟩
    rw [readHardwareOctet?, hread]
    simp

/-- **Hardware addresses** are read exactly as they are written. -/
lemma readHardware?_eq_some_iff {octets : List UInt8} :
    readHardware? text = some octets ↔ WritesHardware WritesNumber octets text := by
  refine Text.mapM_splitOnP_eq_some_iff (fun _ _ => readHardwareOctet?_eq_some_iff) ?_
  rintro b w ⟨-, hwrites⟩ c hc
  have hcolon : c ≠ ':' := fun h => hwrites.notMem (by decide) (by decide) (h ▸ hc)
  have hhyphen : c ≠ '-' := fun h => hwrites.notMem (by decide) (by decide) (h ▸ hc)
  simp [hcolon, hhyphen]

/-! ### Channel addresses -/

/-- A part of a channel address is a number of 32 bits. -/
lemma readChannelPart?_eq_some_iff {part : List Char} {n : ℕ} :
    readChannelPart? part = some n ↔ n < 2 ^ 32 ∧ WritesNumber n part := by
  constructor
  · intro h
    unfold readChannelPart? at h
    split at h
    · rename_i i hread
      obtain ⟨m, rfl, hm, hwrites⟩ := (IntegerRange.readChars_eq_ok_iff rfl).mp hread
      change (m : Int) ≤ 4294967295 at hm
      obtain rfl := Option.some.inj h
      rw [Int.toNat_natCast]
      exact ⟨by omega, hwrites⟩
    · cases h
  · rintro ⟨hlt, hwrites⟩
    have hfits : (n : Int) ≤ IntegerRange.u32.greatest := by
      change (n : Int) ≤ 4294967295
      omega
    have hread := (IntegerRange.readChars_eq_ok_iff rfl).mpr ⟨n, rfl, hfits, hwrites⟩
    rw [readChannelPart?, hread]
    simp

/-- The parts of a channel address are read as they are written. -/
lemma mapM_readChannelPart?_eq_some_iff {w : List Char} {channel : List ℕ} :
    (w.splitOn '.').mapM readChannelPart? = some channel ↔
      Text.Joined (· == '.') (fun n part => n < 2 ^ 32 ∧ WritesNumber n part) channel w := by
  refine Text.mapM_splitOnP_eq_some_iff (fun _ _ => readChannelPart?_eq_some_iff) ?_
  rintro n part ⟨-, hwrites⟩ c hc
  have hpoint : c ≠ '.' := fun h => hwrites.notMem (by decide) (by decide) (h ▸ hc)
  simp [hpoint]

/-- Neither blanks nor commas stand in a channel address. -/
lemma WritesChannel.forall_mem {w : List Char} {channel : List ℕ}
    (h : WritesChannel WritesNumber channel w) : ∀ c ∈ w, Text.isBlank c = false ∧ c ≠ ',' := by
  refine h.2.forall_mem ?_ ?_
  · intro c hc
    rw [beq_iff_eq] at hc
    subst hc
    decide
  · rintro n part ⟨-, hwrites⟩ c hc
    exact ⟨hwrites.isBlank_eq_false c hc,
      fun hcomma => hwrites.notMem (by decide) (by decide) (hcomma ▸ hc)⟩

/-- A channel address is read as it is written, whatever blanks stand around it. -/
lemma readChannel?_eq_some_iff {item : List Char} {channel : List ℕ} :
    readChannel? item = some channel ↔
      ∃ w, Text.Padded w item ∧ WritesChannel WritesNumber channel w := by
  have hparts (w : List Char) :
      (if (w.splitOn '.').length = 3 then (w.splitOn '.').mapM readChannelPart? else none)
        = some channel ↔ WritesChannel WritesNumber channel w := by
    rw [WritesChannel, ← mapM_readChannelPart?_eq_some_iff]
    constructor
    · intro h
      split_ifs at h with hlength
      exact ⟨(mapM_eq_some_iff.mp h).length_eq ▸ hlength, h⟩
    · rintro ⟨hlength, h⟩
      rw [if_pos ((mapM_eq_some_iff.mp h).length_eq.trans hlength)]
      exact h
  constructor
  · intro h
    exact ⟨Text.trimChars item, (Text.trimChars_eq_iff.mp rfl).2, (hparts _).mp h⟩
  · rintro ⟨w, hpadded, hwrites⟩
    have htrimmed : Text.Trimmed w :=
      Text.trimmed_of_forall fun c hc => (hwrites.forall_mem c hc).1
    rw [readChannel?, Text.trimChars_eq_iff.mpr ⟨htrimmed, hpadded⟩]
    exact (hparts w).mpr hwrites

/-- **Lists of channel addresses** are read exactly as they are written. -/
lemma readSubchannels?_eq_some_iff {channels : List (List ℕ)} :
    readSubchannels? text = some channels ↔ WritesSubchannels WritesNumber channels text := by
  refine Text.mapM_splitOnP_eq_some_iff (fun _ _ => readChannel?_eq_some_iff) ?_
  rintro channel item ⟨w, hpadded, hwrites⟩ c hc
  have hcomma : c ≠ ',' := by
    rintro rfl
    exact hpadded.notMem (by decide) (fun hmem => (hwrites.forall_mem _ hmem).2 rfl) hc
  simp [hcomma]

/-! ### Signs -/

/-- Where every number may be written in another way, so may a hardware address. -/
lemma WritesHardware.imp {number' : ℕ → List Char → Prop} {octets : List UInt8}
    (h : WritesHardware number octets text)
    (himp : ∀ n w, w ⊆ text.toList → number n w → number' n w) :
    WritesHardware number' octets text :=
  Text.Joined.imp h fun _ w hsub hw => ⟨hw.1, himp _ w hsub hw.2⟩

/-- Where every number may be written in another way, so may a list of channel addresses. -/
lemma WritesSubchannels.imp {number' : ℕ → List Char → Prop} {channels : List (List ℕ)}
    (h : WritesSubchannels number channels text)
    (himp : ∀ n w, w ⊆ text.toList → number n w → number' n w) :
    WritesSubchannels number' channels text := by
  refine Text.Joined.imp h ?_
  rintro channel item hitem ⟨w, hpadded, hlength, hparts⟩
  have hw : w ⊆ text.toList := List.Subset.trans hpadded.subset hitem
  refine ⟨w, hpadded, hlength, hparts.imp ?_⟩
  exact fun n part hpart hnumber => ⟨hnumber.1, himp n part (List.Subset.trans hpart hw) hnumber.2⟩

/-- No sign stands in a hardware address that is written with digits alone. -/
lemma WritesHardware.plus_notMem {octets : List UInt8} (h : WritesHardware WritesHex octets text) :
    '+' ∉ text.toList :=
  Text.Joined.notMem h (by decide) fun _ _ hw => hw.2.notMem (by decide)

/-- No sign stands in a list of channel addresses that is written with digits alone. -/
lemma WritesSubchannels.plus_notMem {channels : List (List ℕ)}
    (h : WritesSubchannels WritesHex channels text) : '+' ∉ text.toList := by
  refine Text.Joined.notMem h (by decide) ?_
  rintro channel item ⟨w, hpadded, -, hparts⟩
  have hw : '+' ∉ w := hparts.notMem (by decide) fun _ _ hpart => hpart.2.notMem (by decide)
  exact hpadded.notMem (by decide) hw

/-- **The readers of addresses** accept exactly their notation and give the values that it writes:
octets of two characters each, between colons and hyphens; channel addresses of three numbers of 32
bits between points, with commas between them and blanks around them. A number is written with
hexadecimal digits, of either case, and may have a plus sign in front. Of the texts that are read,
those without a plus sign are the ones that are written with digits alone. -/
theorem readHardware?_iff_and_readSubchannels?_iff (text : String) :
    (∀ octets, readHardware? text = some octets ↔ WritesHardware WritesNumber octets text)
    ∧ (∀ channels,
        readSubchannels? text = some channels ↔ WritesSubchannels WritesNumber channels text)
    ∧ (∀ octets, readHardware? text = some octets ∧ '+' ∉ text.toList ↔
        WritesHardware WritesHex octets text)
    ∧ ∀ channels, readSubchannels? text = some channels ∧ '+' ∉ text.toList ↔
        WritesSubchannels WritesHex channels text := by
  have hdigits (hplus : '+' ∉ text.toList) (n : ℕ) (w : List Char) (hw : w ⊆ text.toList)
      (h : WritesNumber n w) : WritesHex n w :=
    h.writesHex fun hmem => hplus (hw hmem)
  refine ⟨fun _ => readHardware?_eq_some_iff, fun _ => readSubchannels?_eq_some_iff, ?_, ?_⟩
  · intro octets
    rw [readHardware?_eq_some_iff]
    constructor
    · rintro ⟨h, hplus⟩
      exact h.imp (hdigits hplus)
    · intro h
      exact ⟨h.imp fun _ _ _ hn => .plain hn, h.plus_notMem⟩
  · intro channels
    rw [readSubchannels?_eq_some_iff]
    constructor
    · rintro ⟨h, hplus⟩
      exact h.imp (hdigits hplus)
    · intro h
      exact ⟨h.imp fun _ _ _ hn => .plain hn, h.plus_notMem⟩

/-- Texts with signs that are read as addresses, and taken for those without them. -/
theorem exists_read_with_sign :
    (∃ text, (readHardware? text).isSome = true
      ∧ (∀ octets, ¬WritesHardware WritesHex octets text)
      ∧ sameHardware text "00:11:22:33:44:05" = true)
    ∧ ∃ text, (readSubchannels? text).isSome = true
        ∧ (∀ channels, ¬WritesSubchannels WritesHex channels text)
        ∧ sameSubchannels text "0.0.8000" = true := by
  refine ⟨⟨"00:11:22:33:44:+5", by decide +kernel, ?_, by decide +kernel⟩,
    ⟨"0.0.+8000", by decide +kernel, ?_, by decide +kernel⟩⟩
  · intro octets h
    exact h.plus_notMem (by decide)
  · intro channels h
    exact h.plus_notMem (by decide)

end ProfileMatch.Device
