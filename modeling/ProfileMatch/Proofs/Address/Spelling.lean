import Mathlib.Tactic.Common
import ProfileMatch.Proofs.Address.RoundTrip
/-!
How addresses are spelled.

* `eq_dotted_of_readDottedOctets?`: octets between points are spelled in one way only;
* `eq_text_of_read?`: so an address of the narrow family has no other spelling than that in which it
  is written; one of the wide family has;
* `read?_eq_none_of_mem`: no address is spelled with a character other than digits, points and
  colons, so that a slash always stands behind it.
-/

namespace ProfileMatch.Address

open Number

/-- The empty text is no address. -/
lemma read?_empty : read? "" = none := by decide

/-- An octet has one spelling. -/
lemma eq_toDigits_of_readOctet? {cs : List Char} {o : UInt8} (h : readOctet? cs = some o) :
    cs = Nat.toDigits 10 o.toNat := by
  rw [readOctet?] at h
  split_ifs at h with hshape
  cases hn : ofDigitText? 10 cs with
  | none =>
      rw [hn] at h
      cases h
  | some n =>
      simp only [hn] at h
      split_ifs at h with hlt
      cases h
      have hvalue : (UInt8.ofNat n).toNat = n := UInt8.toNat_ofNat_of_lt hlt
      rw [hvalue]
      exact eq_toDigits_of_ofDigitText? hn fun hfront => hshape (.inr hfront)

/-- Octets between points have one spelling. -/
lemma eq_dotted_of_readDottedOctets? {cs : List Char} {os : List UInt8}
    (h : readDottedOctets? cs = some os) : cs = dotted os := by
  have hread := (Option.filter_eq_some_iff.mp h).1
  have hparts := eq_map_of_mapM_eq_some (fun _ _ ho => eq_toDigits_of_readOctet? ho) hread
  rw [dotted, ← hparts, List.intercalate_splitOn]

/-- What is read between colons is of the wide family. -/
lemma family_of_ofGroups? {gs : List ℕ} {a : Address} (h : ofGroups? gs = some a) :
    a.family = .v6 := by
  rw [ofGroups?] at h
  split_ifs at h
  cases h
  rfl

lemma family_of_readGrouped? {cs : List Char} {a : Address} (h : readGrouped? cs = some a) :
    a.family = .v6 := by
  rw [readGrouped?] at h
  split at h
  · obtain ⟨gs, -, hgs⟩ := Option.bind_eq_some_iff.mp h
    exact family_of_ofGroups? hgs
  · split at h
    · split_ifs at h
      exact family_of_ofGroups? h
    · cases h

/-- **Narrow addresses have one spelling.** -/
lemma eq_text_of_read? {s : String} {a : Address} (h : read? s = some a)
    (hfamily : a.family = .v4) : s = a.text := by
  rw [read?, readChars?, Option.or_eq_some_iff] at h
  rcases h with hdotted | ⟨-, hgrouped⟩
  · rw [readDotted?] at hdotted
    cases hos : readDottedOctets? s.toList with
    | none =>
        rw [hos] at hdotted
        cases hdotted
    | some os =>
        simp only [hos] at hdotted
        split_ifs at hdotted with hlength
        cases hdotted
        rw [text, chars, ← eq_dotted_of_readDottedOctets? hos, String.ofList_toList]
  · rw [family_of_readGrouped? hgrouped] at hfamily
    cases hfamily

/-! ### Characters of addresses -/

/-- A character that stands in no spelling of an address. -/
structure Foreign (c : Char) : Prop where
  ne_point : c ≠ '.'
  ne_colon : c ≠ ':'
  decimal : digit? 10 c = none
  hexadecimal : digit? 16 c = none

lemma foreign_slash : Foreign '/' := ⟨by decide, by decide, by decide, by decide⟩

section Foreign

variable {c : Char} {cs : List Char}

lemma Foreign.readGroup?_eq_none (hc : Foreign c) (h : c ∈ cs) : readGroup? cs = none := by
  rw [readGroup?, ofDigitText?_eq_none h hc.hexadecimal]
  split_ifs <;> rfl

/-- One part with a foreign character spoils the groups. -/
lemma Foreign.readGroupList?_eq_none (hc : Foreign c) (tail : Bool) {parts : List (List Char)}
    {part : List Char} (hpart : part ∈ parts) (h : c ∈ part) :
    readGroupList? tail parts = none := by
  have hgroup := hc.readGroup?_eq_none h
  have hoctets := readDottedOctets?_eq_none h hc.ne_point hc.decimal
  induction parts with
  | nil => exact absurd hpart List.not_mem_nil
  | cons part' parts ih =>
      cases parts with
      | nil =>
          rw [List.mem_singleton.mp hpart] at hgroup hoctets
          rw [readGroupList?, hgroup]
          simp [hoctets]
      | cons part'' parts =>
          rcases List.mem_cons.mp hpart with rfl | hpart
          · simp [readGroupList?, hgroup]
          · simp [readGroupList?, ih hpart]

lemma Foreign.readPart?_eq_none (hc : Foreign c) (tail : Bool) (h : c ∈ cs) :
    readPart? tail cs = none := by
  obtain ⟨part, hpart, hmem⟩ := Text.exists_mem_splitOn ':' h hc.ne_colon
  rw [readPart?, if_neg (by simpa using List.ne_nil_of_mem h),
    hc.readGroupList?_eq_none tail hpart hmem]

/-- The double colon of a text, and what stands before and behind it. -/
lemma eq_of_cutDouble? {front back : List Char} (h : cutDouble? cs = some (front, back)) :
    cs = front ++ ':' :: ':' :: back := by
  fun_induction cutDouble? cs generalizing front with
  | case1 cs =>
      cases h
      rfl
  | case2 c cs _ ih =>
      obtain ⟨⟨front', back'⟩, hcut, hpair⟩ := Option.map_eq_some_iff.mp h
      cases hpair
      rw [ih hcut]
      rfl
  | case3 => cases h

/-- **Foreign characters** stand in no spelling of an address. -/
lemma read?_eq_none_of_mem {s : String} (hc : Foreign c) (h : c ∈ s.toList) : read? s = none := by
  have hdotted : readDotted? s.toList = none := by
    rw [readDotted?, readDottedOctets?_eq_none h hc.ne_point hc.decimal]
  have hgrouped : readGrouped? s.toList = none := by
    rw [readGrouped?]
    cases hcut : cutDouble? s.toList with
    | none => simp [hc.readPart?_eq_none true h]
    | some sides =>
        obtain ⟨front, back⟩ := sides
        have hsides : c ∈ front ∨ c ∈ back := by
          simpa [eq_of_cutDouble? hcut, hc.ne_colon] using h
        rcases hsides with hfront | hback
        · simp [hc.readPart?_eq_none false hfront]
        · simp [hc.readPart?_eq_none true hback]
  rw [read?, readChars?, hdotted, hgrouped, Option.none_or]

end Foreign

end ProfileMatch.Address
