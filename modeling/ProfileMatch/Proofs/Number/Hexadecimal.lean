import Mathlib.Data.List.Induction
import Mathlib.Tactic.Common
import ProfileMatch.Proofs.Number.Digits
import ProfileMatch.Proofs.Text.Words
/-!
Hexadecimal numbers, with letters of either case and any number of zeros in front.

* `IsHexDigit`, `WritesHex`: a character is the digit of a value; digits write a number;
* `digit?_sixteen_iff`: the digits are those that are read;
* `WritesNumber`: the same with a plus sign allowed in front;
* `IntegerRange.readChars_eq_ok_iff`: what is read in a range without negative numbers are the
  numbers of the range, written so;
* `plainDigits_eq`: without a sign, without zeros in front and in small letters, all spellings of a
  number are one.
-/

namespace ProfileMatch

namespace Number

variable {n d : ℕ} {c : Char} {cs : List Char}

/-- A character is the hexadecimal digit of a value; a letter may be small or capital. -/
def IsHexDigit (d : ℕ) (c : Char) : Prop :=
  d < 16 ∧ (c = d.digitChar ∨ c = d.digitChar.toUpper)

/-- Hexadecimal digits, at least one, write a number. -/
inductive WritesHex : ℕ → List Char → Prop
  | digit {d : ℕ} {c : Char} (hd : IsHexDigit d c) : WritesHex d [c]
  | more {n d : ℕ} {cs : List Char} {c : Char} (h : WritesHex n cs) (hd : IsHexDigit d c) :
      WritesHex (n * 16 + d) (cs ++ [c])

/-- Hexadecimal digits write a number; a plus sign may stand in front of them. -/
inductive WritesNumber : ℕ → List Char → Prop
  | plain {n : ℕ} {cs : List Char} (h : WritesHex n cs) : WritesNumber n cs
  | plus {n : ℕ} {cs : List Char} (h : WritesHex n cs) : WritesNumber n ('+' :: cs)

/-! ### Digits -/

/-- What holds of the small and of the capital digit of every value holds of all digits. -/
lemma IsHexDigit.of_forall {P : ℕ → Char → Prop}
    (hall : ∀ d < 16, P d d.digitChar ∧ P d d.digitChar.toUpper) (h : IsHexDigit d c) : P d c := by
  obtain ⟨hd, rfl | rfl⟩ := h
  · exact (hall d hd).1
  · exact (hall d hd).2

/-- The digits of the values are read as these. -/
lemma IsHexDigit.digit?_eq (h : IsHexDigit d c) : digit? 16 c = some d :=
  h.of_forall (P := fun d c => digit? 16 c = some d) (by decide)

/-- **The hexadecimal digits** are the characters that are read as one. -/
lemma digit?_sixteen_iff : digit? 16 c = some d ↔ IsHexDigit d c := by
  constructor
  · intro h
    have hd : d < 16 := by simpa using (Option.filter_eq_some_iff.mp h).2
    have hc : c.toNat < 128 := (toNat_of_digit? (Option.isSome_iff_exists.mpr ⟨d, h⟩)).2
    have hall : ∀ n < 128, ∀ d < 16, digit? 16 (Char.ofNat n) = some d →
        Char.ofNat n = d.digitChar ∨ Char.ofNat n = d.digitChar.toUpper := by decide +kernel
    have hspelled := hall c.toNat hc d hd
    rw [Char.ofNat_toNat] at hspelled
    exact ⟨hd, hspelled h⟩
  · exact IsHexDigit.digit?_eq

/-! ### Numbers -/

/-- Some digits write a number. -/
lemma WritesHex.ne_nil (h : WritesHex n cs) : cs ≠ [] := by
  cases h <;> simp

/-- The characters of a number are digits. -/
lemma WritesHex.isSome_digit? (h : WritesHex n cs) : ∀ c ∈ cs, (digit? 16 c).isSome := by
  induction h with
  | digit hd => simp [hd.digit?_eq]
  | more h hd ih =>
      intro c hc
      rcases List.mem_append.mp hc with hc | hc
      · exact ih c hc
      · rw [List.mem_singleton.mp hc, hd.digit?_eq]
        rfl

/-- A character that is no digit stands nowhere in a number. -/
lemma WritesHex.notMem (h : WritesHex n cs) (hdigit : digit? 16 c = none) : c ∉ cs := by
  intro hc
  have hsome := h.isSome_digit? c hc
  rw [hdigit] at hsome
  exact absurd hsome (by simp)

/-- A character that is neither a digit nor the sign stands nowhere in a number with a sign. -/
lemma WritesNumber.notMem (h : WritesNumber n cs) (hplus : c ≠ '+') (hdigit : digit? 16 c = none) :
    c ∉ cs := by
  cases h with
  | plain h => exact h.notMem hdigit
  | plus h => exact List.not_mem_cons_of_ne_of_not_mem hplus (h.notMem hdigit)

/-- No blank stands in a number. -/
lemma WritesNumber.isBlank_eq_false (h : WritesNumber n cs) :
    ∀ c ∈ cs, Text.isBlank c = false := by
  intro c hc
  cases h with
  | plain h => exact Text.isBlank_eq_false_of_digit? (h.isSome_digit? c hc)
  | plus h =>
      rcases List.mem_cons.mp hc with rfl | hc
      · decide
      · exact Text.isBlank_eq_false_of_digit? (h.isSome_digit? c hc)

/-- Without a plus sign, a number is digits alone. -/
lemma WritesNumber.writesHex (h : WritesNumber n cs) (hplus : '+' ∉ cs) : WritesHex n cs := by
  cases h with
  | plain h => exact h
  | plus h => exact absurd List.mem_cons_self hplus

/-! ### Spellings of one number -/

/-- The digits of a number in small letters, without a sign and without zeros in front. -/
def plainDigits (cs : List Char) : List Char :=
  (cs.dropWhile fun c => c == '+' || c == '0').map Char.toLower

/-- The digits that a number needs: none for zero. -/
def neededDigits (n : ℕ) : List Char :=
  if n = 0 then [] else Nat.toDigits 16 n

lemma neededDigits_injective : Function.Injective neededDigits := by
  intro n m h
  rw [neededDigits, neededDigits] at h
  split_ifs at h with hn hm hm
  · rw [hn, hm]
  · exact absurd h.symm Nat.toDigits_ne_nil
  · exact absurd h Nat.toDigits_ne_nil
  · have hread := ofDigitText?_toDigits isBase_sixteen n
    rw [h, ofDigitText?_toDigits isBase_sixteen m] at hread
    exact (Option.some.inj hread).symm

/-- One more digit is needed, unless it is a zero and none was needed before. -/
lemma neededDigits_more (hd : d < 16) :
    neededDigits (n * 16 + d) =
      if neededDigits n = [] ∧ d = 0 then [] else neededDigits n ++ [d.digitChar] := by
  by_cases hn : n = 0
  · subst hn
    by_cases hzero : d = 0
    · simp [neededDigits, hzero]
    · simp [neededDigits, hzero, Nat.toDigits_of_lt_base hd]
  · have hlast : Nat.toDigits 16 (n * 16 + d) = Nat.toDigits 16 n ++ [d.digitChar] := by
      rw [Nat.toDigits_of_base_le (by omega) (by omega), show (n * 16 + d) / 16 = n by omega,
        show (n * 16 + d) % 16 = d by omega]
    simp [neededDigits, hn, hlast, Nat.toDigits_ne_nil]

/-- A digit in small letters. -/
lemma IsHexDigit.toLower_eq (h : IsHexDigit d c) : c.toLower = d.digitChar :=
  h.of_forall (P := fun d c => c.toLower = d.digitChar) (by decide)

/-- Of the digits only zero is left out in front. -/
lemma IsHexDigit.dropped_iff (h : IsHexDigit d c) : (c == '+' || c == '0') = true ↔ d = 0 :=
  h.of_forall (P := fun d c => (c == '+' || c == '0') = true ↔ d = 0) (by decide)

/-- A digit behind others stays, unless it is a zero and nothing of the others did. -/
lemma plainDigits_append (hd : IsHexDigit d c) (cs : List Char) :
    plainDigits (cs ++ [c]) =
      if plainDigits cs = [] ∧ d = 0 then [] else plainDigits cs ++ [d.digitChar] := by
  have hkept : ([c].dropWhile fun c => c == '+' || c == '0') = if d = 0 then [] else [c] := by
    rw [List.dropWhile_cons, List.dropWhile_nil]
    exact if_congr hd.dropped_iff rfl rfl
  simp only [plainDigits, List.dropWhile_append, hkept]
  by_cases hnone : (cs.dropWhile fun c => c == '+' || c == '0') = []
  · by_cases hzero : d = 0
    · simp [hnone, hzero]
    · simp [hnone, hzero, hd.toLower_eq]
  · simp [hnone, hd.toLower_eq]

/-- All digits that write a number have the needed ones left. -/
lemma plainDigits_of_writesHex (h : WritesHex n cs) : plainDigits cs = neededDigits n := by
  induction h with
  | @digit d c hd =>
      have hneeded := neededDigits_more (n := 0) hd.1
      rw [Nat.zero_mul, Nat.zero_add] at hneeded
      rw [hneeded]
      exact plainDigits_append hd []
  | more h hd ih => rw [plainDigits_append hd, neededDigits_more hd.1, ih]

/-- **All spellings of a number are one** without a sign, without zeros in front and in small
letters. -/
lemma plainDigits_eq (h : WritesNumber n cs) : plainDigits cs = neededDigits n := by
  cases h with
  | plain h => exact plainDigits_of_writesHex h
  | @plus cs h =>
      rw [plainDigits, List.dropWhile_cons_of_pos rfl]
      exact plainDigits_of_writesHex h

end Number

/-! ### Integers of a range -/

namespace IntegerRange

open Number

variable {r : IntegerRange} {cs : List Char} {i : Int}

/-- Digits that write a number of the range are counted up to it. -/
lemma countUp_of_writesHex {n : ℕ} (h : WritesHex n cs) (hn : (n : Int) ≤ r.greatest) :
    r.countUp 16 0 cs = .ok n := by
  induction h with
  | digit hd =>
      rw [countUp, hd.digit?_eq]
      simp [countUp, Int.not_lt.mpr hn]
  | more h hd ih =>
      push_cast at hn
      rw [countUp_append, ih (by omega)]
      simp [Except.bind, countUp, hd.digit?_eq, Int.not_lt.mpr hn]

/-- One more character is counted if it is a digit and keeps the number in the range. -/
lemma countUp_singleton_eq_ok_iff {j : Int} {c : Char} :
    r.countUp 16 j [c] = .ok i ↔ ∃ d, IsHexDigit d c ∧ i = j * 16 + d ∧ i ≤ r.greatest := by
  simp only [← digit?_sixteen_iff]
  rw [countUp]
  cases digit? 16 c with
  | none => simp
  | some d =>
      by_cases hlarge : r.greatest < j * 16 + d
      · simp [hlarge]
        omega
      · simp [hlarge, countUp]
        omega

/-- What digits are counted up to is the number that they write. -/
lemma exists_writesHex_of_countUp (hne : cs ≠ []) (h : r.countUp 16 0 cs = .ok i) :
    ∃ n : ℕ, i = n ∧ (n : Int) ≤ r.greatest ∧ WritesHex n cs := by
  induction cs using List.reverseRecOn generalizing i with
  | nil => exact absurd rfl hne
  | append_singleton cs c ih =>
      rw [countUp_append] at h
      obtain ⟨j, hj, hlast⟩ := bind_eq_ok_iff.mp h
      obtain ⟨d, hd, rfl, hle⟩ := countUp_singleton_eq_ok_iff.mp hlast
      cases hcs : cs with
      | nil =>
          subst hcs
          cases hj
          exact ⟨d, by simp, by simpa using hle, .digit hd⟩
      | cons c' cs' =>
          obtain ⟨n, rfl, -, hwrites⟩ := ih (by simp [hcs]) hj
          refine ⟨n * 16 + d, by push_cast; rfl, by push_cast; exact hle, ?_⟩
          rw [← hcs]
          exact .more hwrites hd

/-- **Numbers of a range without negative ones** are read from their digits, with a plus sign in
front or without one, and nothing else is read. -/
lemma readChars_eq_ok_iff (hr : r.least = 0) :
    r.readChars 16 cs = .ok i ↔
      ∃ n : ℕ, i = n ∧ (n : Int) ≤ r.greatest ∧ WritesNumber n cs := by
  constructor
  · intro h
    unfold readChars at h
    split at h
    · cases h
    · cases h
    · cases h
    · rename_i cs hne
      obtain ⟨n, hi, hn, hwrites⟩ := exists_writesHex_of_countUp hne h
      exact ⟨n, hi, hn, .plus hwrites⟩
    · simp [hr] at h
    · rename_i hnil _ _ _ _
      obtain ⟨n, hi, hn, hwrites⟩ := exists_writesHex_of_countUp hnil h
      exact ⟨n, hi, hn, .plain hwrites⟩
  · rintro ⟨n, rfl, hn, hwrites⟩
    cases hwrites with
    | plain h =>
        rw [← countUp_of_writesHex h hn]
        cases cs with
        | nil => exact absurd rfl h.ne_nil
        | cons c cs => exact readChars_of_digit (h.isSome_digit? c List.mem_cons_self)
    | @plus cs h =>
        rw [← countUp_of_writesHex h hn]
        cases cs with
        | nil => exact absurd rfl h.ne_nil
        | cons c cs => rfl

end IntegerRange

end ProfileMatch
