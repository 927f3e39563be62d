import Mathlib.Tactic.Common
import Mathlib.Tactic.IntervalCases
import ProfileMatch.Number.Bounded
import ProfileMatch.Number.Shortest
import ProfileMatch.Proofs.Reading
/-!
Numbers read back from their digits.

* `toDigits_induction`: the digits of a number are one digit, or those of its quotient by the base
  with one more behind them;
* `ofDigitText?_toDigits`, `ofDigitText?_eq_none`: a text of digits alone is read back, and nothing
  else is read as one;
* `eq_toDigits_of_ofDigitText?`: in decimal, what was read is spelled with the digits of its number
  unless there is a zero in front;
* `IntegerRange.readChars_toDigits`: so is an integer of a range, as long as it does not exceed it;
* `IntegerRange.read_decimal`: with its sign, every integer of a range is read back;
* `IntegerRange.holds_of_read?`: whatever is read as an integer of a range lies in it;
* `Number.decimal_ne_empty`, `Double.text_ne_empty`: no number is written without a character.
-/

namespace ProfileMatch

namespace Number

/-- The bases whose digits can be told. -/
structure IsBase (b : ℕ) : Prop where
  one_lt : 1 < b
  le_sixteen : b ≤ 16

lemma isBase_ten : IsBase 10 := ⟨by omega, by omega⟩

lemma isBase_sixteen : IsBase 16 := ⟨by omega, by omega⟩

/-- **Induction along digits.** -/
lemma toDigits_induction {b : ℕ} (hb : IsBase b) {P : ℕ → List Char → Prop}
    (digit : ∀ d < b, P d [d.digitChar])
    (more : ∀ n cs, ∀ d < b, 0 < n → P n cs → P (n * b + d) (cs ++ [d.digitChar])) (n : ℕ) :
    P n (Nat.toDigits b n) := by
  have hlt := hb.one_lt
  induction n using Nat.strongRecOn with
  | _ n ih =>
      by_cases hn : n < b
      · rw [Nat.toDigits_of_lt_base hn]
        exact digit n hn
      · rw [Nat.toDigits_of_base_le hlt (Nat.le_of_not_lt hn)]
        have hpos : 0 < n / b := Nat.div_pos (Nat.le_of_not_lt hn) (by omega)
        have hquotient := ih (n / b) (Nat.div_lt_self (by omega) hlt)
        have hstep := more (n / b) _ (n % b) (Nat.mod_lt n (by omega)) hpos hquotient
        rwa [Nat.mul_comm, Nat.div_add_mod] at hstep

section Digits

variable {b : ℕ}

/-- A digit is read as its value, in every base that has it. -/
lemma digit?_digitChar {d : ℕ} (hb : IsBase b) (hd : d < b) : digit? b d.digitChar = some d := by
  have hall : ∀ b < 17, ∀ d < b, digit? b d.digitChar = some d := by decide
  exact hall b (Nat.lt_succ_of_le hb.le_sixteen) d hd

/-- Digits stand in ASCII, behind its blanks and signs. -/
lemma toNat_of_digit? {c : Char} (h : (digit? b c).isSome) : 48 ≤ c.toNat ∧ c.toNat < 128 := by
  obtain ⟨d, hd⟩ := Option.isSome_iff_exists.mp h
  have hcode {first last : Char} (hc : first ≤ c ∧ c ≤ last) :
      first.toNat ≤ c.toNat ∧ c.toNat ≤ last.toNat := by
    rwa [Char.le_def, Char.le_def, UInt32.le_iff_toNat_le, UInt32.le_iff_toNat_le] at hc
  obtain ⟨hvalue, -⟩ := Option.filter_eq_some_iff.mp hd
  split_ifs at hvalue with hdecimal hsmall hcapital
  · have := hcode hdecimal
    simp only [Char.reduceToNat] at this
    omega
  · have := hcode hsmall
    simp only [Char.reduceToNat] at this
    omega
  · have := hcode hcapital
    simp only [Char.reduceToNat] at this
    omega

/-- The characters of a number are digits. -/
lemma isSome_digit?_of_mem_toDigits {n : ℕ} (hb : IsBase b) :
    ∀ c ∈ Nat.toDigits b n, (digit? b c).isSome := by
  refine toDigits_induction hb (P := fun _ cs => ∀ c ∈ cs, (digit? b c).isSome) ?_ ?_ n
  · intro d hd c hc
    rw [List.mem_singleton.mp hc, digit?_digitChar hb hd]
    rfl
  · intro n cs d hd _ ih c hc
    rcases List.mem_append.mp hc with hc | hc
    · exact ih c hc
    · rw [List.mem_singleton.mp hc, digit?_digitChar hb hd]
      rfl

/-- A character that is no digit stands nowhere in a number. -/
lemma notMem_toDigits {n : ℕ} {c : Char} (hb : IsBase b) (hc : digit? b c = none) :
    c ∉ Nat.toDigits b n := by
  intro hmem
  have hsome := isSome_digit?_of_mem_toDigits hb c hmem
  rw [hc] at hsome
  exact absurd hsome (by simp)

/-- Only zero is written with a zero in front. -/
lemma eq_zero_of_head?_toDigits {n : ℕ} (hb : IsBase b)
    (h : (Nat.toDigits b n).head? = some '0') : n = 0 := by
  refine (toDigits_induction hb
    (P := fun n cs => cs ≠ [] ∧ (cs.head? = some '0' → n = 0)) ?_ ?_ n).2 h
  · intro d hd
    exact ⟨List.cons_ne_nil _ _, fun hhead => Nat.digitChar_eq_zero.mp (Option.some.inj hhead)⟩
  · intro n cs d hd hn ih
    refine ⟨List.append_ne_nil_of_left_ne_nil ih.1 _, fun hhead => ?_⟩
    rw [List.head?_append, Option.or_of_isSome (List.isSome_head?.mpr ih.1)] at hhead
    exact absurd (ih.2 hhead) (by omega)

/-- **The digits of a number write it.** -/
lemma ofDigitText?_toDigits (hb : IsBase b) (n : ℕ) :
    ofDigitText? b (Nat.toDigits b n) = some n := by
  obtain ⟨ds, hds, hvalue⟩ : ∃ ds, (Nat.toDigits b n).mapM (digit? b) = some ds
      ∧ ofDigits b ds = n := by
    refine toDigits_induction hb
      (P := fun n cs => ∃ ds, cs.mapM (digit? b) = some ds ∧ ofDigits b ds = n) ?_ ?_ n
    · intro d hd
      exact ⟨[d], by simp [digit?_digitChar hb hd], by simp [ofDigits]⟩
    · rintro n cs d hd - ⟨ds, hds, hvalue⟩
      refine ⟨ds ++ [d], by simp [hds, digit?_digitChar hb hd], ?_⟩
      rw [ofDigits, List.foldl_append, ← ofDigits, hvalue]
      rfl
  rw [ofDigitText?, hds, Option.map_some, hvalue]
  simp

/-- A character that is no digit spoils a text of digits. -/
lemma ofDigitText?_eq_none {cs : List Char} {c : Char} (hc : c ∈ cs)
    (hdigit : digit? b c = none) : ofDigitText? b cs = none := by
  rw [ofDigitText?, mapM_eq_none hc hdigit]
  split_ifs <;> rfl

end Digits

/-! ### Decimal digits -/

/-- A decimal digit is written in one way. -/
lemma eq_digitChar_of_digit? {c : Char} {d : ℕ} (h : digit? 10 c = some d) :
    c = d.digitChar ∧ d < 10 := by
  obtain ⟨hvalue, hlt⟩ := Option.filter_eq_some_iff.mp h
  have hd : d < 10 := by simpa using hlt
  refine ⟨?_, hd⟩
  split_ifs at hvalue with hdecimal hlower hupper
  · obtain ⟨hfirst, hlast⟩ := hdecimal
    rw [Char.le_def, UInt32.le_iff_toNat_le] at hfirst hlast
    have hcode : c.toNat = 48 + d := by
      have hsub := Option.some.inj hvalue
      simp only [Char.reduceToNat] at hsub
      change 48 ≤ c.toNat at hfirst
      omega
    rw [← Char.ofNat_toNat c, hcode]
    interval_cases d <;> rfl
  · have hletter := Option.some.inj hvalue
    omega
  · have hletter := Option.some.inj hvalue
    omega

/-- Digits behind a number other than zero are the last ones of the number that all write. -/
lemma toDigits_append_of_mapM_digit? {n : ℕ} (hn : 0 < n) {cs : List Char} {ds : List ℕ}
    (h : cs.mapM (digit? 10) = some ds) :
    Nat.toDigits 10 n ++ cs = Nat.toDigits 10 (ds.foldl (fun n d => n * 10 + d) n) := by
  induction cs generalizing n ds with
  | nil =>
      cases h
      exact List.append_nil _
  | cons c cs ih =>
      rw [List.mapM_cons] at h
      obtain ⟨d, hd, hrest⟩ := Option.bind_eq_some_iff.mp h
      obtain ⟨ds', hds, hcons⟩ := Option.bind_eq_some_iff.mp hrest
      cases hcons
      obtain ⟨rfl, hlt⟩ := eq_digitChar_of_digit? hd
      have hlast : Nat.toDigits 10 (n * 10 + d) = Nat.toDigits 10 n ++ [d.digitChar] := by
        rw [Nat.toDigits_of_base_le (by omega) (by omega), show (n * 10 + d) / 10 = n by omega,
          show (n * 10 + d) % 10 = d by omega]
      rw [List.foldl_cons, ← ih (by omega) hds, hlast, List.append_assoc, List.singleton_append]

/-- **A number has one decimal spelling** without a zero in front. -/
lemma eq_toDigits_of_ofDigitText? {cs : List Char} {n : ℕ} (h : ofDigitText? 10 cs = some n)
    (hfront : ¬(cs.head? = some '0' ∧ cs.length ≠ 1)) : cs = Nat.toDigits 10 n := by
  rw [ofDigitText?] at h
  split_ifs at h with hempty
  obtain ⟨ds, hread, rfl⟩ := Option.map_eq_some_iff.mp h
  cases cs with
  | nil => exact absurd rfl hempty
  | cons c cs =>
      rw [List.mapM_cons] at hread
      obtain ⟨d, hd, hrest⟩ := Option.bind_eq_some_iff.mp hread
      obtain ⟨ds', hds, hcons⟩ := Option.bind_eq_some_iff.mp hrest
      cases hcons
      obtain ⟨rfl, hlt⟩ := eq_digitChar_of_digit? hd
      have hfirst : Nat.toDigits 10 d = [d.digitChar] := Nat.toDigits_of_lt_base hlt
      rw [ofDigits, List.foldl_cons, Nat.zero_mul, Nat.zero_add]
      by_cases hzero : d = 0
      · -- a zero in front stands alone
        subst hzero
        have hone : cs = [] := by simpa using hfront
        subst hone
        cases hds
        rfl
      · rw [← toDigits_append_of_mapM_digit? (by omega) hds, hfirst, List.singleton_append]

end Number

/-! ### Integers of a range -/

namespace IntegerRange

variable {r : IntegerRange} {b : ℕ}

lemma countUp_append (r : IntegerRange) (b : ℕ) (i : Int) (cs cs' : List Char) :
    r.countUp b i (cs ++ cs') = (r.countUp b i cs).bind fun j => r.countUp b j cs' := by
  induction cs generalizing i with
  | nil => rfl
  | cons c cs ih =>
      rw [List.cons_append, countUp, countUp]
      cases Number.digit? b c with
      | none => rfl
      | some d =>
          by_cases hlarge : r.greatest < i * b + d
          · simp only [hlarge, if_true]
            rfl
          · simp only [hlarge, if_false]
            exact ih _

/-- Digits are counted up to the number that they write. -/
lemma countUp_toDigits (hb : Number.IsBase b) {n : ℕ} (hn : n ≤ r.greatest) :
    r.countUp b 0 (Nat.toDigits b n) = .ok n := by
  refine Number.toDigits_induction hb
    (P := fun n cs => (n : Int) ≤ r.greatest → r.countUp b 0 cs = .ok n) ?_ ?_ n hn
  · intro d hd hle
    rw [countUp, Number.digit?_digitChar hb hd]
    simp [countUp, Int.not_lt.mpr hle]
  · intro n cs d hd _ ih hle
    have hquotient : (n : Int) ≤ r.greatest := by
      have hmul : n ≤ n * b := Nat.le_mul_of_pos_right n (by omega)
      omega
    rw [countUp_append, ih hquotient]
    push_cast at hle
    simp [Except.bind, countUp, Number.digit?_digitChar hb hd, Int.not_lt.mpr hle]

/-- A text that opens with a digit is counted up. -/
lemma readChars_of_digit {c : Char} {cs : List Char} (hc : (Number.digit? b c).isSome) :
    r.readChars b (c :: cs) = r.countUp b 0 (c :: cs) := by
  have hsign : c ≠ '+' ∧ c ≠ '-' := by
    constructor <;> rintro rfl <;> simp [Number.digit?] at hc
  rw [readChars]
  all_goals simp [hsign]

/-- **An integer of a range is read back from its digits.** -/
lemma readChars_toDigits (hb : Number.IsBase b) {n : ℕ} (hn : n ≤ r.greatest) :
    r.readChars b (Nat.toDigits b n) = .ok n := by
  rw [← countUp_toDigits hb hn]
  have hdigits := Number.isSome_digit?_of_mem_toDigits (n := n) hb
  cases hcs : Nat.toDigits b n with
  | nil => exact absurd hcs Nat.toDigits_ne_nil
  | cons c cs => exact readChars_of_digit (hdigits c (by rw [hcs]; exact List.mem_cons_self))

lemma read_repr {n : ℕ} (hn : n ≤ r.greatest) : r.read n.repr = .ok n := by
  rw [read, Nat.toList_repr]
  exact readChars_toDigits Number.isBase_ten hn

/-- The range of the opposite numbers. -/
def mirrored (r : IntegerRange) : IntegerRange := ⟨r.name, -r.greatest, -r.least⟩

/-- Counting down is counting up among the opposite numbers. -/
lemma countDown_eq_ok_iff {i j : Int} {cs : List Char} :
    r.countDown b i cs = .ok j ↔ r.mirrored.countUp b (-i) cs = .ok (-j) := by
  induction cs generalizing i with
  | nil => simp [countDown, countUp]
  | cons c cs ih =>
      rw [countDown, countUp]
      cases Number.digit? b c with
      | none => simp
      | some d =>
          have hnext : -i * b + d = -(i * b - d) := by rw [Int.neg_mul]; omega
          by_cases hsmall : i * b - d < r.least
          · have hlarge : r.mirrored.greatest < -(i * b - d) := Int.neg_lt_neg hsmall
            simp only [hnext, hsmall, hlarge, if_true]
            simp
          · have hlarge : ¬r.mirrored.greatest < -(i * b - d) := by
              intro h
              exact hsmall (Int.neg_lt_neg_iff.mp h)
            simp only [hnext, hsmall, hlarge, if_false]
            exact ih

lemma holds_iff {i : Int} : r.holds i = true ↔ r.least ≤ i ∧ i ≤ r.greatest := by
  simp [holds]

/-- **Integers of a range are read back** from the way in which they are written. -/
lemma read_decimal {i : Int} (h : r.holds i = true) : r.read (Number.decimal i) = .ok i := by
  obtain ⟨hleast, hgreatest⟩ := holds_iff.mp h
  cases i with
  | ofNat n => exact read_repr hgreatest
  | negSucc n =>
      have hdown : r.countDown 10 0 (Nat.toDigits 10 (n + 1)) = .ok (Int.negSucc n) := by
        rw [countDown_eq_ok_iff, Int.neg_zero, Int.neg_negSucc]
        refine countUp_toDigits Number.isBase_ten ?_
        change ((n + 1 : ℕ) : Int) ≤ -r.least
        omega
      have hchars : (Number.decimal (Int.negSucc n)).toList = '-' :: Nat.toDigits 10 (n + 1) := by
        simp [Number.decimal]
      rw [read, hchars]
      cases hcs : Nat.toDigits 10 (n + 1) with
      | nil => exact absurd hcs Nat.toDigits_ne_nil
      | cons c cs =>
          rw [readChars, if_pos (by omega), ← hcs, hdown]
          simp

/-- An integer is read if the reader that tells its faults succeeds. -/
lemma read?_eq_some_iff {s : String} {i : Int} : r.read? s = some i ↔ r.read s = .ok i := by
  constructor
  · exact eq_ok_of_toOption
  · intro h
    rw [read?, h]
    rfl

lemma read?_decimal {i : Int} (h : r.holds i = true) : r.read? (Number.decimal i) = some i :=
  read?_eq_some_iff.mpr (read_decimal h)

section Wider

variable {r' : IntegerRange}

lemma countUp_wider (hg : r.greatest ≤ r'.greatest) {i j : Int} {cs : List Char}
    (h : r.countUp b i cs = .ok j) : r'.countUp b i cs = .ok j := by
  induction cs generalizing i with
  | nil => exact h
  | cons c cs ih =>
      rw [countUp] at h ⊢
      cases hc : Number.digit? b c with
      | none => simp [hc] at h
      | some d =>
          simp only [hc] at h ⊢
          split_ifs at h with hlarge
          rw [if_neg (by omega)]
          exact ih h

lemma countDown_wider (hl : r'.least ≤ r.least) {i j : Int} {cs : List Char}
    (h : r.countDown b i cs = .ok j) : r'.countDown b i cs = .ok j := by
  rw [countDown_eq_ok_iff] at h ⊢
  exact countUp_wider (Int.neg_le_neg hl) h

/-- **What is read in a range** is read as the same integer in a wider one. -/
lemma read?_wider (hl : r'.least ≤ r.least) (hg : r.greatest ≤ r'.greatest) {s : String} {i : Int}
    (h : r.read? s = some i) : r'.read? s = some i := by
  rw [read?_eq_some_iff, read] at h ⊢
  unfold readChars at h ⊢
  split at h
  · cases h
  · cases h
  · cases h
  · exact countUp_wider hg h
  · split_ifs at h with hsign
    rw [if_pos (by omega)]
    exact countDown_wider hl h
  · exact countUp_wider hg h

end Wider

lemma countUp_bounds {i j : Int} {cs : List Char} (h : r.countUp b i cs = .ok j) (hi : 0 ≤ i)
    (hi' : i ≤ r.greatest) : 0 ≤ j ∧ j ≤ r.greatest := by
  induction cs generalizing i with
  | nil =>
      cases h
      exact ⟨hi, hi'⟩
  | cons c cs ih =>
      rw [countUp] at h
      cases hc : Number.digit? b c with
      | none => simp [hc] at h
      | some d =>
          simp only [hc] at h
          split_ifs at h with hlarge
          have hmul : 0 ≤ i * b := Int.mul_nonneg hi (by omega)
          exact ih h (by omega) (Int.not_lt.mp hlarge)

lemma countDown_bounds {i j : Int} {cs : List Char} (h : r.countDown b i cs = .ok j) (hi : i ≤ 0)
    (hi' : r.least ≤ i) : r.least ≤ j ∧ j ≤ 0 := by
  induction cs generalizing i with
  | nil =>
      cases h
      exact ⟨hi', hi⟩
  | cons c cs ih =>
      rw [countDown] at h
      cases hc : Number.digit? b c with
      | none => simp [hc] at h
      | some d =>
          simp only [hc] at h
          split_ifs at h with hsmall
          have hmul : i * b ≤ 0 := Int.mul_nonpos_of_nonpos_of_nonneg hi (by omega)
          exact ih h (by omega) (Int.not_lt.mp hsmall)

/-- **What is read as an integer of a range lies in it**, if zero does. -/
lemma holds_of_read? {s : String} {i : Int} (hl : r.least ≤ 0) (hg : 0 ≤ r.greatest)
    (h : r.read? s = some i) : r.holds i = true := by
  rw [holds_iff]
  rw [read?_eq_some_iff, read] at h
  unfold readChars at h
  split at h
  · cases h
  · cases h
  · cases h
  · have := countUp_bounds h (by omega) hg
    omega
  · split_ifs at h
    have := countDown_bounds h (by omega) hl
    omega
  · have := countUp_bounds h (by omega) hg
    omega

end IntegerRange

/-! ### Texts of numbers -/

lemma Number.decimal_ne_empty (i : Int) : decimal i ≠ "" := by
  cases i with
  | ofNat n => exact Nat.repr_ne_empty
  | negSucc n =>
      intro h
      exact absurd (congrArg String.toList h) (by simp [decimal])

lemma Double.Decimal.written_ne_empty (x : Decimal) : x.written ≠ "" := by
  intro h
  have hchars := congrArg String.toList h
  unfold written at hchars
  simp only at hchars
  split_ifs at hchars <;> simp at hchars

lemma Double.text_ne_empty (d : Double) : d.text ≠ "" := by
  rw [text]
  split_ifs
  · intro h
    exact absurd (congrArg String.toList h) (by simp)
  · exact d.shortest.written_ne_empty

end ProfileMatch
