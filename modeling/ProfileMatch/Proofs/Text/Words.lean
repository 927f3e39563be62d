import Mathlib.Tactic.Common
import ProfileMatch.Proofs.Number.Digits
import ProfileMatch.Text.Blank
/-!
Words and the lines that hold them.

* `Spaced`: a text holds words in order: blanks as many as there may be stand in front of them, at
  least one stands between two of them, and any number behind the last;
* `wordsOf_eq_iff`: the words of a text are those that it holds in this sense, and no others;
* `isWord_decimal`: a number is a word.
-/

namespace ProfileMatch.Text

variable {c : Char} {w cs : List Char} {ws : List (List Char)}

/-- A word: at least one character, none of them a blank. -/
structure IsWord (w : List Char) : Prop where
  ne_nil : w ≠ []
  notBlank : ∀ c ∈ w, isBlank c = false

/-- Whether a text is a word is told by its characters. -/
lemma isWord_iff_all : IsWord w ↔ w.isEmpty = false ∧ w.all (fun c => !isBlank c) = true := by
  constructor
  · intro hw
    exact ⟨by simp [hw.ne_nil], by simpa using hw.notBlank⟩
  · rintro ⟨hne, hall⟩
    exact ⟨by simpa using hne, by simpa using hall⟩

instance : Decidable (IsWord w) := decidable_of_iff _ isWord_iff_all.symm

/-- A text holds words in order, with blanks around and between them. -/
inductive Spaced : List (List Char) → List Char → Prop
  | nil : Spaced [] []
  | blank {c : Char} {ws : List (List Char)} {cs : List Char} (hc : isBlank c = true)
      (h : Spaced ws cs) : Spaced ws (c :: cs)
  | last {w : List Char} (hw : IsWord w) : Spaced [w] w
  | word {w : List Char} {c : Char} {ws : List (List Char)} {cs : List Char} (hw : IsWord w)
      (hc : isBlank c = true) (h : Spaced ws cs) : Spaced (w :: ws) (w ++ c :: cs)

/-! ### Cutting at blanks -/

lemma wordsOf_blank_cons (hc : isBlank c = true) (cs : List Char) :
    wordsOf (c :: cs) = wordsOf cs := by
  simp [wordsOf, List.splitOnP_cons_eq_if_modifyHead, hc]

lemma wordsOf_word (hw : IsWord w) : wordsOf w = [w] := by
  rw [wordsOf, List.splitOnP_eq_singleton hw.notBlank]
  simp [hw.ne_nil]

lemma wordsOf_word_append (hw : IsWord w) (hc : isBlank c = true) (cs : List Char) :
    wordsOf (w ++ c :: cs) = w :: wordsOf cs := by
  rw [wordsOf, List.splitOnP_append_cons_of_forall_mem hw.notBlank c hc]
  simp [wordsOf, hw.ne_nil]

/-- A character that is no blank, before a word or alone, makes a word. -/
lemma IsWord.cons (hc : isBlank c = false) (hw : ∀ d ∈ w, isBlank d = false) :
    IsWord (c :: w) :=
  ⟨List.cons_ne_nil c w, by simpa [hc] using hw⟩

/-! ### What a text holds -/

/-- The words of a text are the ones that it holds. -/
lemma Spaced.wordsOf_eq (h : Spaced ws cs) : wordsOf cs = ws := by
  induction h with
  | nil => rfl
  | blank hc h ih => rw [wordsOf_blank_cons hc, ih]
  | last hw => exact wordsOf_word hw
  | word hw hc h ih => rw [wordsOf_word_append hw hc, ih]

/-- Every text holds some words: a character that is no blank is a word of its own if a blank or
nothing follows, and else belongs to the word behind it. -/
lemma exists_spaced (cs : List Char) : ∃ ws, Spaced ws cs := by
  induction cs with
  | nil => exact ⟨[], .nil⟩
  | cons c cs ih =>
      obtain ⟨ws, h⟩ := ih
      cases hc : isBlank c with
      | true => exact ⟨ws, .blank hc h⟩
      | false =>
          have hsingle : IsWord [c] := .cons hc (by simp)
          cases h with
          | nil => exact ⟨[[c]], .last hsingle⟩
          | blank hd h => exact ⟨[c] :: ws, .word hsingle hd h⟩
          | last hw => exact ⟨[c :: cs], .last (.cons hc hw.notBlank)⟩
          | word hw hd h => exact ⟨_, .word (.cons hc hw.notBlank) hd h⟩

/-- Words can be put on a line. -/
lemma exists_spaced_of_isWord (h : ∀ w ∈ ws, IsWord w) : ∃ cs, Spaced ws cs := by
  induction ws with
  | nil => exact ⟨[], .nil⟩
  | cons w ws ih =>
      obtain ⟨cs, hcs⟩ := ih fun w' hw' => h w' (List.mem_cons_of_mem w hw')
      exact ⟨w ++ ' ' :: cs, .word (h w List.mem_cons_self) (by decide) hcs⟩

/-- **The words of a text** are given by how it is spaced. -/
lemma wordsOf_eq_iff : wordsOf cs = ws ↔ Spaced ws cs := by
  constructor
  · rintro rfl
    obtain ⟨ws, h⟩ := exists_spaced cs
    rwa [h.wordsOf_eq]
  · exact Spaced.wordsOf_eq

/-- The words of a text as texts. -/
lemma words_eq_iff {line : String} {ws : List String} :
    words line = ws ↔ Spaced (ws.map String.toList) line.toList := by
  rw [← wordsOf_eq_iff, words]
  constructor
  · rintro rfl
    simp [Function.comp_def]
  · intro h
    simp [h, Function.comp_def]

/-! ### Numbers -/

/-- A digit is no blank. -/
lemma isBlank_eq_false_of_digit? {b : ℕ} (h : (Number.digit? b c).isSome) : isBlank c = false := by
  obtain ⟨hle, hlt⟩ := Number.toNat_of_digit? h
  have hall : ∀ n < 128, 48 ≤ n → isBlank (Char.ofNat n) = false := by decide
  rw [← Char.ofNat_toNat c]
  exact hall c.toNat hlt hle

/-- Numbers are words. -/
lemma isWord_decimal (i : Int) : IsWord (Number.decimal i).toList := by
  have hdigits (n : ℕ) : ∀ c ∈ Nat.toDigits 10 n, isBlank c = false := fun c hc =>
    isBlank_eq_false_of_digit? (Number.isSome_digit?_of_mem_toDigits Number.isBase_ten c hc)
  refine ⟨fun h => Number.decimal_ne_empty i (String.toList_inj.mp h), ?_⟩
  cases i with
  | ofNat n => simpa [Number.decimal] using hdigits n
  | negSucc n =>
      have hsign : isBlank '-' = false := by decide
      simpa [Number.decimal, hsign] using hdigits (n + 1)

end ProfileMatch.Text
