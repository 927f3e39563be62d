import Mathlib.Data.List.DropRight
import Mathlib.Tactic.Common
import ProfileMatch.Text.Blank
/-!
Texts without blanks at their two ends.

* `Trimmed`, `Padded`: no blank stands at an end; a text stands in another with blanks around it;
* `Trimmed.append_of_append`: whether a text is trimmed is told by its two ends;
* `trimChars_eq_iff`: trimming finds the one trimmed text that stands in a text so.
-/

namespace ProfileMatch.Text

variable {w cs : List Char}

/-- No blank stands at either end. -/
structure Trimmed (cs : List Char) : Prop where
  head : ∀ c ∈ cs.head?, isBlank c = false
  last : ∀ c ∈ cs.getLast?, isBlank c = false

/-- A text stands in another one with blanks around it. -/
def Padded (w cs : List Char) : Prop :=
  ∃ front back, (∀ c ∈ front, isBlank c = true) ∧ (∀ c ∈ back, isBlank c = true)
    ∧ cs = front ++ w ++ back

lemma trimmed_of_forall (h : ∀ c ∈ cs, isBlank c = false) : Trimmed cs :=
  ⟨fun c hc => h c (List.mem_of_mem_head? hc), fun c hc => h c (List.mem_of_mem_getLast? hc)⟩

/-- A text without blanks is trimmed. -/
lemma trimmed_of_any_eq_false (h : cs.any isBlank = false) : Trimmed cs :=
  trimmed_of_forall fun c hc => Bool.eq_false_iff.mpr (List.any_eq_false.mp h c hc)

lemma padded_self (cs : List Char) : Padded cs cs :=
  ⟨[], [], by simp, by simp, by simp⟩

lemma Padded.subset (h : Padded w cs) : w ⊆ cs := by
  obtain ⟨front, back, -, -, rfl⟩ := h
  exact List.Subset.trans (List.subset_append_right front w)
    (List.subset_append_left (front ++ w) back)

/-- What is neither a blank nor in a text is not in it with blanks around. -/
lemma Padded.notMem {c : Char} (h : Padded w cs) (hc : isBlank c = false) (hw : c ∉ w) :
    c ∉ cs := by
  obtain ⟨front, back, hfront, hback, rfl⟩ := h
  have hpad {pad : List Char} (hpad : ∀ c ∈ pad, isBlank c = true) : c ∉ pad := fun hmem =>
    absurd ((hpad c hmem).symm.trans hc) (by simp)
  simp [hpad hfront, hpad hback, hw]

/-- A trimmed text keeps being trimmed when another beginning takes the place of its own. -/
lemma Trimmed.append_of_append {front front' rest : List Char} (h : Trimmed (front ++ rest))
    (h' : Trimmed front') (hne : front' ≠ []) : Trimmed (front' ++ rest) := by
  constructor
  · intro c hc
    rw [List.head?_append_of_ne_nil front' hne] at hc
    exact h'.head c hc
  · intro c hc
    rw [List.getLast?_append] at hc
    rcases Option.or_eq_some_iff.mp hc with hrest | ⟨-, hfront⟩
    · exact h.last c (by rw [List.getLast?_append, hrest]; rfl)
    · exact h'.last c hfront

/-- Characters stay from the first one on that is no blank. -/
lemma dropWhile_isBlank_eq_self (h : ∀ c ∈ cs.head?, isBlank c = false) :
    cs.dropWhile isBlank = cs := by
  cases cs with
  | nil => rfl
  | cons c cs => rw [List.dropWhile_cons_of_neg (by simp [h c (by simp)])]

/-- Characters stay up to the last one that is no blank. -/
lemma trimEndChars_eq_self (h : ∀ c ∈ cs.getLast?, isBlank c = false) : trimEndChars cs = cs := by
  have hend : cs.reverse.dropWhile isBlank = cs.reverse :=
    dropWhile_isBlank_eq_self fun c hc => h c (List.head?_reverse ▸ hc)
  rw [trimEndChars, hend, List.reverse_reverse]

/-- No blank is left at the end of a text that is trimmed there. -/
lemma isBlank_eq_false_of_getLast? (cs : List Char) :
    ∀ c ∈ (trimEndChars cs).getLast?, isBlank c = false := by
  intro c hc
  obtain ⟨hne, rfl⟩ := List.mem_getLast?_eq_getLast hc
  exact Bool.eq_false_iff.mpr (List.rdropWhile_last_not isBlank _ hne)

/-- Trimming leaves no blank at an end. -/
lemma trimmed_trimChars (cs : List Char) : Trimmed (trimChars cs) := by
  constructor
  · intro c hc
    obtain ⟨rest, hrest⟩ := List.rdropWhile_prefix isBlank (cs.dropWhile isBlank)
    have hhead : (cs.dropWhile isBlank).head? = some c := by
      rw [← hrest, List.head?_append]
      exact Option.or_eq_some_iff.mpr (Or.inl hc)
    have hnot := List.head?_dropWhile_not isBlank cs
    rwa [hhead] at hnot
  · exact isBlank_eq_false_of_getLast? (cs.dropWhile isBlank)

/-- What trimming takes away are blanks around the rest. -/
lemma padded_trimChars (cs : List Char) : Padded (trimChars cs) cs := by
  refine ⟨cs.takeWhile isBlank, (cs.dropWhile isBlank).rtakeWhile isBlank, ?_, ?_, ?_⟩
  · exact fun c hc => List.mem_takeWhile_imp hc
  · exact fun c hc => List.mem_rtakeWhile_imp hc
  · have hend : trimChars cs ++ (cs.dropWhile isBlank).rtakeWhile isBlank = cs.dropWhile isBlank :=
      List.rdropWhile_append_rtakeWhile
    rw [List.append_assoc, hend, List.takeWhile_append_dropWhile]

/-- Blanks around a trimmed text are what trimming takes away. -/
lemma trimChars_of_padded (hw : Trimmed w) (h : Padded w cs) : trimChars cs = w := by
  obtain ⟨front, back, hfront, hback, rfl⟩ := h
  rw [trimChars, List.append_assoc, List.dropWhile_append_of_pos hfront]
  cases w with
  | nil =>
      have hnone : back.dropWhile isBlank = [] := List.dropWhile_eq_nil_iff.mpr hback
      rw [List.nil_append, hnone]
      rfl
  | cons c w =>
      have hstart : ((c :: w) ++ back).dropWhile isBlank = (c :: w) ++ back :=
        dropWhile_isBlank_eq_self fun d hd => hw.head d hd
      have hend : trimEndChars ((c :: w) ++ back) = trimEndChars (c :: w) := by
        rw [trimEndChars, List.reverse_append,
          List.dropWhile_append_of_pos fun d hd => hback d (List.mem_reverse.mp hd)]
        rfl
      rw [hstart, hend, trimEndChars_eq_self hw.last]

/-- **Trimming** finds the trimmed text that stands in a text with blanks around it. -/
lemma trimChars_eq_iff : trimChars cs = w ↔ Trimmed w ∧ Padded w cs := by
  constructor
  · rintro rfl
    exact ⟨trimmed_trimChars cs, padded_trimChars cs⟩
  · rintro ⟨hw, h⟩
    exact trimChars_of_padded hw h

/-- Behind a trimmed text, blanks are trimmed at the end alone. -/
lemma trimChars_append {front : List Char} (h : Trimmed front) (hne : front ≠ [])
    (cs : List Char) : trimChars (front ++ cs) = front ++ trimEndChars cs := by
  have hend : trimEndChars cs ++ cs.rtakeWhile isBlank = cs := List.rdropWhile_append_rtakeWhile
  refine trimChars_of_padded ⟨?_, ?_⟩ ⟨[], cs.rtakeWhile isBlank, by simp, ?_, ?_⟩
  · intro c hc
    rw [List.head?_append_of_ne_nil front hne] at hc
    exact h.head c hc
  · intro c hc
    rw [List.getLast?_append] at hc
    rcases Option.or_eq_some_iff.mp hc with hback | ⟨-, hfront⟩
    · exact isBlank_eq_false_of_getLast? cs c hback
    · exact h.last c hfront
  · exact fun c hc => List.mem_rtakeWhile_imp hc
  · rw [List.nil_append, List.append_assoc, hend]

lemma trimChars_of_trimmed (h : Trimmed cs) : trimChars cs = cs :=
  trimChars_of_padded h (padded_self cs)

end ProfileMatch.Text
