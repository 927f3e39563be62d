import Mathlib.Tactic.Common
import ProfileMatch.Proofs.Reading
import ProfileMatch.Text.Blank
/-!
Texts made of parts.

* `Joined`: a text writes items in order, with one separator between two of them;
* `forall₂_splitOnP_iff`, `mapM_splitOnP_eq_some_iff`, `map_splitOnP_eq_iff`: a text is read in
  parts between separators exactly if it writes the items that are read;
* `joined_intercalate`: a text is made of parts by putting the separator between them;
* `exists_mem_splitOn`, `notMem_intercalate`: a character of a text other than the separator stands
  in one of its parts;
* `cut?_append`, `cut?_eq_none_iff`: a text is cut at the first place of a character, and left whole
  only if there is none.
-/

namespace ProfileMatch

namespace Text

variable {c sep : Char}

/-- A text writes items in order, with one separator between two of them. -/
inductive Joined {α : Type} (isSep : Char → Bool) (writes : α → List Char → Prop) :
    List α → List Char → Prop
  | single {a : α} {w : List Char} (hw : writes a w) : Joined isSep writes [a] w
  | cons {a : α} {w : List Char} {c : Char} {as : List α} {cs : List Char} (hw : writes a w)
      (hc : isSep c = true) (h : Joined isSep writes as cs) :
      Joined isSep writes (a :: as) (w ++ c :: cs)

section Joined

variable {α : Type} {p : Char → Bool} {writes writes' : α → List Char → Prop} {as : List α}
  {cs : List Char}

/-- What is written in one way is written in another one that allows all its parts. -/
lemma Joined.imp (hcs : Joined p writes as cs)
    (h : ∀ a w, w ⊆ cs → writes a w → writes' a w) : Joined p writes' as cs := by
  induction hcs with
  | single hw => exact .single (h _ _ (List.Subset.refl _) hw)
  | @cons a w c as cs hw hc _ ih =>
      have hrest : cs ⊆ w ++ c :: cs :=
        List.Subset.trans (List.subset_cons_self c cs) (List.subset_append_right w _)
      exact .cons (h _ _ (List.subset_append_left w _) hw) hc
        (ih fun a' w' hw' => h a' w' (List.Subset.trans hw' hrest))

/-- What holds of the separators and of the characters of all items holds of all characters. -/
lemma Joined.forall_mem {P : Char → Prop} (hsep : ∀ c, p c = true → P c)
    (hitems : ∀ a w, writes a w → ∀ c ∈ w, P c) (hcs : Joined p writes as cs) :
    ∀ c ∈ cs, P c := by
  induction hcs with
  | single hw => exact hitems _ _ hw
  | cons hw hc _ ih =>
      intro c hmem
      rcases List.mem_append.mp hmem with hmem | hmem
      · exact hitems _ _ hw c hmem
      · rcases List.mem_cons.mp hmem with rfl | hmem
        · exact hsep c hc
        · exact ih c hmem

/-- A character that is no separator and stands in no item stands nowhere. -/
lemma Joined.notMem (hcs : Joined p writes as cs) (hsep : p c = false)
    (hitems : ∀ a w, writes a w → c ∉ w) : c ∉ cs := by
  intro hc
  refine hcs.forall_mem (P := (· ≠ c)) ?_ ?_ c hc rfl
  · rintro d hd rfl
    exact absurd (hd.symm.trans hsep) (by simp)
  · rintro a w hw d hd rfl
    exact hitems a w hw hd

/-- What holds of everything that can be written as an item holds of all items. -/
lemma Joined.forall_items {P : α → Prop} (h : ∀ a w, writes a w → P a)
    (hcs : Joined p writes as cs) : ∀ a ∈ as, P a := by
  induction hcs with
  | single hw => exact List.forall_mem_singleton.mpr (h _ _ hw)
  | cons hw _ _ ih => exact List.forall_mem_cons.mpr ⟨h _ _ hw, ih⟩

/-- A text writes the parts that it is cut into, and no separator stands in them. -/
lemma joined_splitOnP (p : Char → Bool) (cs : List Char) :
    Joined p (fun part w => part = w ∧ ∀ c ∈ w, p c = false) (cs.splitOnP p) cs := by
  induction cs with
  | nil => exact .single ⟨rfl, by simp⟩
  | cons c cs ih =>
      rw [List.splitOnP_cons_eq_if_modifyHead]
      split_ifs with hc
      · exact .cons (w := []) ⟨rfl, by simp⟩ hc ih
      · have hclean : ∀ {w : List Char}, (∀ d ∈ w, p d = false) → ∀ d ∈ c :: w, p d = false :=
          fun hw => List.forall_mem_cons.mpr ⟨Bool.eq_false_iff.mpr hc, hw⟩
        cases hcut : cs.splitOnP p with
        | nil => exact absurd hcut (List.splitOnP_ne_nil p cs)
        | cons part parts =>
            rw [hcut] at ih
            cases ih with
            | single hw => exact .single ⟨congrArg (c :: ·) hw.1, hclean hw.2⟩
            | cons hw hd h =>
                exact .cons (w := c :: _) ⟨congrArg (c :: ·) hw.1, hclean hw.2⟩ hd h

/-- The items that parts are read as are written by the text of the parts. -/
lemma joined_of_forall₂ {parts : List (List Char)}
    (hparts : Joined p (fun part w => part = w ∧ ∀ c ∈ w, p c = false) parts cs)
    (h : List.Forall₂ (fun part a => (∀ c ∈ part, p c = false) → writes a part) parts as) :
    Joined p writes as cs := by
  induction hparts generalizing as with
  | single hw =>
      obtain ⟨rfl, hclean⟩ := hw
      cases h with
      | cons ha hrest =>
          cases hrest
          exact .single (ha hclean)
  | cons hw hc _ ih =>
      obtain ⟨rfl, hclean⟩ := hw
      cases h with
      | cons ha hrest => exact .cons (ha hclean) hc (ih hrest)

/-- A text of items without separators in them is cut into their parts. -/
lemma forall₂_splitOnP (hclean : ∀ a w, writes a w → ∀ c ∈ w, p c = false)
    (h : Joined p writes as cs) :
    List.Forall₂ (fun part a => writes a part) (cs.splitOnP p) as := by
  induction h with
  | single hw =>
      rw [List.splitOnP_eq_singleton (hclean _ _ hw)]
      exact .cons hw .nil
  | cons hw hc _ ih =>
      rw [List.splitOnP_append_cons_of_forall_mem (hclean _ _ hw) _ hc]
      exact .cons hw ih

/-- **Parts between separators** stand for items one by one exactly if the text writes the items, as
long as no separator stands in what writes an item. -/
lemma forall₂_splitOnP_iff {reads : List Char → α → Prop}
    (hreads : ∀ w a, (∀ c ∈ w, p c = false) → (reads w a ↔ writes a w))
    (hclean : ∀ a w, writes a w → ∀ c ∈ w, p c = false) :
    List.Forall₂ reads (cs.splitOnP p) as ↔ Joined p writes as cs := by
  constructor
  · intro h
    exact joined_of_forall₂ (joined_splitOnP p cs)
      (h.imp fun part a hreads' hpart => (hreads part a hpart).mp hreads')
  · intro h
    exact (forall₂_splitOnP hclean h).imp fun part a hw =>
      (hreads part a (hclean a part hw)).mpr hw

/-- Parts are read, each on its own, exactly as the items that the text writes. -/
lemma mapM_splitOnP_eq_some_iff {read : List Char → Option α}
    (hread : ∀ w a, read w = some a ↔ writes a w)
    (hclean : ∀ a w, writes a w → ∀ c ∈ w, p c = false) :
    (cs.splitOnP p).mapM read = some as ↔ Joined p writes as cs := by
  rw [mapM_eq_some_iff]
  exact forall₂_splitOnP_iff (fun w a _ => hread w a) hclean

/-- The same for a reader that makes something of every part. -/
lemma map_splitOnP_eq_iff {read : List Char → α}
    (hread : ∀ w a, (∀ c ∈ w, p c = false) → (read w = a ↔ writes a w))
    (hclean : ∀ a w, writes a w → ∀ c ∈ w, p c = false) :
    (cs.splitOnP p).map read = as ↔ Joined p writes as cs := by
  rw [← forall₂_splitOnP_iff hread hclean, ← List.forall₂_map_left_iff, List.forall₂_eq_eq_eq]

/-- Parts without the separator in them are joined by it to a text of the items that they write. -/
lemma joined_intercalate {parts : List (List Char)} (hne : parts ≠ [])
    (hparts : ∀ part ∈ parts, sep ∉ part)
    (h : List.Forall₂ (fun part a => writes a part) parts as) :
    Joined (· == sep) writes as (List.intercalate [sep] parts) := by
  have hjoined := joined_splitOnP (· == sep) (List.intercalate [sep] parts)
  rw [show (List.intercalate [sep] parts).splitOnP (· == sep) = parts from
    List.splitOn_intercalate sep hparts hne] at hjoined
  exact joined_of_forall₂ hjoined
    (h.imp fun part a hw (_ : ∀ c ∈ part, (c == sep) = false) => hw)

end Joined

/-- A character other than the separator stands in one of the parts. -/
lemma exists_mem_splitOn (sep : Char) {cs : List Char} (hc : c ∈ cs) (hsep : c ≠ sep) :
    ∃ part ∈ cs.splitOn sep, c ∈ part := by
  induction cs with
  | nil => exact absurd hc List.not_mem_nil
  | cons d ds ih =>
      rw [List.splitOn_cons_eq_if_modifyHead]
      cases hparts : ds.splitOn sep with
      | nil => exact absurd hparts (List.splitOn_ne_nil sep ds)
      | cons part parts =>
          rcases List.mem_cons.mp hc with rfl | hc
          · rw [if_neg (by simpa using hsep)]
            exact ⟨c :: part, List.mem_cons_self, List.mem_cons_self⟩
          · obtain ⟨part', hpart', hmem⟩ := ih hc
            rw [hparts] at hpart'
            split_ifs
            · exact ⟨part', List.mem_cons_of_mem _ hpart', hmem⟩
            · rcases List.mem_cons.mp hpart' with rfl | hpart'
              · exact ⟨d :: part', List.mem_cons_self, List.mem_cons_of_mem d hmem⟩
              · exact ⟨part', List.mem_cons_of_mem _ hpart', hmem⟩

/-- A character other than the separator that stands in no part stands nowhere. -/
lemma notMem_intercalate {parts : List (List Char)} (hsep : c ≠ sep)
    (hparts : ∀ part ∈ parts, c ∉ part) : c ∉ List.intercalate [sep] parts := by
  induction parts with
  | nil => exact List.not_mem_nil
  | cons part parts ih =>
      have hpart := hparts part List.mem_cons_self
      have hrest := ih fun part' h => hparts part' (List.mem_cons_of_mem part h)
      cases parts with
      | nil => rwa [List.intercalate_singleton]
      | cons part' parts =>
          rw [List.intercalate_cons_cons, List.mem_append, List.mem_append, List.mem_singleton]
          rintro ((hc | hc) | hc)
          · exact hpart hc
          · exact hsep hc
          · exact hrest hc

/-- A text is cut at the first place where the separator stands. -/
lemma cut?_append {front : List Char} (h : sep ∉ front) (back : List Char) :
    cut? sep (front ++ sep :: back) = some (front, back) := by
  induction front with
  | nil => rw [List.nil_append, cut?, if_pos rfl]
  | cons d ds ih =>
      have hd : d ≠ sep := fun heq => h (heq ▸ List.mem_cons_self)
      rw [List.cons_append, cut?, if_neg hd, ih fun hmem => h (List.mem_cons_of_mem d hmem)]
      rfl

/-- A text without the separator is not cut. -/
lemma cut?_eq_none_iff {cs : List Char} : cut? sep cs = none ↔ sep ∉ cs := by
  induction cs with
  | nil => simp [cut?]
  | cons d ds ih =>
      rw [cut?]
      by_cases hd : d = sep
      · simp [hd]
      · simp [hd, ih, Ne.symm hd]

end Text

end ProfileMatch
