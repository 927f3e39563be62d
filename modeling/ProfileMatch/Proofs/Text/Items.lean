import Mathlib.Data.List.ReduceOption
import Mathlib.Tactic.Common
import ProfileMatch.Proofs.Text.Parts
import ProfileMatch.Proofs.Text.Trimming
/-!
Lists that are written with commas.

* `IsItem`: what can be an item of such a list;
* `Lists`: a text lists items in order: between its commas stand the items with blanks around them,
  and blanks alone anywhere else, or nothing;
* `listItems_eq_iff`: the items read off a text are those that it lists in this sense, and no
  others;
* `lists_intercalate`: items that are put together with commas are listed.
-/

namespace ProfileMatch.Text

variable {w cs : List Char} {items : List (List Char)} {piece : Option (List Char)}

/-- An item of a list that is written with commas: it is not empty, no comma stands in it, and no
blank at either end. -/
structure IsItem (w : List Char) : Prop where
  ne_nil : w ≠ []
  comma_notMem : ',' ∉ w
  trimmed : Trimmed w

/-- What stands between two commas: an item with blanks around it, or blanks alone. -/
inductive WritesPiece : Option (List Char) → List Char → Prop
  | blank {cs : List Char} (h : ∀ c ∈ cs, isBlank c = true) : WritesPiece none cs
  | item {w cs : List Char} (hw : IsItem w) (h : Padded w cs) : WritesPiece (some w) cs

/-- A text lists items in order, with commas between them, blanks around them and the commas, and
pieces of blanks alone, or empty ones, between any two commas and at the ends. -/
def Lists (items : List (List Char)) (cs : List Char) : Prop :=
  ∃ pieces : List (Option (List Char)), pieces.reduceOption = items
    ∧ Joined (· == ',') WritesPiece pieces cs

/-! ### Pieces -/

lemma padded_nil_iff : Padded [] cs ↔ ∀ c ∈ cs, isBlank c = true := by
  constructor
  · rintro ⟨front, back, hfront, hback, rfl⟩ c hc
    rw [List.append_nil] at hc
    exact (List.mem_append.mp hc).elim (hfront c) (hback c)
  · exact fun h => ⟨cs, [], h, by simp, by simp⟩

/-- Nothing is left of a text in trimming exactly if it holds blanks alone. -/
lemma trimChars_eq_nil_iff : trimChars cs = [] ↔ ∀ c ∈ cs, isBlank c = true := by
  rw [trimChars_eq_iff, padded_nil_iff]
  exact and_iff_right (trimmed_of_forall (by simp))

lemma WritesPiece.comma_notMem (h : WritesPiece piece cs) : ',' ∉ cs := by
  have hcomma : isBlank ',' = false := by decide
  cases h with
  | blank h => exact fun hmem => absurd ((h _ hmem).symm.trans hcomma) (by simp)
  | item hw h => exact h.notMem hcomma hw.comma_notMem

/-- What is read between two commas. -/
def piece? (cs : List Char) : Option (List Char) :=
  if trimChars cs = [] then none else some (trimChars cs)

/-- **A piece** is read as what it writes. -/
lemma piece?_eq_iff (hcs : ',' ∉ cs) : piece? cs = piece ↔ WritesPiece piece cs := by
  rw [piece?]
  constructor
  · rintro rfl
    split_ifs with hempty
    · exact .blank (trimChars_eq_nil_iff.mp hempty)
    · have hpadded := padded_trimChars cs
      exact .item ⟨hempty, fun hmem => hcs (hpadded.subset hmem), trimmed_trimChars cs⟩ hpadded
  · intro h
    cases h with
    | blank h => rw [if_pos (trimChars_eq_nil_iff.mpr h)]
    | item hw h => rw [trimChars_of_padded hw.trimmed h, if_neg hw.ne_nil]

/-! ### Items -/

/-- Items are the pieces that are more than blanks. -/
lemma filter_trimChars_eq (parts : List (List Char)) :
    (parts.map trimChars).filter (fun w => !w.isEmpty) = (parts.map piece?).reduceOption := by
  induction parts with
  | nil => rfl
  | cons part parts ih =>
      rw [List.map_cons, List.map_cons, piece?]
      by_cases hempty : trimChars part = []
      · rw [if_pos hempty, List.reduceOption_cons_of_none, ← ih, hempty]
        rfl
      · rw [if_neg hempty, List.reduceOption_cons_of_some, ← ih,
          List.filter_cons_of_pos (by simpa using hempty)]

/-- **The items of a text** are those that it lists. -/
lemma listItems_eq_iff {s : String} {items : List String} :
    listItems s = items ↔ Lists (items.map String.toList) s.toList := by
  have hread : ∀ pieces, (s.toList.splitOn ',').map piece? = pieces ↔
      Joined (· == ',') WritesPiece pieces s.toList := fun pieces =>
    map_splitOnP_eq_iff (fun w piece hw => piece?_eq_iff fun hmem => by simpa using hw _ hmem)
      fun piece w hw c hc => by
        have hne : c ≠ ',' := fun h => hw.comma_notMem (h ▸ hc)
        simpa using hne
  rw [listItems, filter_trimChars_eq]
  constructor
  · rintro rfl
    exact ⟨_, by simp [Function.comp_def], (hread _).mp rfl⟩
  · rintro ⟨pieces, hitems, hpieces⟩
    rw [(hread pieces).mpr hpieces, hitems]
    simp [Function.comp_def]

/-- Only items are listed. -/
lemma Lists.isItem (h : Lists items cs) : ∀ w ∈ items, IsItem w := by
  obtain ⟨pieces, rfl, hpieces⟩ := h
  intro w hw
  refine hpieces.forall_items (P := fun piece => ∀ w, piece = some w → IsItem w) ?_ _
    (List.reduceOption_mem_iff.mp hw) w rfl
  rintro piece cs hpiece w rfl
  cases hpiece with
  | item hw _ => exact hw

/-- Items that are put together with commas are listed; without any, so is the empty text. -/
lemma lists_intercalate (h : ∀ w ∈ items, IsItem w) :
    Lists items (List.intercalate [','] items) := by
  cases items with
  | nil => exact ⟨[none], rfl, .single (.blank (by simp))⟩
  | cons w ws =>
      refine ⟨(w :: ws).map some, by simp [List.reduceOption], ?_⟩
      refine joined_intercalate (List.cons_ne_nil w ws) (fun w' hw' => (h w' hw').comma_notMem) ?_
      exact List.forall₂_map_right_iff.mpr
        (List.forall₂_same.mpr fun w' hw' => .item (h w' hw') (padded_self w'))

end ProfileMatch.Text
