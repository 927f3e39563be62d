import Mathlib.Data.List.Forall2
import Mathlib.Tactic.Common
/-!
Readers, which may fail.

* `bind_eq_ok_iff`, `map_eq_ok_iff`: two readers in turn, and a reader whose value is changed;
* `toOption_eq_some_iff`, `exists_eq_ok_of_map_toOption`: a reader that succeeds, by what it gives;
* `toOption_map`, `toOption_mapM`: readers without their faults;
* `mapM_map_eq_pure`: items that are read back one by one are read back as a list;
* `mapM_eq_some_iff`, `mapM_eq_ite`: a list is read item by item, if every item can be;
* `forall₂_filter_filterMap`: else, the items that can be read are;
* `map_eq_map_of_mapM_eq_some`, `eq_map_of_mapM_eq_some`: what is known of an item by what was read
  off it holds of all items; so items that have one spelling are spelled in it;
* `mapM_eq_none`, `exists_of_mem_mapM`: one item that cannot be read spoils all, and what was read
  was read off some item;
* `foldlM_invariant`, `foldlM_map_eq_ok`: the same two, with a state that the items are added to.
-/

namespace ProfileMatch

variable {α β σ τ ε : Type}

/-- Two readers in turn succeed if the first does and the second goes on from what it gave. -/
lemma bind_eq_ok_iff {x : Except ε α} {f : α → Except ε β} {b : β} :
    (x >>= f) = .ok b ↔ ∃ a, x = .ok a ∧ f a = .ok b := by
  constructor
  · intro h
    cases x with
    | error e => cases h
    | ok a => exact ⟨a, rfl, h⟩
  · rintro ⟨a, rfl, h⟩
    exact h

/-- A reader whose value is changed afterwards succeeds if it does itself. -/
lemma map_eq_ok_iff {x : Except ε α} {f : α → β} {b : β} :
    x.map f = .ok b ↔ ∃ a, x = .ok a ∧ f a = b := by
  cases x <;> simp [Except.map]

/-- The success of a reader, without its faults. -/
lemma toOption_eq_some_iff {x : Except ε α} {a : α} : x.toOption = some a ↔ x = .ok a := by
  cases x <;> simp [Except.toOption]

/-- A reader whose success is known succeeded. -/
lemma eq_ok_of_toOption {x : Except ε α} {a : α} (h : x.toOption = some a) : x = .ok a :=
  toOption_eq_some_iff.mp h

lemma toOption_map {x : Except ε α} {f : α → β} : (x.map f).toOption = x.toOption.map f := by
  cases x <;> rfl

/-- A list is read without faults if its items are. -/
lemma toOption_mapM {read : α → Except ε β} {xs : List α} :
    (xs.mapM read).toOption = xs.mapM fun x => (read x).toOption := by
  induction xs with
  | nil => rfl
  | cons x xs ih =>
      rw [List.mapM_cons, List.mapM_cons, ← ih]
      cases read x with
      | error e => rfl
      | ok y => cases xs.mapM read <;> rfl

/-- A reader succeeded if a value of its success is known. -/
lemma exists_eq_ok_of_map_toOption {x : Except ε α} {f : α → β} {b : β}
    (h : x.toOption.map f = some b) : ∃ a, x = .ok a ∧ f a = b := by
  obtain ⟨a, ha, hvalue⟩ := Option.map_eq_some_iff.mp h
  exact ⟨a, eq_ok_of_toOption ha, hvalue⟩

/-- Items that are read back one by one are read back as a list. -/
lemma mapM_map_eq_pure {m : Type → Type} [Monad m] [LawfulMonad m] {write : α → β} {read : β → m α}
    {xs : List α} (h : ∀ x ∈ xs, read (write x) = pure x) :
    (xs.map write).mapM read = pure xs := by
  induction xs with
  | nil => rfl
  | cons x xs ih =>
      rw [List.map_cons, List.mapM_cons, h x List.mem_cons_self,
        ih fun y hy => h y (List.mem_cons_of_mem x hy), pure_bind, pure_bind]

/-- One item that cannot be read spoils the list. -/
lemma mapM_eq_none {read : α → Option β} {x : α} {xs : List α} (hx : x ∈ xs)
    (h : read x = none) : xs.mapM read = none := by
  induction xs with
  | nil => exact absurd hx List.not_mem_nil
  | cons y ys ih =>
      rw [List.mapM_cons]
      rcases List.mem_cons.mp hx with rfl | hx
      · rw [h]
        rfl
      · rw [ih hx]
        cases read y <;> rfl

/-- A list is read if every item can be, and then what is read is what can be read. -/
lemma mapM_eq_ite {read : α → Option β} {xs : List α} :
    xs.mapM read =
      if ∀ x ∈ xs, (read x).isSome = true then some (xs.filterMap read) else none := by
  induction xs with
  | nil => rfl
  | cons x xs ih =>
      rw [List.mapM_cons, ih, List.filterMap_cons]
      simp only [List.forall_mem_cons]
      cases hx : read x with
      | none => simp
      | some y =>
          by_cases hxs : ∀ x ∈ xs, (read x).isSome = true
          · rw [if_pos hxs, if_pos ⟨rfl, hxs⟩]
            rfl
          · rw [if_neg hxs, if_neg fun h => hxs h.2]
            rfl

/-- Of the items that can be read, each is read. -/
lemma forall₂_filter_filterMap {read : α → Option β} {xs : List α} :
    List.Forall₂ (fun x y => read x = some y) (xs.filter fun x => (read x).isSome)
      (xs.filterMap read) := by
  induction xs with
  | nil => exact .nil
  | cons x xs ih =>
      rw [List.filter_cons, List.filterMap_cons]
      cases hx : read x with
      | none => exact ih
      | some y => exact .cons hx ih

/-- A list is read item by item. -/
lemma mapM_eq_some_iff {read : α → Option β} {xs : List α} {ys : List β} :
    xs.mapM read = some ys ↔ List.Forall₂ (fun x y => read x = some y) xs ys := by
  constructor
  · intro h
    induction xs generalizing ys with
    | nil =>
        cases h
        exact .nil
    | cons x xs ih =>
        rw [List.mapM_cons] at h
        obtain ⟨y, hy, hrest⟩ := Option.bind_eq_some_iff.mp h
        obtain ⟨zs, hzs, hcons⟩ := Option.bind_eq_some_iff.mp hrest
        cases hcons
        exact .cons hy (ih hzs)
  · intro h
    induction h with
    | nil => rfl
    | cons hx _ ih =>
        rw [List.mapM_cons, hx, ih]
        rfl

/-- A view of an item that is known from what was read off it is known so in the whole list. -/
lemma map_eq_map_of_mapM_eq_some {read : α → Option β} {f : α → σ} {g : β → σ}
    (h : ∀ x y, read x = some y → f x = g y) {xs : List α} {ys : List β}
    (hread : xs.mapM read = some ys) : xs.map f = ys.map g := by
  induction mapM_eq_some_iff.mp hread with
  | nil => rfl
  | cons hx hxs ih => rw [List.map_cons, List.map_cons, h _ _ hx, ih (mapM_eq_some_iff.mpr hxs)]

/-- Items that have one spelling each are spelled in it where they were read. -/
lemma eq_map_of_mapM_eq_some {read : α → Option β} {write : β → α}
    (h : ∀ x y, read x = some y → x = write y) {xs : List α} {ys : List β}
    (hread : xs.mapM read = some ys) : xs = ys.map write := by
  rw [← map_eq_map_of_mapM_eq_some h hread, List.map_id']

/-- What was read was read off some item. -/
lemma exists_of_mem_mapM {read : α → Except ε β} {xs : List α} {ys : List β} {y : β}
    (h : xs.mapM read = .ok ys) (hy : y ∈ ys) : ∃ x ∈ xs, read x = .ok y := by
  induction xs generalizing ys with
  | nil =>
      cases h
      exact absurd hy List.not_mem_nil
  | cons x xs ih =>
      rw [List.mapM_cons] at h
      obtain ⟨z, hz, hrest⟩ := bind_eq_ok_iff.mp h
      obtain ⟨zs, hzs, hcons⟩ := bind_eq_ok_iff.mp hrest
      cases hcons
      rcases List.mem_cons.mp hy with rfl | hy
      · exact ⟨x, List.mem_cons_self, hz⟩
      · obtain ⟨x', hx', hread⟩ := ih hzs hy
        exact ⟨x', List.mem_cons_of_mem x hx', hread⟩

/-- **What every step keeps holds at the end** of a run that does not fail. -/
lemma foldlM_invariant {P : σ → Prop} {step : σ → α → Except ε σ}
    (hstep : ∀ s x s', P s → step s x = .ok s' → P s') {xs : List α} {s s' : σ} (hs : P s)
    (h : xs.foldlM step s = .ok s') : P s' := by
  induction xs generalizing s with
  | nil =>
      cases h
      exact hs
  | cons x xs ih =>
      rw [List.foldlM_cons] at h
      obtain ⟨t, ht, hrest⟩ := bind_eq_ok_iff.mp h
      exact ih (hstep s x t hs ht) hrest

/-- Items that are added one by one when they are read back are all added. -/
lemma foldlM_map_eq_ok {wrap : τ → σ} {step : σ → β → Except ε σ} {next : τ → α → τ}
    {write : α → β} {xs : List α}
    (h : ∀ s, ∀ x ∈ xs, step (wrap s) (write x) = .ok (wrap (next s x))) (s : τ) :
    (xs.map write).foldlM step (wrap s) = .ok (wrap (xs.foldl next s)) := by
  induction xs generalizing s with
  | nil => rfl
  | cons x xs ih =>
      rw [List.map_cons, List.foldlM_cons, h s x List.mem_cons_self]
      exact ih (fun s y hy => h s y (List.mem_cons_of_mem x hy)) (next s x)

end ProfileMatch
