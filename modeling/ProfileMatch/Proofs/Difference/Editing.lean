import Mathlib.Algebra.GroupWithZero.Nat
import Mathlib.Data.List.TFAE
import Mathlib.Tactic.Common
import Mathlib.Tactic.TFAE
import ProfileMatch.Proofs.Difference.Entries
import ProfileMatch.Proofs.Table
/-!
Differences that are edited, in whatever order.

* `Difference.Edit`: an entry is put in, a key or a setting is taken out;
* `Difference.get?_apply`: an edit says what a lookup finds under the keys that it is for, and
  changes no other;
* `Difference.Tidy.apply`, `Difference.Tidy.edited`: no edit leaves a setting without properties
  behind, and so no run of them does;
* `Difference.nodup_keys`, `Difference.size_eq_sum`: no key is listed twice, and all are counted;
* `Difference.Tidy.tfae_isEmpty`: for a tidy difference all ways to say that it is empty agree;
* `Difference.edited_tidy_and_counted`: all of this after any run of edits.
-/

namespace ProfileMatch

namespace Difference

variable {d : Difference}

/-! ### Edits -/

/-- An edit of a difference. -/
inductive Edit
  | insert (k : Key) (c : Change)
  | remove (k : Key)
  | removeSetting (setting : String)

/-- The difference after an edit. -/
def apply (d : Difference) : Edit → Difference
  | .insert k c => d.insert k c
  | .remove k => (d.remove k).2
  | .removeSetting setting => (d.removeSetting setting).2

/-- The difference after edits in turn. -/
def edited (d : Difference) (es : List Edit) : Difference :=
  es.foldl apply d

/-- What an edit writes under a key: an entry, that there is none, or nothing at all if it is for
other keys. -/
def Edit.writes? (k : Key) : Edit → Option (Option Change)
  | .insert k' c => if k = k' then some (some c) else none
  | .remove k' => if k = k' then some none else none
  | .removeSetting setting => if k.setting = setting then some none else none

/-- **One edit**: a lookup finds what the edit writes, and under all other keys what was there
before. -/
lemma get?_apply (d : Difference) (e : Edit) (k : Key) :
    (d.apply e).get? k = (e.writes? k).getD (d.get? k) := by
  cases e with
  | insert k' c =>
      rw [apply, get?_insert, Edit.writes?]
      split <;> rfl
  | remove k' =>
      rw [apply, ← erase, get?_erase, Edit.writes?]
      split <;> rfl
  | removeSetting setting =>
      rw [apply, get?_removeSetting, Edit.writes?]
      split <;> rfl

/-- **Edits in turn**: the last one that is for a key says what a lookup finds. -/
lemma get?_edited (d : Difference) (es : List Edit) (k : Key) :
    (d.edited es).get? k = (es.reverse.findSome? (Edit.writes? k)).getD (d.get? k) := by
  induction es generalizing d with
  | nil => rfl
  | cons e es ih =>
      have hrest : (d.edited (e :: es)).get? k = ((d.apply e).edited es).get? k := rfl
      rw [hrest, ih, get?_apply, List.reverse_cons, List.findSome?_append]
      cases es.reverse.findSome? (Edit.writes? k) with
      | some c? => rfl
      | none => cases hwrites : e.writes? k <;> simp [hwrites]

/-- The answer to a removal is whether the key was there. -/
lemma remove_fst (d : Difference) (k : Key) : (d.remove k).1 = d.contains k := by
  rw [remove, contains, get?]
  cases d.settings.get? k.setting <;> rfl

/-- **One edit keeps a difference tidy.** -/
lemma Tidy.apply (h : d.Tidy) (e : Edit) : (d.apply e).Tidy := by
  cases e with
  | insert k c => exact h.insert k c
  | remove k => exact h.erase k
  | removeSetting setting => exact h.removeSetting setting

/-- **Edits in turn keep a difference tidy.** -/
lemma Tidy.edited (h : d.Tidy) (es : List Edit) : (d.edited es).Tidy := by
  induction es generalizing d with
  | nil => exact h
  | cons e es ih => exact ih (h.apply e)

/-! ### What is listed and counted -/

/-- The keys, setting by setting. -/
lemma keys_eq (d : Difference) :
    d.keys = d.settings.entries.flatMap fun s => s.2.names.map (Key.mk s.1) := by
  rw [keys, entries, List.map_flatMap]
  refine List.flatMap_congr fun s _ => ?_
  rw [Table.names, List.map_map, List.map_map]
  rfl

/-- No key is listed twice. -/
lemma nodup_keys (d : Difference) : d.keys.Nodup := by
  rw [keys_eq, List.nodup_flatMap]
  constructor
  · exact fun s _ => s.2.nodup_names.map fun _ _ h => (Key.mk.inj h).2
  · -- keys of two settings differ in the name of the setting
    refine d.settings.sorted.imp fun {s s'} hlt k hk hk' => ?_
    obtain ⟨name, -, rfl⟩ := List.mem_map.mp hk
    obtain ⟨name', -, heq⟩ := List.mem_map.mp hk'
    rw [(Key.mk.inj heq).1] at hlt
    exact String.lt_irrefl _ hlt

lemma size_eq_length_keys (d : Difference) : d.size = d.keys.length := by
  rw [size, keys, List.length_map]

/-- The keys are counted setting by setting. -/
lemma size_eq_sum (d : Difference) : d.size = (d.settings.entries.map fun s => s.2.size).sum := by
  rw [size, entries, List.length_flatMap]
  simp only [List.length_map, Table.size]

/-- **All ways to be empty agree** for a tidy difference: it holds no setting, it counts no key, it
lists none, and no key differs. -/
lemma Tidy.tfae_isEmpty (h : d.Tidy) :
    [d.isEmpty = true, d.size = 0, d.entries = [], ∀ k, d.contains k = false].TFAE := by
  tfae_have 1 ↔ 4 := h.isEmpty_iff
  tfae_have 2 ↔ 3 := List.length_eq_zero_iff
  tfae_have 3 → 4 := by
    intro hnone k
    rw [← Bool.not_eq_true, ← mem_keys_iff, keys, hnone]
    exact List.not_mem_nil
  tfae_have 4 → 3 := by
    intro hnone
    refine List.eq_nil_iff_forall_not_mem.mpr fun e he => ?_
    have hcontains := contains_iff.mpr ⟨e.2, mem_entries_iff.mp he⟩
    rw [hnone] at hcontains
    exact absurd hcontains Bool.false_ne_true
  tfae_finish

/-- **Edited differences.** After any run of edits, begun with the empty difference or with that of
two profiles, no setting is held without properties. So all ways to be empty agree, a setting is
held exactly if a property of it differs, and the size, which is summed up over the settings, is the
number of keys that differ. A removal answers whether what it takes out was there. Each further edit
changes what a lookup finds under the keys that it is for, and under no other, so that it was the
last edit for a key that said what is found there. -/
theorem edited_tidy_and_counted {start : Difference}
    (hstart : start = empty ∨ ∃ generated candidate, start = between generated candidate)
    (es : List Edit) :
    let d := start.edited es
    (∀ s ∈ d.settings.entries, s.2.isEmpty = false)
      ∧ [d.isEmpty = true, d.size = 0, d.entries = [], ∀ k, d.contains k = false].TFAE
      ∧ (∀ setting, d.containsSetting setting = true ↔
          ∃ property, d.contains ⟨setting, property⟩ = true)
      ∧ (d.size = (d.settings.entries.map fun s => s.2.size).sum
        ∧ d.size = d.keys.length ∧ d.keys.Nodup ∧ ∀ k, k ∈ d.keys ↔ d.contains k = true)
      ∧ (∀ k, (d.remove k).1 = d.contains k)
      ∧ (∀ setting, (d.removeSetting setting).1 = d.containsSetting setting)
      ∧ (∀ e k, (d.apply e).get? k = (e.writes? k).getD (d.get? k))
      ∧ ∀ k, d.get? k = (es.reverse.findSome? (Edit.writes? k)).getD (start.get? k) := by
  intro d
  have htidy : d.Tidy := by
    rcases hstart with rfl | ⟨generated, candidate, rfl⟩
    · exact tidy_empty.edited es
    · exact (tidy_between generated candidate).edited es
  exact ⟨htidy, htidy.tfae_isEmpty, fun _ => htidy.containsSetting_iff,
    ⟨d.size_eq_sum, d.size_eq_length_keys, d.nodup_keys, fun _ => mem_keys_iff⟩, d.remove_fst,
    fun _ => rfl, d.get?_apply, start.get?_edited es⟩

/-- A method and a name that differ, where the method is taken out, put in again, taken out with its
setting, and taken out once more: the name alone is left, and no trace of the other setting. -/
theorem edited_tidy_and_counted_method :
    let generated := (Profile.empty.set .interfaceName (.text "eth1")).set (.ipMethod .v4)
      (.text "disabled")
    let candidate := Profile.empty.set .interfaceName (.text "eth2")
    let start := between generated candidate
    let es : List Edit :=
      [.remove (.ipMethod .v4), .insert (.ipMethod .v4) (none, some (.text "auto")),
        .removeSetting "ipv4", .remove (.ipMethod .v4)]
    start.keys = [.interfaceName, .ipMethod .v4]
      ∧ (∀ s ∈ (start.edited es).settings.entries, s.2.isEmpty = false)
      ∧ (start.edited es).size = 1
      ∧ (start.edited es).containsSetting "ipv4" = false
      ∧ ((start.edited es).remove (.ipMethod .v4)).1 = false
      ∧ (start.edited es).get? .interfaceName
        = some (some (.text "eth1"), some (.text "eth2")) := by
  intro generated candidate start es
  have hstart : start.keys = [.interfaceName, .ipMethod .v4] := by decide +kernel
  have hbetween : start = empty ∨ ∃ g c, start = between g c := .inr ⟨generated, candidate, rfl⟩
  obtain ⟨hheld, -, hsetting, ⟨-, hsize, -, -⟩, hremove, -, -, hget⟩ :=
    edited_tidy_and_counted hbetween es
  refine ⟨hstart, hheld, hsize.trans (by decide +kernel), ?_, (hremove _).trans (by decide +kernel),
    (hget _).trans (by decide +kernel)⟩
  -- under each key of the setting the last edit that is for it writes that there is none
  rw [← Bool.not_eq_true, hsetting]
  rintro ⟨property, hcontains⟩
  obtain ⟨c, hc⟩ := contains_iff.mp hcontains
  rw [hget] at hc
  by_cases hproperty : (⟨"ipv4", property⟩ : Key) = .ipMethod .v4 <;>
    simp [es, Edit.writes?, hproperty] at hc

end Difference

end ProfileMatch
