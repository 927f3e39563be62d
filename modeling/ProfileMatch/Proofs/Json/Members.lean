import Mathlib.Tactic.Common
import ProfileMatch.Json.Basic
import ProfileMatch.Proofs.Table
/-!
Objects whose members have distinct names, and what is read off them.

* `Json.lookup_putMember`, `Json.nodup_memberNames_putMember`: what a member that is put into an
  object does to its lookups; the names stay distinct;
* `Table.enter`: one step of a reader that puts what it reads of a member under its name;
* `Table.foldlM_enter_eq_ok_iff`: over all members, such a reader succeeds exactly if each member
  can be read, and has under each name what it reads of the member of that name;
* `Table.lookup_cases_of_foldlM_enter`: one name of such a table;
* `Table.foldlM_enter_putMember`: so a member that is put into the object comes out as one more
  insertion into the table.
-/

namespace ProfileMatch

/-! ### Members -/

namespace Json

variable {name name' : String} {value : Json} {ms : List (String × Json)}

/-- The names of members, in order. -/
def memberNames (ms : List (String × Json)) : List String :=
  ms.map Prod.fst

/-- A lookup after a member was put into an object finds it under its name and all else as
before. -/
lemma lookup_putMember (name name' : String) (value : Json) (ms : List (String × Json)) :
    (putMember name value ms).lookup name' =
      if name' = name then some value else ms.lookup name' := by
  induction ms with
  | nil => rw [putMember, Table.lookup_cons]
  | cons m ms ih =>
      rw [putMember]
      by_cases hm : m.1 = name
      · rw [if_pos hm, Table.lookup_cons, Table.lookup_cons, hm]
        by_cases hname : name' = name <;> simp [hname]
      · rw [if_neg hm, Table.lookup_cons, Table.lookup_cons, ih]
        by_cases hname : name' = m.1
        · rw [if_pos hname, if_pos hname, if_neg fun heq => hm (hname.symm.trans heq)]
        · rw [if_neg hname, if_neg hname]

/-- A member of the new object is the one that was put there, or it was there before. -/
lemma mem_putMember {m : String × Json} (h : m ∈ putMember name value ms) :
    m = (name, value) ∨ m ∈ ms := by
  induction ms with
  | nil => exact .inl (List.mem_singleton.mp h)
  | cons m' ms ih =>
      rw [putMember] at h
      split_ifs at h
      · exact (List.mem_cons.mp h).imp_right (List.mem_cons_of_mem m')
      · rcases List.mem_cons.mp h with rfl | h
        · exact .inr List.mem_cons_self
        · exact (ih h).imp_right (List.mem_cons_of_mem m')

/-- Names that are distinct stay so. -/
lemma nodup_memberNames_putMember (h : (memberNames ms).Nodup) :
    (memberNames (putMember name value ms)).Nodup := by
  induction ms with
  | nil => exact List.pairwise_singleton _ name
  | cons m ms ih =>
      obtain ⟨hfirst, hrest⟩ := List.nodup_cons.mp h
      rw [putMember]
      split_ifs with hm
      · exact List.nodup_cons.mpr ⟨hm ▸ hfirst, hrest⟩
      · refine List.nodup_cons.mpr ⟨fun hmem => ?_, ih hrest⟩
        obtain ⟨m', hm', hname⟩ := List.mem_map.mp hmem
        rcases mem_putMember hm' with rfl | hm'
        · exact hm hname.symm
        · exact hfirst (List.mem_map.mpr ⟨m', hm', hname⟩)

end Json

/-! ### Reading members -/

namespace Table

open Json (memberNames putMember)

variable {α ε : Type} {read : String → Json → Except ε (Option α)} {t t' : Table α}
  {name : String} {value : Json} {a : α} {ms : List (String × Json)}

/-- Puts what is read of a member under its name, if it is anything. -/
def enter (read : String → Json → Except ε (Option α)) (t : Table α) (m : String × Json) :
    Except ε (Table α) :=
  (read m.1 m.2).map fun o => o.elim t (t.insert m.1)

/-- What is read of the member of a name, if there is one and it is anything. -/
def readUnder (read : String → Json → Except ε (Option α)) (ms : List (String × Json))
    (name : String) : Option α :=
  (ms.lookup name).bind fun value => (read name value).toOption.join

/-- **Reading by names**: members of distinct names are read in turn exactly if each of them can be
read, and what is under a name in the end is what is read of the member of that name, or else what
was there before. -/
lemma foldlM_enter_eq_ok_iff (h : (memberNames ms).Nodup) :
    ms.foldlM (enter read) t = .ok t' ↔
      (∀ m ∈ ms, ∃ o, read m.1 m.2 = .ok o)
        ∧ ∀ name, t'.get? name = (readUnder read ms name).or (t.get? name) := by
  induction ms generalizing t with
  | nil =>
      have hfold : ([] : List (String × Json)).foldlM (enter read) t = .ok t := rfl
      rw [hfold, Except.ok.injEq]
      constructor
      · rintro rfl
        exact ⟨fun m hm => absurd hm List.not_mem_nil, fun name => rfl⟩
      · rintro ⟨-, hget⟩
        exact (ext_get? hget).symm
  | cons m ms ih =>
      obtain ⟨hfirst, hrest⟩ := List.nodup_cons.mp h
      rw [List.foldlM_cons]
      cases hread : read m.1 m.2 with
      | error e =>
          rw [enter, hread]
          constructor
          · intro hok
            cases hok
          · rintro ⟨hall, -⟩
            obtain ⟨o, ho⟩ := hall m List.mem_cons_self
            rw [hread] at ho
            cases ho
      | ok o =>
          have hstep : (enter read t m >>= fun t => ms.foldlM (enter read) t)
              = ms.foldlM (enter read) (o.elim t (t.insert m.1)) := by
            rw [enter, hread]
            rfl
          -- the member that was read stands under its own name, where the rest reads nothing
          have hunder : ∀ name, (readUnder read ms name).or ((o.elim t (t.insert m.1)).get? name)
              = (readUnder read (m :: ms) name).or (t.get? name) := by
            intro name
            rw [readUnder, readUnder, lookup_cons]
            by_cases hname : name = m.1
            · subst hname
              rw [if_pos rfl, lookup_eq_none_of_notMem hfirst, Option.bind_some,
                hread]
              cases o with
              | none => rfl
              | some a => exact (get?_insert t m.1 m.1 a).trans (if_pos rfl)
            · rw [if_neg hname]
              cases o with
              | none => rfl
              | some a => rw [Option.elim_some, get?_insert, if_neg hname]
          rw [hstep, ih hrest]
          simp only [hunder, List.forall_mem_cons]
          exact and_congr_left fun _ => ⟨fun hall => ⟨⟨o, hread⟩, hall⟩, fun hall => hall.2⟩

/-- Under each name stands what is read of the member of that name, or nothing if there is none. -/
lemma lookup_cases_of_foldlM_enter (h : (memberNames ms).Nodup)
    (hfold : ms.foldlM (enter read) empty = .ok t) (name : String) :
    (ms.lookup name = none ∧ t.get? name = none)
      ∨ ∃ value, ms.lookup name = some value ∧ read name value = .ok (t.get? name) := by
  obtain ⟨hall, hget⟩ := (foldlM_enter_eq_ok_iff h).mp hfold
  have hname := hget name
  rw [get?_empty, Option.or_none, readUnder] at hname
  cases hlookup : ms.lookup name with
  | none =>
      rw [hlookup] at hname
      exact .inl ⟨rfl, hname⟩
  | some value =>
      obtain ⟨o, ho⟩ := hall _ (mem_of_lookup hlookup)
      rw [hlookup, Option.bind_some, ho] at hname
      rw [hname]
      exact .inr ⟨value, rfl, ho⟩

/-- **A member that is put into an object** is one more insertion into what is read off it. -/
lemma foldlM_enter_putMember (h : (memberNames ms).Nodup) (hms : ms.foldlM (enter read) t = .ok t')
    (hread : read name value = .ok (some a)) :
    (putMember name value ms).foldlM (enter read) t = .ok (t'.insert name a) := by
  obtain ⟨hall, hget⟩ := (foldlM_enter_eq_ok_iff h).mp hms
  refine (foldlM_enter_eq_ok_iff (Json.nodup_memberNames_putMember h)).mpr
    ⟨fun m hm => ?_, fun n => ?_⟩
  · rcases Json.mem_putMember hm with rfl | hm
    · exact ⟨some a, hread⟩
    · exact hall m hm
  · rw [get?_insert, readUnder, Json.lookup_putMember]
    by_cases hn : n = name
    · rw [if_pos hn, if_pos hn, Option.bind_some, hn, hread]
      rfl
    · rw [if_neg hn, if_neg hn, hget, readUnder]

end Table

end ProfileMatch
