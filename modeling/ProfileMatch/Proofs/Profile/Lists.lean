import Mathlib.Tactic.Common
import ProfileMatch.Proofs.Profile.RoundTrip
import ProfileMatch.Proofs.Text.Items
/-!
Lists of texts, which are written as one text with commas or as an array.

* `Value.ofJson_string_eq_iff`: a text is read as a list of items exactly if it lists them;
* `Value.ofJson_list_spellings`: both forms of a list are read alike, and the items of any text can
  be put together again.
-/

namespace ProfileMatch.Value

variable {key : Key} {p : Property} {items : List String} {s : String}

/-- A text for a list property is a list, whatever it holds. -/
lemma ofJson_string_of_list (hkey : Property.of? key = some p) (hkind : p.kind = .list)
    (s : String) : ofJson key (.string s) = .ok (some (.list (Text.listItems s))) := by
  rw [ofJson_of_ne_null (by simp), hkey]
  simp only
  rw [hkind, ofKind, orBad_eq_ok_iff, readList]

/-- **A list as text** holds the items that the text lists. -/
lemma ofJson_string_eq_iff (hkey : Property.of? key = some p) (hkind : p.kind = .list) :
    ofJson key (.string s) = .ok (some (.list items)) ↔
      Text.Lists (items.map String.toList) s.toList := by
  rw [ofJson_string_of_list hkey hkind, ← Text.listItems_eq_iff, Except.ok.injEq, Option.some.injEq,
    list.injEq]

/-- **A list as an array** of texts holds these texts. -/
lemma ofJson_array_of_list (hkey : Property.of? key = some p) (hkind : p.kind = .list)
    (items : List String) :
    ofJson key (.array (items.map .string)) = .ok (some (.list items)) := by
  refine ofJson_toJson (.list items fun p' hp' => ?_)
  rw [hkey] at hp'
  exact Option.some.inj hp' ▸ hkind

/-- **The two forms of a list.** For a list property a text is read as a list of items exactly if it
lists them, with commas between them and blanks and blank pieces anywhere around them, and the array
of the items is read as the same list. Every text is read so: what is read of it are items, and
these, put together with commas, are read as the same list again. -/
theorem ofJson_list_spellings (hkey : Property.of? key = some p) (hkind : p.kind = .list) :
    (∀ (items : List String) (s : String),
        ofJson key (.string s) = .ok (some (.list items)) ↔
          Text.Lists (items.map String.toList) s.toList)
      ∧ (∀ items : List String,
        ofJson key (.array (items.map .string)) = .ok (some (.list items)))
      ∧ ∀ s : String, ∃ items : List String,
        ofJson key (.string s) = .ok (some (.list items))
          ∧ (∀ item ∈ items, Text.IsItem item.toList)
          ∧ ofJson key (.string (",".intercalate items)) = .ok (some (.list items)) := by
  refine ⟨fun _ _ => ofJson_string_eq_iff hkey hkind, ofJson_array_of_list hkey hkind, ?_⟩
  intro s
  have hread := ofJson_string_of_list hkey hkind s
  have hitems : ∀ w ∈ (Text.listItems s).map String.toList, Text.IsItem w :=
    ((ofJson_string_eq_iff hkey hkind).mp hread).isItem
  refine ⟨Text.listItems s, hread, fun item hitem => hitems _ (List.mem_map_of_mem hitem), ?_⟩
  rw [ofJson_string_eq_iff hkey hkind, String.toList_intercalate]
  exact Text.lists_intercalate hitems

/-- Two name servers in a text with blanks of several kinds, a piece of blanks alone and an empty
one. -/
theorem ofJson_list_spellings_blank_pieces :
    let key : Key := ⟨"ipv4", "dns"⟩
    let s := " 10.0.0.1 ,\t,\u00a0::1\u3000,"
    Text.Lists [['1', '0', '.', '0', '.', '0', '.', '1'], [':', ':', '1']] s.toList
      ∧ ofJson key (.string s) = .ok (some (.list ["10.0.0.1", "::1"]))
      ∧ ofJson key (.array [.string "10.0.0.1", .string "::1"])
        = .ok (some (.list ["10.0.0.1", "::1"]))
      ∧ ofJson key (.string "10.0.0.1,::1") = .ok (some (.list ["10.0.0.1", "::1"])) := by
  intro key s
  have hlist : (Property.of? key).map Property.kind = some .list := by decide +kernel
  obtain ⟨p, hkey, hkind⟩ := Option.map_eq_some_iff.mp hlist
  obtain ⟨htext, harray, hagain⟩ := ofJson_list_spellings hkey hkind
  obtain ⟨items, hs, -, hjoined⟩ := hagain s
  obtain rfl : ["10.0.0.1", "::1"] = items := by
    have hitems : Text.listItems s = ["10.0.0.1", "::1"] := by decide +kernel
    rwa [ofJson_string_of_list hkey hkind, hitems, Except.ok.injEq, Option.some.injEq,
      list.injEq] at hs
  have hcommas : ",".intercalate ["10.0.0.1", "::1"] = "10.0.0.1,::1" := by decide +kernel
  rw [hcommas] at hjoined
  exact ⟨(htext _ s).mp hs, hs, harray ["10.0.0.1", "::1"], hjoined⟩

end ProfileMatch.Value
