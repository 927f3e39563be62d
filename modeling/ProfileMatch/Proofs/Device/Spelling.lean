import Mathlib.Tactic.Common
import ProfileMatch.Proofs.Device.Verdict
import ProfileMatch.Proofs.Text.Parts
import ProfileMatch.Proofs.Text.Trimming
/-!
The spellings of a specification.

* `Apart`, `apart_tags`: no tag is the beginning of another one, so that a body is read by the tag
  that it opens with (`readCriterion_append`);
* `Shortens`: the two ways in which a body may be written shorter, the tag of hardware addresses and
  the sign of patterns;
* `readCriterion_eq_iff`: bodies ask for the same exactly if they are the same but for that;
* `readTrimmed?_opening`, `exists_of_readTrimmed?`: what is read consists of an opening and a body;
* `read?_text_and_eq_iff_respells`: a specification is read back from its full spelling, and texts
  are read as the same one exactly if, trimmed, they are the same but for a shorter spelling.
-/

namespace ProfileMatch.Spec

variable {cs cs' body body' rest : List Char} {tag : List Char × (List Char → Criterion)}

/-! ### Tags -/

/-- Neither of two texts is the beginning of the other. -/
def Apart (a b : List Char) : Prop := ¬a <+: b ∧ ¬b <+: a

instance : DecidableRel Apart := fun a b => inferInstanceAs (Decidable (¬a <+: b ∧ ¬b <+: a))

/-- What is apart from a text is apart from all that it opens. -/
lemma Apart.not_prefix_append {a b : List Char} (h : Apart a b) (rest : List Char) :
    ¬a <+: b ++ rest := by
  intro ha
  rcases List.prefix_or_prefix_of_prefix ha (List.prefix_append b rest) with hab | hba
  · exact h.1 hab
  · exact h.2 hba

/-- A text does not go on behind what it does not open with. -/
lemma after?_eq_none_iff : Text.after? body cs = none ↔ ¬body <+: cs := by
  rw [← not_iff_not, not_not, ← ne_eq, Option.ne_none_iff_exists']
  exact exists_congr fun rest => Text.after?_eq_some_iff.trans eq_comm

/-- The tags are apart from one another. -/
lemma apart_tags : tags.Pairwise fun tag tag' => Apart tag.1 tag'.1 := by decide

/-- The tags are apart from the one of exceptions. -/
lemma apart_exceptTag : ∀ tag ∈ tags, Apart exceptTag tag.1 := by decide

lemma mem_tags_interface : (interfaceTag, readName) ∈ tags := by simp [tags]

/-- Hardware addresses have two tags. -/
lemma mem_tags_hardware {t : List Char} (h : t = macTag ∨ t = macAddressTag) :
    (t, fun cs => Criterion.hardwareAddress (String.ofList cs)) ∈ tags := by
  rcases h with rfl | rfl <;> simp [tags]

/-- Of tags that are apart, the one that a body opens with reads it. -/
lemma readTagged_append {ts : List (List Char × (List Char → Criterion))}
    (hapart : ts.Pairwise fun tag tag' => Apart tag.1 tag'.1) (h : tag ∈ ts) (rest : List Char) :
    readTagged (tag.1 ++ rest) ts = tag.2 rest := by
  induction hapart with
  | nil => exact absurd h List.not_mem_nil
  | @cons first ts hfirst _ ih =>
      rw [readTagged]
      rcases List.mem_cons.mp h with rfl | h
      · rw [Text.after?_eq_some_iff.mpr rfl]
      · rw [after?_eq_none_iff.mpr ((hfirst tag h).not_prefix_append rest)]
        exact ih h

/-- **A body is read by the tag that it opens with.** -/
lemma readCriterion_append (h : tag ∈ tags) (rest : List Char) :
    readCriterion (tag.1 ++ rest) = tag.2 rest := by
  have hlong : ∀ tag ∈ tags, 1 < tag.1.length := by decide
  have hstar : tag.1 ++ rest ≠ ['*'] := by
    intro heq
    have hlength := congrArg List.length heq
    rw [List.length_append, List.length_singleton] at hlength
    have hlt := hlong tag h
    omega
  rw [readCriterion, if_neg hstar, readTagged_append apart_tags h]

lemma readCriterion_interface (rest : List Char) :
    readCriterion (interfaceTag ++ rest) = readName rest :=
  readCriterion_append mem_tags_interface rest

lemma readCriterion_hardware {t : List Char} (h : t = macTag ∨ t = macAddressTag)
    (rest : List Char) :
    readCriterion (t ++ rest) = .hardwareAddress (String.ofList rest) :=
  readCriterion_append (mem_tags_hardware h) rest

/-- A body is untagged or stands behind a tag, which reads it. -/
lemma readTagged_cases (cs : List Char) (ts : List (List Char × (List Char → Criterion))) :
    readTagged cs ts = .untagged (String.ofList cs)
      ∨ ∃ tag ∈ ts, ∃ rest, cs = tag.1 ++ rest ∧ readTagged cs ts = tag.2 rest := by
  induction ts with
  | nil => exact Or.inl rfl
  | cons tag ts ih =>
      rw [readTagged]
      cases hafter : Text.after? tag.1 cs with
      | some rest =>
          exact Or.inr ⟨tag, List.mem_cons_self, rest, Text.after?_eq_some_iff.mp hafter, rfl⟩
      | none =>
          rcases ih with h | ⟨tag', htag', rest, hcs, h⟩
          · exact Or.inl h
          · exact Or.inr ⟨tag', List.mem_cons_of_mem tag htag', rest, hcs, h⟩

/-! ### Shorter spellings -/

/-- A body written shorter, and in full: the tag of hardware addresses may be shortened, and the
sign of a pattern may be left out where no sign would then stand in its place. -/
inductive Shortens : List Char → List Char → Prop
  | mac (rest : List Char) : Shortens (macTag ++ rest) (macAddressTag ++ rest)
  | tilde {rest : List Char} (h : ∀ c ∈ rest.head?, c ≠ '=' ∧ c ≠ '~') :
      Shortens (interfaceTag ++ rest) (interfaceTag ++ '~' :: rest)

lemma readName_of_head? (h : ∀ c ∈ rest.head?, c ≠ '=' ∧ c ≠ '~') :
    readName rest = .interfaceName (String.ofList rest) true := by
  unfold readName
  split
  · exact absurd rfl (h '=' rfl).1
  · exact absurd rfl (h '~' rfl).2
  · rfl

/-- A shorter spelling asks for the same. -/
lemma Shortens.readCriterion_eq (h : Shortens body body') :
    readCriterion body = readCriterion body' := by
  cases h with
  | mac rest => rw [readCriterion_hardware (Or.inl rfl), readCriterion_hardware (Or.inr rfl)]
  | tilde h =>
      rw [readCriterion_interface, readCriterion_interface, readName_of_head? h]
      rfl

/-- A full spelling has one shorter one at most. -/
lemma Shortens.eq_of_eq {full full' : List Char} (h : Shortens body full)
    (h' : Shortens body' full') (heq : full = full') : body = body' := by
  cases h with
  | mac rest =>
      cases h' with
      | mac rest' => rw [List.append_cancel_left heq]
      | tilde h' => exact absurd (List.head_eq_of_cons_eq heq) (by decide)
  | tilde h =>
      cases h' with
      | mac rest' => exact absurd (List.head_eq_of_cons_eq heq) (by decide)
      | tilde h' => rw [(List.cons.inj (List.append_cancel_left heq)).2]

/-! ### Full spellings -/

/-- Characters behind a text. -/
lemma toList_append_ofList (t : String) (rest : List Char) :
    (t ++ String.ofList rest).toList = t.toList ++ rest := by
  rw [String.toList_append, String.toList_ofList]

/-- Names of interfaces in full. -/
lemma toList_text_interfaceName (name : List Char) (isPattern : Bool) :
    (Criterion.interfaceName (String.ofList name) isPattern).text.toList =
      interfaceTag ++ (if isPattern then '~' else '=') :: name := by
  cases isPattern with
  | false =>
      have htext := toList_append_ofList "interface-name:=" name
      exact htext.trans (List.append_assoc interfaceTag ['='] name)
  | true =>
      have htext := toList_append_ofList "interface-name:~" name
      exact htext.trans (List.append_assoc interfaceTag ['~'] name)

/-- A name of an interface is written in full, unless it is a pattern without its sign. -/
lemma text_readName (rest : List Char) :
    interfaceTag ++ rest = (readName rest).text.toList
      ∨ Shortens (interfaceTag ++ rest) (readName rest).text.toList := by
  unfold readName
  split
  · left
    rw [toList_text_interfaceName]
    rfl
  · left
    rw [toList_text_interfaceName]
    rfl
  · rename_i hequals htilde
    right
    rw [toList_text_interfaceName]
    refine .tilde fun c hc => ⟨?_, ?_⟩
    · rintro rfl
      obtain ⟨rest', hrest⟩ := List.head?_eq_some_iff.mp hc
      exact hequals rest' hrest
    · rintro rfl
      obtain ⟨rest', hrest⟩ := List.head?_eq_some_iff.mp hc
      exact htilde rest' hrest

/-- A driver is written in full. -/
lemma text_readDriver (rest : List Char) : driverTag ++ rest = (readDriver rest).text.toList := by
  rw [readDriver]
  by_cases hslash : '/' ∈ rest
  · obtain ⟨name, version, rfl, hname⟩ := List.eq_append_cons_of_mem hslash
    rw [Text.cut?_append hname]
    change _ = ("driver:" ++ String.ofList name ++ ("/" ++ String.ofList version)).toList
    rw [String.toList_append, toList_append_ofList, toList_append_ofList, List.append_assoc]
    rfl
  · rw [Text.cut?_eq_none_iff.mpr hslash]
    change _ = ("driver:" ++ String.ofList rest ++ "").toList
    rw [String.append_empty, toList_append_ofList]
    rfl

/-- **What a body asks for, in full**, is the body itself or what it is a shorter spelling of. -/
lemma text_readCriterion (body : List Char) :
    body = (readCriterion body).text.toList ∨ Shortens body (readCriterion body).text.toList := by
  rw [readCriterion]
  split_ifs with hstar
  · exact Or.inl hstar
  · rcases readTagged_cases body tags with h | ⟨tag, htag, rest, rfl, h⟩
    · rw [h]
      exact Or.inl String.toList_ofList.symm
    · rw [h]
      simp only [tags, List.mem_cons, List.not_mem_nil, or_false] at htag
      rcases htag with rfl | rfl | rfl | rfl | rfl | rfl | rfl | rfl
      · exact text_readName rest
      · exact Or.inl (toList_append_ofList "mac-address:" rest).symm
      · right
        have htext := toList_append_ofList "mac-address:" rest
        exact htext ▸ .mac rest
      · exact Or.inl (toList_append_ofList "type:" rest).symm
      · exact Or.inl (toList_append_ofList "driver-version:" rest).symm
      · exact Or.inl (text_readDriver rest)
      · exact Or.inl (toList_append_ofList "s390-subchannels:" rest).symm
      · exact Or.inl (toList_append_ofList "dhcp-plugin:" rest).symm

/-- **Bodies ask for the same** exactly if they are the same or one is a shorter spelling of the
other. -/
lemma readCriterion_eq_iff :
    readCriterion body = readCriterion body' ↔
      body = body' ∨ Shortens body body' ∨ Shortens body' body := by
  constructor
  · intro h
    have hfull := text_readCriterion body
    have hfull' := text_readCriterion body'
    rw [← h] at hfull'
    rcases hfull with heq | hshort <;> rcases hfull' with heq' | hshort'
    · exact Or.inl (heq.trans heq'.symm)
    · exact Or.inr (Or.inr (heq ▸ hshort'))
    · exact Or.inr (Or.inl (heq' ▸ hshort))
    · exact Or.inl (hshort.eq_of_eq hshort' rfl)
  · rintro (rfl | h | h)
    · rfl
    · exact h.readCriterion_eq
    · exact h.readCriterion_eq.symm

/-! ### Openings -/

/-- How a specification opens. -/
def opening (except : Bool) : List Char := if except then exceptTag else []

lemma toList_text (s : Spec) : s.text.toList = opening s.except ++ s.criterion.text.toList := by
  rw [text, String.toList_append]
  cases s.except <;> rfl

/-- A body: there is something in it, and it does not begin with an opening itself. -/
structure IsBody (body : List Char) : Prop where
  ne_nil : body ≠ []
  not_except : ¬exceptTag <+: body

/-- What stands behind a tag makes a body with it. -/
lemma isBody_append (h : tag ∈ tags) (rest : List Char) : IsBody (tag.1 ++ rest) := by
  have hfull : ∀ tag ∈ tags, tag.1 ≠ [] := by decide
  exact ⟨List.append_ne_nil_of_left_ne_nil (hfull tag h) rest,
    (apart_exceptTag tag h).not_prefix_append rest⟩

/-- Both spellings of a body are bodies. -/
lemma Shortens.isBody (h : Shortens body body') : IsBody body ∧ IsBody body' := by
  cases h with
  | mac rest =>
      exact ⟨isBody_append (mem_tags_hardware (Or.inl rfl)) rest,
        isBody_append (mem_tags_hardware (Or.inr rfl)) rest⟩
  | tilde h => exact ⟨isBody_append mem_tags_interface _, isBody_append mem_tags_interface _⟩

/-- **An opening and a body** are read. -/
lemma readTrimmed?_opening (except : Bool) (h : IsBody body) :
    readTrimmed? (opening except ++ body) = some ⟨except, readCriterion body⟩ := by
  have hfull : body.isEmpty = false := List.isEmpty_eq_false_iff.mpr h.ne_nil
  cases except with
  | false =>
      change readTrimmed? body = _
      rw [readTrimmed?, after?_eq_none_iff.mpr h.not_except]
      simp [hfull]
  | true =>
      change readTrimmed? (exceptTag ++ body) = _
      rw [readTrimmed?, Text.after?_eq_some_iff.mpr rfl]
      simp [hfull]

/-- What is read is an opening and a body behind it. -/
lemma exists_of_readTrimmed? {s : Spec} (h : readTrimmed? cs = some s) :
    ∃ body, cs = opening s.except ++ body ∧ readCriterion body = s.criterion := by
  rw [readTrimmed?] at h
  cases hafter : Text.after? exceptTag cs with
  | some body =>
      simp only [hafter] at h
      split_ifs at h
      obtain rfl := Option.some.inj h
      exact ⟨body, Text.after?_eq_some_iff.mp hafter, rfl⟩
  | none =>
      simp only [hafter] at h
      split_ifs at h
      obtain rfl := Option.some.inj h
      exact ⟨cs, rfl, rfl⟩

/-- Trimmed texts are the same, or one of them is a shorter spelling of the other behind the opening
of both. -/
def Respells (cs cs' : List Char) : Prop :=
  cs = cs' ∨ ∃ except body body', cs = opening except ++ body ∧ cs' = opening except ++ body'
    ∧ (Shortens body body' ∨ Shortens body' body)

/-- Other spellings of a text are read as the text is. -/
lemma Respells.readTrimmed?_eq (h : Respells cs cs') : readTrimmed? cs = readTrimmed? cs' := by
  rcases h with rfl | ⟨except, body, body', rfl, rfl, h | h⟩
  · rfl
  · rw [readTrimmed?_opening except h.isBody.1, readTrimmed?_opening except h.isBody.2,
      h.readCriterion_eq]
  · rw [readTrimmed?_opening except h.isBody.1, readTrimmed?_opening except h.isBody.2,
      h.readCriterion_eq]

/-- Trimmed texts that are read as one specification are other spellings of one another. -/
lemma respells_of_readTrimmed? {s : Spec} (h : readTrimmed? cs = some s)
    (h' : readTrimmed? cs' = some s) : Respells cs cs' := by
  obtain ⟨body, rfl, hbody⟩ := exists_of_readTrimmed? h
  obtain ⟨body', rfl, hbody'⟩ := exists_of_readTrimmed? h'
  rcases readCriterion_eq_iff.mp (hbody.trans hbody'.symm) with rfl | hshort
  · exact Or.inl rfl
  · exact Or.inr ⟨s.except, body, body', rfl, rfl, hshort⟩

/-! ### Trimming -/

/-- The full spelling of a trimmed text is trimmed. -/
lemma Shortens.trimmed {except : Bool} (h : Shortens body body')
    (htrimmed : Text.Trimmed (opening except ++ body)) :
    Text.Trimmed (opening except ++ body') := by
  cases h with
  | mac rest =>
      have hfront : Text.Trimmed (opening except ++ macAddressTag) :=
        Text.trimmed_of_any_eq_false (by cases except <;> decide)
      rw [← List.append_assoc] at htrimmed ⊢
      exact htrimmed.append_of_append hfront (by cases except <;> decide)
  | @tilde rest h =>
      have hfront : Text.Trimmed (opening except ++ (interfaceTag ++ ['~'])) :=
        Text.trimmed_of_any_eq_false (by cases except <;> decide)
      rw [← List.append_assoc] at htrimmed
      have hfull : opening except ++ (interfaceTag ++ '~' :: rest)
          = opening except ++ (interfaceTag ++ ['~']) ++ rest := by simp
      rw [hfull]
      exact htrimmed.append_of_append hfront (by cases except <;> decide)

/-- **The specification of a trimmed text, in full**, is trimmed and another spelling of the text.
-/
lemma text_of_readTrimmed? {s : Spec} (htrimmed : Text.Trimmed cs) (h : readTrimmed? cs = some s) :
    Text.Trimmed s.text.toList ∧ Respells cs s.text.toList := by
  obtain ⟨body, rfl, hbody⟩ := exists_of_readTrimmed? h
  rw [toList_text, ← hbody]
  rcases text_readCriterion body with heq | hshort
  · rw [← heq]
    exact ⟨htrimmed, Or.inl rfl⟩
  · exact ⟨hshort.trimmed htrimmed, Or.inr ⟨s.except, body, _, rfl, rfl, Or.inl hshort⟩⟩

/-- A specification is read back from its full spelling. -/
lemma read?_text {t : String} {s : Spec} (h : read? t = some s) : read? s.text = some s := by
  obtain ⟨htrimmed, hrespells⟩ := text_of_readTrimmed? (Text.trimmed_trimChars t.toList) h
  rw [read?, Text.trimChars_of_trimmed htrimmed, ← hrespells.readTrimmed?_eq]
  exact h

/-- **Texts and specifications.** A text is no specification exactly if, trimmed, it is empty or a
bare `except:`. Every specification that is read is read back from its full spelling. Texts are read
as the same specification exactly if, trimmed, they are the same but that one of them has `mac:`
where the other has `mac-address:`, or leaves out the tilde in front of the pattern of an interface
name. -/
theorem read?_text_and_eq_iff_respells :
    (∀ t, read? t = none ↔ Text.trim t = "" ∨ Text.trim t = "except:")
    ∧ (∀ t s, read? t = some s → read? s.text = some s)
    ∧ ∀ t t' s, read? t = some s →
        (read? t' = some s ↔ Respells (Text.trim t).toList (Text.trim t').toList) := by
  refine ⟨fun t => read?_eq_none_iff, fun t s => read?_text, ?_⟩
  intro t t' s h
  rw [Text.trim, Text.trim, String.toList_ofList, String.toList_ofList]
  constructor
  · exact respells_of_readTrimmed? h
  · intro hrespells
    exact hrespells.readTrimmed?_eq.symm.trans h

/-- A pattern that is read back with its tilde, and an exception written with the short tag and
blanks around it. -/
theorem read?_text_short_spellings :
    let pattern : Spec := ⟨false, .interfaceName "eth*" true⟩
    let exception : Spec := ⟨true, .hardwareAddress "=~:0"⟩
    (read? "interface-name:eth*" = some pattern ∧ pattern.text = "interface-name:~eth*"
        ∧ read? "interface-name:~eth*" = some pattern)
      ∧ read? " except:mac:=~:0" = some exception
      ∧ read? "except:mac-address:=~:0 " = some exception := by
  intro pattern exception
  obtain ⟨-, hback, hsame⟩ := read?_text_and_eq_iff_respells
  have hpattern : read? "interface-name:eth*" = some pattern := by decide +kernel
  have hexception : read? " except:mac:=~:0" = some exception := by decide +kernel
  have htext : pattern.text = "interface-name:~eth*" := by decide +kernel
  have hpattern' := hback _ _ hpattern
  rw [htext] at hpattern'
  refine ⟨⟨hpattern, htext, hpattern'⟩, hexception, ?_⟩
  refine (hsame " except:mac:=~:0" "except:mac-address:=~:0 " exception hexception).mpr ?_
  exact Or.inr ⟨true, macTag ++ "=~:0".toList, macAddressTag ++ "=~:0".toList, by decide +kernel,
    by decide +kernel, Or.inl (.mac _)⟩

end ProfileMatch.Spec
