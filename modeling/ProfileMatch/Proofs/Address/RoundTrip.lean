import Mathlib.Tactic.Common
import ProfileMatch.Address.Reader
import ProfileMatch.Address.Writer
import ProfileMatch.Proofs.Number.Digits
import ProfileMatch.Proofs.Reading
import ProfileMatch.Proofs.Text.Parts
/-!
Addresses are read back from their text.

* `readDottedOctets?_dotted`, `readPart?_colonText`: octets between points and groups between
  colons;
* `longestRun_isRun`: what is left out for a double colon is a run of zeros;
* `cutDouble?_colonText_append`: the double colon that is found is the one that was written;
* `readGrouped?_grouped`, `readGrouped?_mapped`: the two spellings of wide addresses;
* `read?_text`: the round trip.
-/

namespace ProfileMatch.Address

open Number Text

/-! ### Dotted octets -/

lemma readOctet?_toDigits (o : UInt8) : readOctet? (Nat.toDigits 10 o.toNat) = some o := by
  have hlt : o.toNat < 256 := o.toNat_lt
  have hlength : (Nat.toDigits 10 o.toNat).length ≤ 3 :=
    (Nat.length_toDigits_le_iff (by omega) (by omega)).mpr (by omega)
  have hfront : ¬((Nat.toDigits 10 o.toNat).head? = some '0'
      ∧ (Nat.toDigits 10 o.toNat).length ≠ 1) := by
    rintro ⟨hhead, hone⟩
    rw [eq_zero_of_head?_toDigits isBase_ten hhead] at hone
    exact hone rfl
  rw [readOctet?, if_neg (not_or.mpr ⟨by omega, hfront⟩), ofDigitText?_toDigits isBase_ten]
  simp [hlt]

/-- Octets between points are read back. -/
lemma readDottedOctets?_dotted {os : List UInt8} (h : os.length = 4) :
    readDottedOctets? (dotted os) = some os := by
  have hparts : (dotted os).splitOn '.' = os.map fun o => Nat.toDigits 10 o.toNat := by
    refine List.splitOn_intercalate '.' ?_ ?_
    · intro part hpart
      obtain ⟨o, -, rfl⟩ := List.mem_map.mp hpart
      exact notMem_toDigits isBase_ten (by decide)
    · intro hnil
      rw [List.map_eq_nil_iff.mp hnil] at h
      exact absurd h (by decide)
  rw [readDottedOctets?, hparts, mapM_map_eq_pure fun o _ => readOctet?_toDigits o]
  simp [h]

/-- Narrow addresses are read back. -/
lemma readDotted?_dotted {a : Address} (h : a.family = .v4) :
    readDotted? (dotted a.octets) = some a := by
  obtain ⟨family, octets, hcount⟩ := a
  simp only at h
  subst h
  have hlength : octets.length = 4 := hcount
  rw [readDotted?, readDottedOctets?_dotted hlength]
  simp only [hlength, dite_true]

/-- A character other than points and digits spoils octets between points. -/
lemma readDottedOctets?_eq_none {c : Char} {cs : List Char} (h : c ∈ cs) (hpoint : c ≠ '.')
    (hdigit : digit? 10 c = none) : readDottedOctets? cs = none := by
  obtain ⟨part, hpart, hmem⟩ := exists_mem_splitOn '.' h hpoint
  have hoctet : readOctet? part = none := by
    rw [readOctet?, ofDigitText?_eq_none hmem hdigit]
    split_ifs <;> rfl
  rw [readDottedOctets?, mapM_eq_none hpart hoctet]
  rfl

/-- A text with a colon is not dotted. -/
lemma readDotted?_of_colon {cs : List Char} (h : ':' ∈ cs) : readDotted? cs = none := by
  rw [readDotted?, readDottedOctets?_eq_none h (by decide) (by decide)]

/-- Octets are written with points and digits alone. -/
lemma notMem_dotted {c : Char} (hpoint : c ≠ '.') (hdigit : digit? 10 c = none)
    (os : List UInt8) : c ∉ dotted os := by
  refine notMem_intercalate hpoint fun part hpart => ?_
  obtain ⟨o, -, rfl⟩ := List.mem_map.mp hpart
  exact notMem_toDigits isBase_ten hdigit

/-! ### Groups between colons -/

lemma readGroup?_toDigits {g : ℕ} (hg : g < 65536) :
    readGroup? (Nat.toDigits 16 g) = some g := by
  have hlength : (Nat.toDigits 16 g).length ≤ 4 :=
    (Nat.length_toDigits_le_iff (by omega) (by omega)).mpr (by omega)
  rw [readGroup?, if_neg (by omega), ofDigitText?_toDigits isBase_sixteen]

lemma colon_notMem_toDigits (g : ℕ) : ':' ∉ Nat.toDigits 16 g :=
  notMem_toDigits isBase_sixteen (by decide)

lemma readGroupList?_toDigits (tail : Bool) {gs : List ℕ} (hgs : ∀ g ∈ gs, g < 65536) :
    readGroupList? tail (gs.map (Nat.toDigits 16)) = some gs := by
  induction gs with
  | nil => rfl
  | cons g gs ih =>
      have hhead := readGroup?_toDigits (hgs g List.mem_cons_self)
      have hrest := ih fun g' h => hgs g' (List.mem_cons_of_mem g h)
      cases gs with
      | nil =>
          rw [List.map_singleton, readGroupList?, hhead]
      | cons g' gs =>
          rw [List.map_cons] at hrest
          rw [List.map_cons, List.map_cons, readGroupList?, hhead, hrest]
          exact List.cons_ne_nil _ _

lemma colonText_cons_cons (g g' : ℕ) (gs : List ℕ) :
    colonText (g :: g' :: gs) = Nat.toDigits 16 g ++ ':' :: colonText (g' :: gs) := by
  rw [colonText, List.map_cons, List.map_cons, List.intercalate_cons_cons, List.append_assoc]
  rfl

/-- A part opens with a digit, if it has any group. -/
lemma exists_colonText_eq_cons (g : ℕ) (gs : List ℕ) :
    ∃ c cs, colonText (g :: gs) = c :: cs ∧ c ≠ ':' := by
  cases hg : Nat.toDigits 16 g with
  | nil => exact absurd hg Nat.toDigits_ne_nil
  | cons c cs =>
      have hc : c ≠ ':' := by
        rintro rfl
        exact colon_notMem_toDigits g (by rw [hg]; exact List.mem_cons_self)
      cases gs with
      | nil =>
          refine ⟨c, cs, ?_, hc⟩
          rw [colonText, List.map_singleton, List.intercalate_singleton, hg]
      | cons g' gs =>
          refine ⟨c, cs ++ ':' :: colonText (g' :: gs), ?_, hc⟩
          rw [colonText_cons_cons, hg, List.cons_append]

/-- The groups of a part are read back. -/
lemma readPart?_colonText (tail : Bool) {gs : List ℕ} (hgs : ∀ g ∈ gs, g < 65536) :
    readPart? tail (colonText gs) = some gs := by
  cases gs with
  | nil => rfl
  | cons g gs =>
      have hne : (colonText (g :: gs)).isEmpty = false := by
        obtain ⟨c, cs, hcons, -⟩ := exists_colonText_eq_cons g gs
        rw [hcons]
        rfl
      have hparts : (colonText (g :: gs)).splitOn ':' = (g :: gs).map (Nat.toDigits 16) := by
        refine List.splitOn_intercalate ':' ?_ (List.cons_ne_nil _ _)
        intro part hpart
        obtain ⟨g', -, rfl⟩ := List.mem_map.mp hpart
        exact colon_notMem_toDigits g'
      rw [readPart?, hne, hparts]
      exact readGroupList?_toDigits tail hgs

/-! ### The double colon -/

/-- No double colon begins in characters other than colons. -/
lemma cutDouble?_append_of_notMem {word : List Char} (h : ':' ∉ word) (rest : List Char) :
    cutDouble? (word ++ rest) = (cutDouble? rest).map fun p => (word ++ p.1, p.2) := by
  induction word with
  | nil => simp
  | cons c cs ih =>
      have hc : c ≠ ':' := fun heq => h (heq ▸ List.mem_cons_self)
      rw [List.cons_append, cutDouble?, ih fun hmem => h (List.mem_cons_of_mem c hmem),
        Option.map_map]
      · rfl
      · intro cs heq
        exact absurd heq hc

/-- A single colon is no double one. -/
lemma cutDouble?_colon_cons {c : Char} (hc : c ≠ ':') (cs : List Char) :
    cutDouble? (':' :: c :: cs) = (cutDouble? (c :: cs)).map fun p => (':' :: p.1, p.2) := by
  rw [cutDouble?]
  intro cs' _ heq
  exact hc (List.cons.inj heq).1

/-- **The double colon is found where it is written**: none begins in a part before it. -/
lemma cutDouble?_colonText_append (gs : List ℕ) (rest : List Char) :
    cutDouble? (colonText gs ++ rest)
      = (cutDouble? rest).map fun p => (colonText gs ++ p.1, p.2) := by
  induction gs with
  | nil => simp [colonText]
  | cons g gs ih =>
      cases gs with
      | nil =>
          rw [colonText, List.map_singleton, List.intercalate_singleton]
          exact cutDouble?_append_of_notMem (colon_notMem_toDigits g) rest
      | cons g' gs =>
          obtain ⟨c, cs, hcons, hc⟩ := exists_colonText_eq_cons g' gs
          rw [colonText_cons_cons, List.append_assoc,
            cutDouble?_append_of_notMem (colon_notMem_toDigits g), List.cons_append, hcons,
            List.cons_append, cutDouble?_colon_cons hc, ← List.cons_append, ← hcons, ih]
          simp [Function.comp_def]

/-! ### Runs of zeros -/

/-- A place and a length mark zeros in a list of groups. -/
def IsRun (gs : List ℕ) (run : ℕ × ℕ) : Prop :=
  run.2 ≤ leadingZeros (gs.drop run.1)

/-- **The longest run is a run** of zeros. -/
lemma longestRun_isRun (all gs : List ℕ) (start : ℕ) (best : ℕ × ℕ) (hgs : all.drop start = gs)
    (hbest : IsRun all best) : IsRun all (longestRun start best gs) := by
  induction gs generalizing start best with
  | nil => exact hbest
  | cons g gs ih =>
      have hrest : all.drop (start + 1) = gs := by
        rw [← List.drop_drop, hgs]
        rfl
      rw [longestRun]
      refine ih (start + 1) _ hrest ?_
      split_ifs
      · exact Nat.le_of_eq (congrArg leadingZeros hgs).symm
      · exact hbest

/-- As many zeros as stand at the start can be told off. -/
lemma eq_replicate_append_drop {n : ℕ} {gs : List ℕ} (h : n ≤ leadingZeros gs) :
    gs = List.replicate n 0 ++ gs.drop n := by
  induction n generalizing gs with
  | zero => rfl
  | succ n ih =>
      cases gs with
      | nil => exact absurd h (by simp [leadingZeros])
      | cons g gs =>
          cases g with
          | zero =>
              rw [leadingZeros] at h
              rw [List.replicate_succ, List.cons_append, List.drop_succ_cons,
                ← ih (by omega)]
          | succ g => exact absurd h (by simp [leadingZeros])

/-- Groups are those before a run, its zeros and those behind it. -/
lemma IsRun.eq_append {gs : List ℕ} {run : ℕ × ℕ} (h : IsRun gs run) :
    gs = gs.take run.1 ++ List.replicate run.2 0 ++ gs.drop (run.1 + run.2) :=
  calc gs = gs.take run.1 ++ gs.drop run.1 := (List.take_append_drop run.1 gs).symm
    _ = gs.take run.1 ++ (List.replicate run.2 0 ++ (gs.drop run.1).drop run.2) := by
        rw [← eq_replicate_append_drop h]
    _ = gs.take run.1 ++ List.replicate run.2 0 ++ gs.drop (run.1 + run.2) := by
        rw [List.drop_drop, List.append_assoc]

lemma grouped_eq (gs : List ℕ) :
    grouped gs =
      if 1 < (longestRun 0 (0, 0) gs).2 then
        colonText (gs.take (longestRun 0 (0, 0) gs).1) ++ [':', ':']
          ++ colonText (gs.drop ((longestRun 0 (0, 0) gs).1 + (longestRun 0 (0, 0) gs).2))
      else colonText gs := rfl

/-- **Groups are read back**, whether a run of zeros was left out or not. -/
lemma readGrouped?_grouped {gs : List ℕ} (hlength : gs.length = 8)
    (hgs : ∀ g ∈ gs, g < 65536) : readGrouped? (grouped gs) = ofGroups? gs := by
  have hrun : IsRun gs (longestRun 0 (0, 0) gs) :=
    longestRun_isRun gs gs 0 (0, 0) List.drop_zero (Nat.zero_le _)
  rw [grouped_eq]
  generalize longestRun 0 (0, 0) gs = run at hrun
  split_ifs with hn
  · -- what is left out is as long as what the reader fills in
    have happend := hrun.eq_append
    have hsum : (gs.take run.1).length + run.2 + (gs.drop (run.1 + run.2)).length = 8 := by
      rw [← hlength]
      conv_rhs => rw [happend]
      simp only [List.length_append, List.length_replicate]
    have hfill : 8 - ((gs.take run.1).length + (gs.drop (run.1 + run.2)).length) = run.2 := by
      omega
    have hcut : cutDouble? (colonText (gs.take run.1) ++ [':', ':']
        ++ colonText (gs.drop (run.1 + run.2)))
        = some (colonText (gs.take run.1), colonText (gs.drop (run.1 + run.2))) := by
      rw [List.append_assoc, cutDouble?_colonText_append]
      simp [cutDouble?]
    rw [readGrouped?, hcut]
    simp only [readPart?_colonText false fun g hg => hgs g (List.mem_of_mem_take hg),
      readPart?_colonText true fun g hg => hgs g (List.mem_of_mem_drop hg)]
    rw [if_pos (by omega), hfill, ← happend]
  · have hcut : cutDouble? (colonText gs) = none := by
      simpa [cutDouble?] using cutDouble?_colonText_append gs []
    rw [readGrouped?, hcut]
    simp only [readPart?_colonText true hgs]
    rfl

/-! ### Octets and groups -/

lemma lt_of_mem_groupsOf (os : List UInt8) : ∀ g ∈ groupsOf os, g < 65536 := by
  fun_induction groupsOf os with
  | case1 hi lo os ih =>
      intro g hg
      rcases List.mem_cons.mp hg with rfl | hg
      · have hhi := hi.toNat_lt
        have hlo := lo.toNat_lt
        omega
      · exact ih g hg
  | case2 =>
      intro g hg
      exact absurd hg List.not_mem_nil

/-- Octets in pairs are given back by their groups. -/
lemma octetsOf_groupsOf {os : List UInt8} (h : os.length % 2 = 0) :
    octetsOf (groupsOf os) = os := by
  fun_induction groupsOf os with
  | case1 hi lo os ih =>
      have hhi : UInt8.ofNat ((hi.toNat * 256 + lo.toNat) / 256) = hi := by
        have hdiv : (hi.toNat * 256 + lo.toNat) / 256 = hi.toNat := by
          have hlo := lo.toNat_lt
          omega
        rw [hdiv, UInt8.ofNat_toNat]
      have hlo : UInt8.ofNat ((hi.toNat * 256 + lo.toNat) % 256) = lo := by
        have hmod : (hi.toNat * 256 + lo.toNat) % 256 = lo.toNat := by
          have hlo := lo.toNat_lt
          omega
        rw [hmod, UInt8.ofNat_toNat]
      have hrest := ih (by simp only [List.length_cons] at h; omega)
      rw [octetsOf, List.flatMap_cons, ← octetsOf, hrest, hhi, hlo]
      rfl
  | case2 os hshort =>
      cases os with
      | nil => rfl
      | cons o os =>
          cases os with
          | nil => exact absurd h (by simp)
          | cons o' os => exact absurd rfl (hshort o o' os)

lemma length_groupsOf (os : List UInt8) : (groupsOf os).length = os.length / 2 := by
  fun_induction groupsOf os with
  | case1 hi lo os ih =>
      simp only [List.length_cons, ih]
      omega
  | case2 os hshort =>
      cases os with
      | nil => rfl
      | cons o os =>
          cases os with
          | nil => simp
          | cons o' os => exact absurd rfl (hshort o o' os)

lemma octetsOf_append (gs gs' : List ℕ) : octetsOf (gs ++ gs') = octetsOf gs ++ octetsOf gs' :=
  List.flatMap_append

/-- Eight groups make the address whose octets they are. -/
lemma ofGroups?_eq_some {a : Address} (hfamily : a.family = .v6) {gs : List ℕ}
    (hlength : gs.length = 8) (hoctets : octetsOf gs = a.octets) : ofGroups? gs = some a := by
  obtain ⟨family, octets, hcount⟩ := a
  simp only at hfamily hoctets
  subst hfamily hoctets
  rw [ofGroups?, dif_pos hlength]

/-! ### Mapped addresses -/

/-- A wide address that stands for a narrow one has its octets behind ten of zero and two of
255. -/
lemma mapped?_eq_some {os tail : List UInt8} (h : mapped? os = some tail) :
    os = List.replicate 10 0 ++ [255, 255] ++ tail := by
  rw [mapped?] at h
  split_ifs at h with hfront
  rw [← Option.some.inj h, ← hfront, List.take_append_drop]

/-- The spelling of mapped addresses is read back. -/
lemma readGrouped?_mapped {tail : List UInt8} (h : tail.length = 4) :
    readGrouped? ([':', ':', 'f', 'f', 'f', 'f', ':'] ++ dotted tail)
      = ofGroups? (List.replicate 5 0 ++ [65535] ++ groupsOf tail) := by
  have hcolon : ':' ∉ dotted tail := notMem_dotted (by decide) (by decide) tail
  have hpoint : '.' ∈ dotted tail := by
    match tail, h with
    | o :: o' :: os, _ =>
      rw [dotted, List.map_cons, List.map_cons, List.intercalate_cons_cons]
      simp
  have hparts : ('f' :: 'f' :: 'f' :: 'f' :: ':' :: dotted tail).splitOn ':'
      = [['f', 'f', 'f', 'f'], dotted tail] := by
    have hfront : ':' ∉ ['f', 'f', 'f', 'f'] := by decide
    have hcut := List.splitOn_append_cons_self_of_not_mem hfront (dotted tail)
    rwa [List.splitOn_eq_singleton hcolon] at hcut
  have hgroup : readGroup? (dotted tail) = none := by
    rw [readGroup?, ofDigitText?_eq_none hpoint (by decide)]
    split_ifs <;> rfl
  have hback : readPart? true ('f' :: 'f' :: 'f' :: 'f' :: ':' :: dotted tail)
      = some (65535 :: groupsOf tail) := by
    have hfirst : readGroup? ['f', 'f', 'f', 'f'] = some 65535 := by decide
    rw [readPart?, hparts]
    simp [readGroupList?, hfirst, hgroup, readDottedOctets?_dotted h]
  have hlength : (groupsOf tail).length = 2 := by rw [length_groupsOf, h]
  have hcut : cutDouble? ([':', ':', 'f', 'f', 'f', 'f', ':'] ++ dotted tail)
      = some ([], 'f' :: 'f' :: 'f' :: 'f' :: ':' :: dotted tail) := rfl
  rw [readGrouped?, hcut]
  simp only [hback]
  rw [readPart?]
  simp [hlength]

/-! ### The round trip -/

/-- Two groups at least do not go without a colon. -/
lemma colon_mem_grouped {gs : List ℕ} (h : 1 < gs.length) : ':' ∈ grouped gs := by
  rw [grouped_eq]
  split_ifs
  · simp
  · match gs, h with
    | g :: g' :: gs, _ =>
      rw [colonText_cons_cons]
      simp

/-- **Addresses are read back from their text.** -/
lemma read?_text (a : Address) : read? a.text = some a := by
  rw [read?, text, String.toList_ofList, readChars?, chars]
  cases hfamily : a.family with
  | v4 => rw [readDotted?_dotted hfamily, Option.some_or]
  | v6 =>
      -- the colons keep the narrow reader from it, so that the wide one decides
      have hcount : a.octets.length = 16 := by rw [a.length_octets, hfamily]; rfl
      simp only
      cases hmapped : mapped? a.octets with
      | some tail =>
          have hoctets := mapped?_eq_some hmapped
          have htail : tail.length = 4 := by
            have hsum := congrArg List.length hoctets
            simp only [List.length_append, List.length_replicate, List.length_cons,
              List.length_nil] at hsum
            omega
          simp only
          rw [readDotted?_of_colon (by simp), Option.none_or, readGrouped?_mapped htail]
          refine ofGroups?_eq_some hfamily ?_ ?_
          · simp [length_groupsOf, htail]
          · rw [octetsOf_append, octetsOf_groupsOf (by omega), hoctets]
            rfl
      | none =>
          have hlength : (groupsOf a.octets).length = 8 := by rw [length_groupsOf, hcount]
          simp only
          rw [readDotted?_of_colon (colon_mem_grouped (by omega)), Option.none_or,
            readGrouped?_grouped hlength (lt_of_mem_groupsOf a.octets)]
          exact ofGroups?_eq_some hfamily hlength (octetsOf_groupsOf (by omega))

end ProfileMatch.Address
