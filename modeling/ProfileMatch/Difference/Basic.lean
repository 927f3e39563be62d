import ProfileMatch.Profile.Basic
/-!
Differences between two profiles: for each key that differs, the value on either side.

* `Difference.insert`, `Difference.remove`, `Difference.removeSetting`: the operations; a setting
  that loses its last property goes with it;
* `Difference.get?`: what all of them are described by;
* `Difference.Tidy`: no setting without properties is held.
-/

namespace ProfileMatch

/-- The values of a property in the generated profile and in the candidate; `none` stands for an
unset one. -/
abbrev Change := Option Value × Option Value

/-- The properties that differ, by setting and by name. -/
structure Difference where
  settings : Table (Table Change)
deriving DecidableEq

namespace Difference

/-- The difference between equal profiles. -/
def empty : Difference := ⟨.empty⟩

instance : Inhabited Difference := ⟨empty⟩

/-- Whether no setting differs. -/
def isEmpty (d : Difference) : Bool :=
  d.settings.isEmpty

/-- The two values under a key, if they differ. -/
def get? (d : Difference) (k : Key) : Option Change :=
  (d.settings.get? k.setting).bind fun props => props.get? k.property

/-- Whether the values under a key differ. -/
def contains (d : Difference) (k : Key) : Bool :=
  (d.get? k).isSome

/-- Whether a setting differs. -/
def containsSetting (d : Difference) (setting : String) : Bool :=
  d.settings.contains setting

/-- The difference with an entry under a key. -/
def insert (d : Difference) (k : Key) (c : Change) : Difference :=
  ⟨d.settings.insert k.setting (((d.settings.get? k.setting).getD .empty).insert k.property c)⟩

/-- Takes out a key, and its setting with it if that has no other; tells whether it was there. -/
def remove (d : Difference) (k : Key) : Bool × Difference :=
  match d.settings.get? k.setting with
  | none => (false, d)
  | some props =>
    let rest := props.erase k.property
    (props.contains k.property,
      ⟨if rest.isEmpty then d.settings.erase k.setting else d.settings.insert k.setting rest⟩)

/-- Takes out all keys of a setting; tells whether there were any. -/
def removeSetting (d : Difference) (setting : String) : Bool × Difference :=
  (d.settings.contains setting, ⟨d.settings.erase setting⟩)

/-- The difference without a key. -/
def erase (d : Difference) (k : Key) : Difference :=
  (d.remove k).2

/-- The entries in the order of setting and name. -/
def entries (d : Difference) : List (Key × Change) :=
  d.settings.entries.flatMap fun s => s.2.entries.map fun e => (⟨s.1, e.1⟩, e.2)

/-- The keys in order. -/
def keys (d : Difference) : List Key :=
  d.entries.map Prod.fst

/-- The number of keys. -/
def size (d : Difference) : Nat :=
  d.entries.length

/-- The keys on one line. -/
def text (d : Difference) : String :=
  ", ".intercalate (d.keys.map Key.text)

/-- No setting without properties is held. -/
def Tidy (d : Difference) : Prop :=
  ∀ s ∈ d.settings.entries, s.2.isEmpty = false

/-- One side of an entry as JSON. -/
def sideToJson (v : Option Value) : Json :=
  v.elim .null Value.toJson

/-- A difference as an object of objects of pairs. -/
def toJson (d : Difference) : Json :=
  .object <| d.settings.entries.map fun s =>
    (s.1, .object (s.2.entries.map fun e =>
      (e.1, .array [sideToJson e.2.1, sideToJson e.2.2])))

end Difference

end ProfileMatch
