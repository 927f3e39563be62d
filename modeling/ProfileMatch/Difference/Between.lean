import ProfileMatch.Difference.Basic
/-!
The difference between two profiles. Compared are the inferrable properties of the settings that at
least one of the two holds, each by its effective value.

* `Profile.compared?`: the value of a property for the comparison, where the port type goes by
  either of its names;
* `Difference.between`: the keys whose values differ.
-/

namespace ProfileMatch

/-- Former names of properties: such a property is not compared on its own, its value counts where
the property of the present name has none. -/
def formerNames : List (Key × Key) :=
  [(.portType, .slaveType)]

/-- The value of a property for a comparison. -/
def Profile.compared? (p : Profile) (k : Key) : Option Value :=
  match formerNames.lookup k with
  | some former => (p.effective? k).or (p.effective? former)
  | none => p.effective? k

/-- The keys of a setting that are compared. -/
def comparedKeys (setting : String) : List Key :=
  match SettingSchema.of? setting with
  | none => []
  | some s =>
    ((s.properties.filter Property.inferrable).map fun p => (⟨setting, p.name⟩ : Key)).filter
      fun k => !(formerNames.any fun n => n.2 == k)

namespace Difference

/-- Enters a key if its values differ. -/
def compareKey (generated candidate : Profile) (d : Difference) (k : Key) : Difference :=
  let change := (generated.compared? k, candidate.compared? k)
  if change.1 = change.2 then d else d.insert k change

/-- The difference between two profiles. -/
def between (generated candidate : Profile) : Difference :=
  ((generated.settings.names ++ candidate.settings.names).flatMap comparedKeys).foldl
    (compareKey generated candidate) empty

end Difference

end ProfileMatch
