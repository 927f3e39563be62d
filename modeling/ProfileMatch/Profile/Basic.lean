import ProfileMatch.Profile.Schema
/-!
Connection profiles: settings by name, each with its properties by name.

* `Profile.get?`, `Profile.set`, `Profile.addSetting`: the stored values;
* `Profile.effective?`: the stored value, or the default of the schema;
* the accessors below read one property each; a value of another kind than they read counts as
  unset.
-/

namespace ProfileMatch

/-- A setting: its properties by name. -/
abbrev Setting := Table Value

/-- A connection profile. -/
structure Profile where
  settings : Table Setting
deriving DecidableEq

namespace Profile

/-- The profile without settings. -/
def empty : Profile := ⟨.empty⟩

instance : Inhabited Profile := ⟨empty⟩

/-- Whether the setting is present, possibly without properties. -/
def hasSetting (p : Profile) (setting : String) : Bool :=
  p.settings.contains setting

/-- The value stored under a key. -/
def get? (p : Profile) (k : Key) : Option Value :=
  (p.settings.get? k.setting).bind fun s => s.get? k.property

/-- The setting, which holds no property if it is not there. -/
def settingOrEmpty (p : Profile) (setting : String) : Setting :=
  (p.settings.get? setting).getD .empty

/-- The profile with the setting present. -/
def addSetting (p : Profile) (setting : String) : Profile :=
  ⟨p.settings.insert setting (p.settingOrEmpty setting)⟩

/-- The profile with a value under a key. -/
def set (p : Profile) (k : Key) (v : Value) : Profile :=
  ⟨p.settings.insert k.setting ((p.settingOrEmpty k.setting).insert k.property v)⟩

/-- The stored value or else the default of the schema; a setting that is not there counts as one
that holds only defaults. -/
def effective? (p : Profile) (k : Key) : Option Value :=
  (p.get? k).or ((Property.of? k).bind Property.default)

/-- The text stored under a key. -/
def text? (p : Profile) (k : Key) : Option String :=
  (p.get? k).bind Value.text?

/-! ### Accessors -/

def id? (p : Profile) : Option String := p.text? .connectionId

def uuid? (p : Profile) : Option String := p.text? .connectionUuid

def type? (p : Profile) : Option String := p.text? .connectionType

def interfaceName? (p : Profile) : Option String := p.text? .interfaceName

/-- The controller, by its present name or else by its former one. -/
def controller? (p : Profile) : Option String :=
  (p.text? .controller).or (p.text? .master)

/-- The port type, by its present name or else by its former one. -/
def portType? (p : Profile) : Option String :=
  (p.text? .portType).or (p.text? .slaveType)

/-- How addresses of a family are obtained; automatically if the profile does not say. -/
def ipMethod (p : Profile) (f : Family) : String :=
  (p.text? (.ipMethod f)).getD "auto"

/-- Whether the family may stay without an address, which it may if the setting does not say; of a
setting that is not there nothing is known. -/
def ipMayFail? (p : Profile) (f : Family) : Option Bool :=
  (p.settings.get? f.name).map fun s =>
    ((s.get? (Key.ipMayFail f).property).bind Value.bool?).getD true

/-- The metric for routes of the family that leave theirs open. -/
def routeMetric (p : Profile) (f : Family) : Int :=
  ((p.get? (.ipRouteMetric f)).bind Value.int?).getD Route.openMetric

/-- The routes of the family. -/
def ipRoutes (p : Profile) (f : Family) : List Route :=
  ((p.get? (.ipRoutes f)).bind Value.routes?).getD []

def wiredMac? (p : Profile) : Option String := p.text? .wiredMac

def clonedMac? (p : Profile) : Option String := p.text? .clonedMac

def infinibandMac? (p : Profile) : Option String := p.text? .infinibandMac

def subchannels (p : Profile) : List String :=
  ((p.get? .subchannels).bind Value.list?).getD []

def nettype? (p : Profile) : Option String := p.text? .nettype

/-- The number of options of the channel subsystem. -/
def channelOptionCount (p : Profile) : Nat :=
  ((p.get? .channelOptions).bind Value.map?).elim 0 Table.size

/-- How a profile is called: by its name and identifier, as far as it has them. -/
def label (p : Profile) : String :=
  match p.id?, p.uuid? with
  | some id, some uuid => id ++ "(" ++ uuid ++ ")"
  | some id, none => id
  | none, some uuid => uuid
  | none, none => "<anonymous>"

end Profile

end ProfileMatch
