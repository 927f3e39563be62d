import ProfileMatch.Profile.Value
/-!
The settings and properties that matching knows. A property has a kind, possibly a default, and it
is inferrable if its value can be read off the state of a network interface; only such properties
take part in a comparison.

* `Key`: a property of a setting, by name, and the keys that the rules of matching refer to;
* `schema`: the table of settings;
* `Property.of?`: the entry of a key in the table.
-/

namespace ProfileMatch

/-- A property of a setting. -/
structure Key where
  setting : String
  property : String
deriving DecidableEq, Repr

namespace Key

/-- The key as `setting.property`. -/
def text (k : Key) : String := k.setting ++ "." ++ k.property

/-! ### Names of settings -/

def connection : String := "connection"

def wired : String := "802-3-ethernet"

def infiniband : String := "infiniband"

def hints : String := "match"

/-! ### Keys -/

def connectionId : Key := ⟨connection, "id"⟩

def connectionUuid : Key := ⟨connection, "uuid"⟩

def connectionType : Key := ⟨connection, "type"⟩

def interfaceName : Key := ⟨connection, "interface-name"⟩

def controller : Key := ⟨connection, "controller"⟩

/-- The former name of the controller. -/
def master : Key := ⟨connection, "master"⟩

def portType : Key := ⟨connection, "port-type"⟩

/-- The former name of the port type. -/
def slaveType : Key := ⟨connection, "slave-type"⟩

def ipMethod (f : Family) : Key := ⟨f.name, "method"⟩

def ipRoutes (f : Family) : Key := ⟨f.name, "routes"⟩

def ipRouteMetric (f : Family) : Key := ⟨f.name, "route-metric"⟩

def ipMayFail (f : Family) : Key := ⟨f.name, "may-fail"⟩

def wiredMac : Key := ⟨wired, "mac-address"⟩

def clonedMac : Key := ⟨wired, "cloned-mac-address"⟩

def subchannels : Key := ⟨wired, "s390-subchannels"⟩

def nettype : Key := ⟨wired, "s390-nettype"⟩

def channelOptions : Key := ⟨wired, "s390-options"⟩

def infinibandMac : Key := ⟨infiniband, "mac-address"⟩

end Key

/-- A property of the schema. -/
structure Property where
  name : String
  kind : Kind
  default : Option Value
  inferrable : Bool
deriving DecidableEq

namespace Property

/-- A property that takes part in comparisons. -/
def inferred (name : String) (kind : Kind) (default : Option Value) : Property :=
  ⟨name, kind, default, true⟩

/-- A property that comparisons leave out. -/
def kept (name : String) (kind : Kind) (default : Option Value) : Property :=
  ⟨name, kind, default, false⟩

end Property

/-- A setting of the schema with its properties. -/
structure SettingSchema where
  name : String
  properties : List Property

namespace SettingSchema

open Property Value

def connection : SettingSchema :=
  ⟨Key.connection,
    [kept "id" .text none,
     kept "uuid" .text none,
     inferred "type" .text none,
     inferred "interface-name" .text none,
     inferred "controller" .text none,
     inferred "master" .text none,
     inferred "port-type" .text none,
     inferred "slave-type" .text none,
     kept "autoconnect" .bool (bool true),
     kept "autoconnect-priority" .int (int 0),
     kept "zone" .text none,
     kept "timestamp" .int (int 0)]⟩

/-- The properties of the settings of both address families. -/
def ipCommon : List Property :=
  [inferred "method" .text (text "auto"),
   inferred "addresses" .list (list []),
   inferred "gateway" .text none,
   inferred "routes" .routes (list []),
   kept "route-metric" .int (int (-1)),
   kept "route-table" .int (int 0),
   kept "may-fail" .bool (bool true),
   inferred "never-default" .bool (bool false),
   inferred "dns" .list (list []),
   kept "dns-search" .list (list []),
   kept "ignore-auto-routes" .bool (bool false),
   kept "ignore-auto-dns" .bool (bool false),
   kept "dhcp-timeout" .int (int 0)]

def ipv4 : SettingSchema :=
  ⟨Family.name .v4, ipCommon ++ [kept "dhcp-client-id" .text none]⟩

def ipv6 : SettingSchema :=
  ⟨Family.name .v6,
    ipCommon ++ [kept "addr-gen-mode" .text none, kept "ip6-privacy" .int (int (-1))]⟩

def wired : SettingSchema :=
  ⟨Key.wired,
    [inferred "mac-address" .text none,
     inferred "cloned-mac-address" .text none,
     inferred "mtu" .int (int 0),
     inferred "s390-subchannels" .list (list []),
     inferred "s390-nettype" .text none,
     inferred "s390-options" .map (map .empty),
     kept "auto-negotiate" .bool (bool false),
     kept "speed" .int (int 0),
     kept "duplex" .text none,
     kept "wake-on-lan" .int (int 1)]⟩

def infiniband : SettingSchema :=
  ⟨Key.infiniband,
    [inferred "mac-address" .text none,
     inferred "mtu" .int (int 0),
     inferred "transport-mode" .text none,
     inferred "p-key" .int (int (-1)),
     inferred "parent" .text none]⟩

def vlan : SettingSchema :=
  ⟨"vlan",
    [inferred "id" .int (int 0),
     inferred "parent" .text none,
     kept "flags" .int (int 1)]⟩

def bond : SettingSchema :=
  ⟨"bond", [inferred "options" .map (map .empty)]⟩

def bridge : SettingSchema :=
  ⟨"bridge",
    [inferred "mac-address" .text none,
     inferred "stp" .bool (bool true),
     inferred "priority" .int (int 32768),
     inferred "forward-delay" .int (int 15),
     inferred "hello-time" .int (int 2),
     inferred "max-age" .int (int 20)]⟩

def hints : SettingSchema :=
  ⟨Key.hints,
    [inferred "interface-name" .list (list []),
     inferred "driver" .list (list []),
     inferred "path" .list (list []),
     inferred "kernel-command-line" .list (list [])]⟩

def proxy : SettingSchema :=
  ⟨"proxy",
    [inferred "method" .text (text "none"),
     inferred "pac-url" .text none,
     kept "pac-script" .text none,
     inferred "browser-only" .bool (bool false)]⟩

end SettingSchema

/-- The settings that matching knows. -/
def schema : List SettingSchema :=
  [.connection, .ipv4, .ipv6, .wired, .infiniband, .vlan, .bond, .bridge, .hints, .proxy]

/-- The entry of a setting, if it is known. -/
def SettingSchema.of? (setting : String) : Option SettingSchema :=
  schema.find? fun s => s.name == setting

/-- The entry of a key, if its setting and property are known. -/
def Property.of? (k : Key) : Option Property :=
  (SettingSchema.of? k.setting).bind fun s => s.properties.find? fun p => p.name == k.property

end ProfileMatch
