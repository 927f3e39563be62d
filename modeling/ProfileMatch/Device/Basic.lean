import ProfileMatch.Json.Record
/-!
What a device specification can refer to: a snapshot of a device.

* `Device`: the snapshot, of which any part may be unknown;
* `Device.ofJson`, `Device.toJson`: the snapshot as a record.
-/

namespace ProfileMatch

/-- A snapshot of a device. -/
structure Device where
  interfaceName : Option String
  deviceType : Option String
  driver : Option String
  driverVersion : Option String
  hardwareAddress : Option String
  subchannels : Option String
  dhcpPlugin : Option String
deriving DecidableEq, Repr

namespace Device

/-- A device of which nothing is known. -/
def unknown : Device := ⟨none, none, none, none, none, none, none⟩

instance : Inhabited Device := ⟨unknown⟩

/-- A device of which the name of its interface is known. -/
def named (interfaceName : String) : Device :=
  { unknown with interfaceName := some interfaceName }

/-- A link that only the kernel knows; the version of its driver, its subchannels and its DHCP
plugin are not known. -/
def ofLink (interfaceName linkType : String) (driver hardwareAddress : Option String) : Device :=
  { unknown with
    interfaceName := some interfaceName
    deviceType := some linkType
    driver := driver
    hardwareAddress := hardwareAddress }

/-- The device with a driver, whose version may be unknown. -/
def withDriver (d : Device) (driver : String) (version : Option String) : Device :=
  { d with driver := some driver, driverVersion := version }

open Record in
/-- A snapshot as a record, whose texts are read by the given reader. -/
def shape (text : Json → Except RecordFault String) : Shape Device where
  title := "struct MatchSpecDeviceData"
  fields :=
    [⟨"interface-name", .allowed, fun v d =>
        do return { d with interfaceName := ← optional text v }⟩,
     ⟨"device-type", .allowed, fun v d => do return { d with deviceType := ← optional text v }⟩,
     ⟨"driver", .allowed, fun v d => do return { d with driver := ← optional text v }⟩,
     ⟨"driver-version", .allowed, fun v d =>
        do return { d with driverVersion := ← optional text v }⟩,
     ⟨"hwaddr", .allowed, fun v d => do return { d with hardwareAddress := ← optional text v }⟩,
     ⟨"s390-subchannels", .allowed, fun v d =>
        do return { d with subchannels := ← optional text v }⟩,
     ⟨"dhcp-plugin", .allowed, fun v d => do return { d with dhcpPlugin := ← optional text v }⟩]
  initial := unknown
  lenient := false

/-- The snapshot that a JSON value writes. -/
def ofJson : Json → Except RecordFault Device := Record.read (shape Record.text)

/-- A snapshot as an object, null where nothing is known. -/
def toJson (d : Device) : Json :=
  let side (s : Option String) : Json := s.elim .null .string
  .object
    [("interface-name", side d.interfaceName), ("device-type", side d.deviceType),
     ("driver", side d.driver), ("driver-version", side d.driverVersion),
     ("hwaddr", side d.hardwareAddress), ("s390-subchannels", side d.subchannels),
     ("dhcp-plugin", side d.dhcpPlugin)]

end Device

end ProfileMatch
