import ProfileMatch.Device.Basic
import ProfileMatch.Json.Reader
import ProfileMatch.Matching.Options
import ProfileMatch.Profile.Reader
/-!
The documents that commands work on.

* `MatchDocument`: a profile read off the state of an interface, the candidates for it and the
  other stored profiles;
* `DeviceDocument`: a device and specifications;
* `Document.read`: the reader; a document is one flow value of YAML, in which no-break spaces
  count as spaces.
-/

namespace ProfileMatch

/-- Profiles to match. -/
structure MatchDocument where
  generated : Profile
  candidates : List Profile
  /-- Stored profiles that are no candidates but to which candidates may refer. -/
  stored : List Profile
  options : Options

/-- A device to judge. -/
structure DeviceDocument where
  specs : List String
  device : Device

namespace Document

/-- A profile as a field. -/
def profile (value : Json) : Except RecordFault Profile :=
  match Profile.ofJson value with
  | .ok p => .ok p
  | .error e => .error (.refused e.failure.text)

/-- A list as a field. -/
def list {α : Type} (item : Json → Except RecordFault α) : Json → Except RecordFault (List α)
  | .array items => items.mapM item
  | value => .error (.wrongType value "a sequence")

open Record in
/-- Profiles to match as a record. -/
def matchShape : Shape MatchDocument where
  title := "struct MatchInput"
  fields :=
    [⟨"original", .fault, fun v d => do return { d with generated := ← profile v }⟩,
     ⟨"candidates", .allowed, fun v d => do return { d with candidates := ← list profile v }⟩,
     ⟨"stored", .allowed, fun v d => do return { d with stored := ← list profile v }⟩,
     ⟨"options", .allowed, fun v d => do return { d with options := ← Options.ofJson v }⟩]
  initial := ⟨.empty, [], [], .default⟩
  lenient := false

open Record in
/-- A device to judge as a record. Its texts may be written as any scalar. -/
def deviceShape : Shape DeviceDocument where
  title := "struct DeviceMatchInput"
  fields :=
    [⟨"specs", .allowed, fun v d => do return { d with specs := ← list looseText v }⟩,
     ⟨"device", .fault, fun v d =>
        do return { d with device := ← Record.read (Device.shape looseText) v }⟩]
  initial := ⟨[], .unknown⟩
  lenient := false

/-- A text in which spaces stand for no-break spaces. -/
def plainSpaces (s : String) : String :=
  String.ofList (s.toList.map fun c => if c = '\xa0' then ' ' else c)

/-- The record that a document holds. -/
def read {ρ : Type} (shape : Record.Shape ρ) (text : String) : Except RecordFault ρ :=
  match Json.read .yaml (plainSpaces text) with
  | some value => Record.read shape value
  | none => .error (.refused "no flow value")

end Document

namespace MatchDocument

/-- The profiles that identifiers are looked up in: the candidates before the other stored ones. -/
def allStored (d : MatchDocument) : List Profile :=
  d.candidates ++ d.stored

/-- Access to the profiles of a document. -/
def lookup (isIdentifier : String → Bool) (d : MatchDocument) : Lookup :=
  .among isIdentifier d.allStored

end MatchDocument

end ProfileMatch
