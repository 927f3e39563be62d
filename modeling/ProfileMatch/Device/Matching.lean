import ProfileMatch.Device.Basic
import ProfileMatch.Device.Hardware
import ProfileMatch.Device.Spec
/-!
Devices against specifications. A specification that excludes the device decides against it
whatever the others say; a list that only excludes accepts every other device. Which names a pattern
matches is for the caller to say.

* `Spec.accepts`: one specification, whether it accepts or excludes;
* `Verdict`: what a list of them comes to;
* `Device.judgeBy`: a list of texts.
-/

namespace ProfileMatch

/-- Whether the hardware address of the device is the one that a text writes. -/
def Device.hasHardware (d : Device) (text : String) : Bool :=
  d.hardwareAddress.elim false (Device.sameHardware text)

/-- Which names a pattern matches; the pattern comes first. -/
abbrev Patterns := String → String → Bool

/-- Whether what a specification asks for holds of a device. An untagged text that is to exclude
devices holds of none. -/
def Spec.accepts (s : Spec) (patterns : Patterns) (d : Device) : Bool :=
  match s.criterion with
  | .any => true
  | .interfaceName name isPattern =>
    d.interfaceName.elim false fun n => n == name || (isPattern && patterns name n)
  | .hardwareAddress text => d.hasHardware text
  | .deviceType name => d.deviceType == some name
  | .driver name version =>
    d.driver == some name && version.elim true fun v => d.driverVersion == some v
  | .driverVersion version => d.driverVersion == some version
  | .subchannels text => d.subchannels.elim false (Device.sameSubchannels text)
  | .dhcpPlugin name => d.dhcpPlugin == some name
  | .untagged text => !s.except && (d.hasHardware text || d.interfaceName == some text)

/-- What a list of specifications comes to. -/
inductive Verdict
  | matched
  | notMatched
  /-- There is nothing to match against; the caller decides. -/
  | noSpecs
deriving DecidableEq, Repr

namespace Verdict

/-- The verdict as a truth value, with the one of the caller if there was nothing to match
against. -/
def orDefault (v : Verdict) (default : Bool) : Bool :=
  match v with
  | .matched => true
  | .notMatched => false
  | .noSpecs => default

/-- The verdict as it is printed. -/
def text : Verdict → String
  | .matched => "match"
  | .notMatched => "no-match"
  | .noSpecs => "no-specs"

/-- The name of the verdict. -/
def name : Verdict → String
  | .matched => "matched"
  | .notMatched => "not-matched"
  | .noSpecs => "no-specs"

end Verdict

namespace Device

variable (patterns : Patterns) (d : Device)

/-- One pass over specifications: `positive` says whether one that accepts was seen, `accepted`
whether one of them holds of the device. -/
def judgeFrom (positive accepted : Bool) : List Spec → Verdict
  | [] => if accepted || !positive then .matched else .notMatched
  | s :: ss =>
    if s.except then
      if s.accepts patterns d then .notMatched else judgeFrom positive accepted ss
    else judgeFrom true (accepted || s.accepts patterns d) ss

/-- What specifications come to for a device. -/
def judgeSpecs (specs : List Spec) : Verdict :=
  if specs.isEmpty then .noSpecs else judgeFrom patterns d false false specs

/-- What texts come to for a device; those that are no specification do not count. -/
def judgeBy (texts : List String) : Verdict :=
  judgeSpecs patterns d (texts.filterMap Spec.read?)

end Device

end ProfileMatch
