import ProfileMatch.Text.Blank
/-!
Device specifications, such as `interface-name:eth*`, `driver:e1000e` or
`except:mac:00:11:22:33:44:55`.

* `Spec.read?`: the reader; a text that holds nothing but blanks, or nothing behind `except:`, is
  no specification;
* `Spec.text`: a specification in its full spelling.
-/

namespace ProfileMatch

/-- What a specification asks for. -/
inductive Criterion
  /-- Every device. -/
  | any
  /-- A name of an interface, or a pattern for it. -/
  | interfaceName (name : String) (isPattern : Bool)
  | hardwareAddress (text : String)
  | deviceType (name : String)
  | driver (name : String) (version : Option String)
  | driverVersion (version : String)
  | subchannels (text : String)
  | dhcpPlugin (name : String)
  /-- A hardware address or a name of an interface. -/
  | untagged (text : String)
deriving DecidableEq, Repr

/-- A specification, which accepts devices or excludes them. -/
structure Spec where
  except : Bool
  criterion : Criterion
deriving DecidableEq, Repr

namespace Spec

/-! ### Tags -/

def exceptTag : List Char := "except:".toList

def interfaceTag : List Char := "interface-name:".toList

def macAddressTag : List Char := "mac-address:".toList

def macTag : List Char := "mac:".toList

def typeTag : List Char := "type:".toList

def driverVersionTag : List Char := "driver-version:".toList

def driverTag : List Char := "driver:".toList

def subchannelsTag : List Char := "s390-subchannels:".toList

def dhcpPluginTag : List Char := "dhcp-plugin:".toList

/-- A name of an interface: an equals sign in front keeps its wildcards from being any, a tilde in
front says that they are. -/
def readName : List Char → Criterion
  | '=' :: cs => .interfaceName (String.ofList cs) false
  | '~' :: cs => .interfaceName (String.ofList cs) true
  | cs => .interfaceName (String.ofList cs) true

/-- A driver, with its version behind a slash. -/
def readDriver (cs : List Char) : Criterion :=
  match Text.cut? '/' cs with
  | some (name, version) => .driver (String.ofList name) (some (String.ofList version))
  | none => .driver (String.ofList cs) none

/-- The tags with what follows them, in the order in which they are looked for. -/
def tags : List (List Char × (List Char → Criterion)) :=
  [(interfaceTag, readName),
   (macAddressTag, fun cs => .hardwareAddress (String.ofList cs)),
   (macTag, fun cs => .hardwareAddress (String.ofList cs)),
   (typeTag, fun cs => .deviceType (String.ofList cs)),
   (driverVersionTag, fun cs => .driverVersion (String.ofList cs)),
   (driverTag, readDriver),
   (subchannelsTag, fun cs => .subchannels (String.ofList cs)),
   (dhcpPluginTag, fun cs => .dhcpPlugin (String.ofList cs))]

/-- What a text behind one of some tags asks for, or an untagged text. -/
def readTagged (cs : List Char) : List (List Char × (List Char → Criterion)) → Criterion
  | [] => .untagged (String.ofList cs)
  | (tag, make) :: more =>
    match Text.after? tag cs with
    | some rest => make rest
    | none => readTagged cs more

/-- What a text asks for. -/
def readCriterion (cs : List Char) : Criterion :=
  if cs = ['*'] then .any else readTagged cs tags

/-- The specification that a trimmed text writes, if it is one. -/
def readTrimmed? (cs : List Char) : Option Spec :=
  let (except, body) := match Text.after? exceptTag cs with
    | some rest => (true, rest)
    | none => (false, cs)
  if body.isEmpty then none else some ⟨except, readCriterion body⟩

/-- The specification that a text writes, if it is one. -/
def read? (s : String) : Option Spec :=
  readTrimmed? (Text.trimChars s.toList)

end Spec

/-- What is asked for, in its full spelling. -/
def Criterion.text : Criterion → String
  | .any => "*"
  | .interfaceName name false => "interface-name:=" ++ name
  | .interfaceName name true => "interface-name:~" ++ name
  | .hardwareAddress text => "mac-address:" ++ text
  | .deviceType name => "type:" ++ name
  | .driver name version => "driver:" ++ name ++ version.elim "" ("/" ++ ·)
  | .driverVersion version => "driver-version:" ++ version
  | .subchannels text => "s390-subchannels:" ++ text
  | .dhcpPlugin name => "dhcp-plugin:" ++ name
  | .untagged text => text

/-- A specification in its full spelling. -/
def Spec.text (s : Spec) : String :=
  (if s.except then "except:" else "") ++ s.criterion.text

end ProfileMatch
