import ProfileMatch.Number.Bounded
import ProfileMatch.Text.Blank
/-!
Hardware addresses and channel addresses, read from text and compared by value.

* `readHardware?`: octets of two characters each between colons or hyphens;
* `sameHardware`: whether two texts write one hardware address;
* `readSubchannels?`: channel addresses of three hexadecimal parts between points, in a list with
  commas;
* `sameSubchannels`: whether two texts write one list of channel addresses; texts that are no such
  lists are compared as they are.
-/

namespace ProfileMatch.Device

/-- An octet of a hardware address. -/
def readHardwareOctet? : List Char → Option UInt8
  | [a, b] =>
    match IntegerRange.u8.readChars 16 [a, b] with
    | .ok i => some (UInt8.ofNat i.toNat)
    | .error _ => none
  | _ => none

/-- The octets of a hardware address. -/
def readHardware? (s : String) : Option (List UInt8) :=
  (s.toList.splitOnP fun c => c == ':' || c == '-').mapM readHardwareOctet?

/-- Whether both texts write hardware addresses and these are the same. -/
def sameHardware (a b : String) : Bool :=
  match readHardware? a, readHardware? b with
  | some x, some y => x == y
  | _, _ => false

/-- A part of a channel address. -/
def readChannelPart? (cs : List Char) : Option Nat :=
  match IntegerRange.u32.readChars 16 cs with
  | .ok i => some i.toNat
  | .error _ => none

/-- The parts of a channel address, of which there are three. -/
def readChannel? (cs : List Char) : Option (List Nat) :=
  let parts := (Text.trimChars cs).splitOn '.'
  if parts.length = 3 then parts.mapM readChannelPart? else none

/-- The channel addresses of a list with commas. -/
def readSubchannels? (s : String) : Option (List (List Nat)) :=
  (s.toList.splitOn ',').mapM readChannel?

/-- Whether two texts write one list of channel addresses or, if one of them writes none, are the
same text. -/
def sameSubchannels (a b : String) : Bool :=
  match readSubchannels? a, readSubchannels? b with
  | some x, some y => x == y
  | _, _ => a == b

end ProfileMatch.Device
