import ProfileMatch.Text.Printable
/-!
Texts between quotes, in two spellings.

* `quoted`: a quote, a backslash and the control characters are escaped, all else stands for
  itself; this is how a text stands in a JSON value;
* `literal`: every character that does not stand for itself is written by its code point; this is
  how a text stands in a message.
-/

namespace ProfileMatch.Text

/-- The code point of a character in hexadecimal, with zeros in front up to a width. -/
def hexCode (width : Nat) (c : Char) : List Char :=
  let ds := Nat.toDigits 16 c.toNat
  List.replicate (width - ds.length) '0' ++ ds

/-- A character as it stands between the quotes of a JSON text. -/
def quotedChar (c : Char) : List Char :=
  if c = '"' then ['\\', '"']
  else if c = '\\' then ['\\', '\\']
  else if c = '\x08' then ['\\', 'b']
  else if c = '\t' then ['\\', 't']
  else if c = '\n' then ['\\', 'n']
  else if c = '\x0c' then ['\\', 'f']
  else if c = '\r' then ['\\', 'r']
  else if c.toNat < 0x20 then '\\' :: 'u' :: hexCode 4 c
  else [c]

/-- A text as a JSON text, with its quotes. -/
def quoted (s : String) : String :=
  String.ofList ('"' :: s.toList.flatMap quotedChar ++ ['"'])

/-- A character as it stands between the quotes of a message. -/
def literalChar (c : Char) : List Char :=
  if c = '"' then ['\\', '"']
  else if c = '\\' then ['\\', '\\']
  else if c = '\x00' then ['\\', '0']
  else if c = '\t' then ['\\', 't']
  else if c = '\n' then ['\\', 'n']
  else if c = '\r' then ['\\', 'r']
  else if isPrintable c then [c]
  else ['\\', 'u', '\x7b'] ++ hexCode 1 c ++ ['\x7d']

/-- A text as it stands in a message, with its quotes. -/
def literal (s : String) : String :=
  String.ofList ('"' :: s.toList.flatMap literalChar ++ ['"'])

end ProfileMatch.Text
