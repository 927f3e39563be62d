import ProfileMatch.Command.Run
/-!
The program: it reads the files that its arguments name, carries out what they ask for, and prints
the outcome.
-/

namespace ProfileMatch

/-- What is left of a stream, behind bytes that are read already. -/
partial def readRest (stream : IO.FS.Stream) (bytes : ByteArray) : IO ByteArray := do
  let more ← stream.read 65536
  if more.isEmpty then return bytes else readRest stream (bytes ++ more)

/-- The bytes of a source. -/
def readBytes : Source → IO ByteArray
  | .standardInput => do readRest (← IO.getStdin) .empty
  | .file path => IO.FS.readBinFile path

/-- The words for an error of the system, with its number. -/
def describeError : IO.Error → String
  | .noFileOrDirectory _ code _ => numbered "No such file or directory" code
  | .permissionDenied _ code _ => numbered "Permission denied" code
  | .inappropriateType _ code _ => numbered "Is a directory" code
  | e => toString e
where
  numbered (words : String) (code : UInt32) : String :=
    words ++ " (os error " ++ code.toNat.repr ++ ")"

/-- Whether an error says that there is no such file. -/
def isMissing : IO.Error → Bool
  | .noFileOrDirectory .. => true
  | _ => false

/-- Whether a source is there, and the text or what keeps it from being read. -/
def readSource (source : Source) : IO (Bool × Except String String) := do
  try
    let text := match String.fromUTF8? (← readBytes source) with
      | some s => Except.ok s
      | none => .error "stream did not contain valid UTF-8"
    return (true, text)
  catch e => return (!isMissing e, .error (describeError e))

/-- The texts of sources. -/
def readTexts (sources : List Source) : IO Texts := do
  let found ← sources.mapM fun s => return (s, ← readSource s)
  let unread : Bool × Except String String := (false, .error "not read")
  return {
    exist := fun s => ((found.lookup s).getD unread).1
    text := fun s => ((found.lookup s).getD unread).2 }

/-- What the arguments lead to. -/
def perform (args : List String) : IO Outcome := do
  match Arguments.read args with
  | .ok r => return r.run (← readTexts r.sources)
  | .error s => return s.outcome

end ProfileMatch

open ProfileMatch in
/-- Prints the outcome and hands on its exit code. -/
def main (args : List String) : IO UInt32 := do
  let outcome ← perform args
  unless outcome.output.isEmpty do IO.println outcome.output
  unless outcome.complaint.isEmpty do IO.eprintln outcome.complaint
  return outcome.code.toUInt32
