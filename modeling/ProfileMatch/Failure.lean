import ProfileMatch.Json.Record
/-!
Failures as they are handed on: a kind and a message.

* `Failure.text`: kind and message on one line;
* `Failure.ofJson`, `Failure.toJson`: a failure as a record.
-/

namespace ProfileMatch

/-- The kinds of failures. -/
inductive FailureKind
  | invalidArgument
  | notFound
  | notSupported
  | bug
deriving DecidableEq, Repr

namespace FailureKind

/-- The kind in one word. -/
def text : FailureKind → String
  | .invalidArgument => "InvalidArgument"
  | .notFound => "NotFound"
  | .notSupported => "NotSupported"
  | .bug => "Bug"

/-- The name of the kind in a record. -/
def name : FailureKind → String
  | .invalidArgument => "invalid-argument"
  | .notFound => "not-found"
  | .notSupported => "not-supported"
  | .bug => "bug"

/-- The kinds by name. -/
def named : List (String × FailureKind) :=
  [invalidArgument, notFound, notSupported, bug].map fun k => (k.name, k)

end FailureKind

/-- A failure. -/
structure Failure where
  kind : FailureKind
  message : String
deriving DecidableEq, Repr

namespace Failure

/-- Kind and message on one line. -/
def text (f : Failure) : String := f.kind.text ++ ": " ++ f.message

open Record in
/-- A failure as a record, whose other members are passed over. -/
def shape : Shape Failure where
  title := "struct NmMatchError"
  fields :=
    [⟨"kind", .fault, fun v f => do return { f with kind := ← choice FailureKind.named v }⟩,
     ⟨"msg", .fault, fun v f => do return { f with message := ← Record.text v }⟩]
  initial := ⟨.invalidArgument, ""⟩
  lenient := true

/-- The failure that a JSON value writes. -/
def ofJson : Json → Except RecordFault Failure := Record.read shape

/-- A failure as an object. -/
def toJson (f : Failure) : Json :=
  .object [("kind", .string f.kind.name), ("msg", .string f.message)]

/-- The failure to make sense of an argument. -/
def invalid (message : String) : Failure := ⟨.invalidArgument, message⟩

end Failure

end ProfileMatch
