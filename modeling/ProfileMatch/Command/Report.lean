import ProfileMatch.Command.Document
import ProfileMatch.Json.Scalar
import ProfileMatch.Matching.Selection
/-!
What commands find.

* `CommandFailure`: a message and an exit code;
* `MatchDocument.select`: the best match, by its label;
* `CandidateReport`, `MatchDocument.reports`: how each candidate differs;
* `CandidateReport.listing`: reports as YAML.

What can be an identifier of a stored profile is for the caller to say.
-/

namespace ProfileMatch

/-- The failure of a command. -/
structure CommandFailure where
  code : Nat
  message : String
deriving DecidableEq, Repr

namespace CommandFailure

/-- A failure of the work itself. -/
def general (message : String) : CommandFailure := ⟨1, message⟩

instance : Inhabited CommandFailure := ⟨general ""⟩

/-- A failure to read a file. -/
def ofFile (message : String) : CommandFailure := ⟨1, "std::io::Error: " ++ message⟩

/-- A failure to make sense of data. -/
def ofFailure (f : Failure) : CommandFailure := ⟨65, "NmMatchError: " ++ f.text⟩

/-- A failure to read a document. -/
def ofDocument (message : String) : CommandFailure := ⟨65, "serde_yaml::Error: " ++ message⟩

/-- A document that is not what a command works on. -/
def notDocument (wanted : String) (e : RecordFault) : CommandFailure :=
  ⟨65, "Provided file is not valid " ++ wanted ++ ": " ++ e.message⟩

/-- A configuration that cannot be read. -/
def ofConfiguration (message : String) : CommandFailure :=
  ⟨78, "Invalid configuration: " ++ message⟩

end CommandFailure

/-- How a candidate differs from the generated profile. -/
structure CandidateReport where
  connection : String
  exact : Bool
  differences : List String
  waived : Bool
  unwaived : List String
deriving DecidableEq, Repr

namespace MatchDocument

variable (isIdentifier : String → Bool) (d : MatchDocument) (options : Options)

/-- The label of the best match. -/
def select (keep : Profile → Bool) : Except CommandFailure String :=
  match bestMatch? d.candidates d.generated options (d.lookup isIdentifier) keep with
  | some (p, _) => .ok p.label
  | none =>
    .error (.general ("No connection matches the generated connection " ++ d.generated.label))

/-- The report on a candidate. -/
def report (candidate : Profile) : CandidateReport :=
  let difference := Difference.between d.generated candidate
  let exact := difference.isEmpty
  let (waived, left) :=
    if exact then (true, difference)
    else waive d.generated candidate options (d.lookup isIdentifier) difference
  { connection := candidate.label
    exact := exact
    differences := difference.keys.map Key.text
    waived := waived
    unwaived := left.keys.map Key.text }

/-- The reports on all candidates. -/
def reports : List CandidateReport :=
  d.candidates.map (d.report isIdentifier options)

end MatchDocument

namespace CandidateReport

/-- A report as an object; what is left unwaived is named only if there is any. -/
def toJson (r : CandidateReport) : Json :=
  .object <|
    [("connection", .string r.connection), ("exact", .bool r.exact),
     ("differences", .array (r.differences.map .string)), ("waived", .bool r.waived)]
      ++ (if r.unwaived.isEmpty then []
        else [("unwaived", .array (r.unwaived.map .string))])

/-- A list of texts under a name. -/
def texts (name : String) (items : List String) : List String :=
  if items.isEmpty then ["  " ++ name ++ ": []"]
  else ("  " ++ name ++ ":") :: items.map fun s => "  - " ++ Scalar.write 4 s

/-- A truth value under a name. -/
def truth (name : String) (b : Bool) : String :=
  "  " ++ name ++ ": " ++ (if b then "true" else "false")

/-- The lines of a report. -/
def lines (r : CandidateReport) : List String :=
  ("- connection: " ++ Scalar.write 4 r.connection) :: truth "exact" r.exact
    :: texts "differences" r.differences ++ [truth "waived" r.waived]
    ++ (if r.unwaived.isEmpty then [] else texts "unwaived" r.unwaived)

/-- Reports as YAML. -/
def listing (rs : List CandidateReport) : String :=
  if rs.isEmpty then "[]" else "\n".intercalate (rs.flatMap lines)

end CandidateReport

end ProfileMatch
