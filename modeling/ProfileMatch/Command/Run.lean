import ProfileMatch.Command.Arguments
import ProfileMatch.Command.Help
import ProfileMatch.Command.Report
import ProfileMatch.Configuration.Basic
import ProfileMatch.Device.Glob
import ProfileMatch.Device.Matching
import ProfileMatch.Matching.Identifier
/-!
Runs of the program.

* `Source`: where a text comes from; the texts themselves are handed in;
* `loadConfiguration`, `loadMatch`, `readDevice`: what a run reads, in this order;
* `matchProfiles`, `reportCandidates`, `Device.judge`: what is done with it, with the identifiers
  and the patterns that the program knows;
* `Request.run`: a request carried out;
* `runArguments`: the arguments read and carried out.
-/

namespace ProfileMatch

/-- Where a text comes from. -/
inductive Source
  | standardInput
  | file (path : String)
deriving DecidableEq, Repr

namespace Source

/-- The source that a file argument names: a hyphen stands for the standard input. -/
def ofArgument (path : String) : Source :=
  if path = "-" then .standardInput else .file path

end Source

/-- The texts of sources, or why one cannot be read. A source that does not exist may be told from
one that cannot be read. -/
structure Texts where
  exist : Source → Bool
  text : Source → Except String String

/-- What a run ends with. -/
inductive Outcome
  | printed (text : String)
  | reported (reports : List CandidateReport)
  | explained
  | misused
  | failed (failure : CommandFailure)

namespace Outcome

/-- The exit code. -/
def code : Outcome → Nat
  | printed _ | reported _ | explained => 0
  | misused => 2
  | failed f => f.code

/-- What is written to the standard output. -/
def output : Outcome → String
  | printed text => Text.trimEnd text
  | reported reports => Text.trimEnd (CandidateReport.listing reports)
  | explained => helpText
  | misused | failed _ => ""

/-- What is written to the standard error. -/
def complaint : Outcome → String
  | printed _ | reported _ | explained => ""
  | misused => helpText
  | failed f => f.message

end Outcome

/-- Where the configuration is if the arguments do not say. -/
def defaultConfiguration : String := "/etc/nm-match/nm-match.toml"

/-- The configuration of a text. -/
def readConfiguration (text : String) : Except CommandFailure Configuration :=
  match Configuration.read? text with
  | some c => .ok c
  | none => .error (.ofConfiguration "no configuration")

/-- The configuration of a run; only that in the default place may be missing. -/
def loadConfiguration (texts : Texts) (path : Option String) :
    Except CommandFailure Configuration :=
  let source := Source.file (path.getD defaultConfiguration)
  if path.isNone && !texts.exist source then .ok .empty
  else
    match texts.text source with
    | .ok text => readConfiguration text
    | .error e =>
      .error (.general
        ("Failed to read configuration file " ++ path.getD defaultConfiguration ++ ": " ++ e))

/-- The record of a document. -/
def readDocument {ρ : Type} (shape : Record.Shape ρ) (wanted text : String) :
    Except CommandFailure ρ :=
  match Document.read shape text with
  | .ok r => .ok r
  | .error e => .error (.notDocument wanted e)

/-- The text of a file argument. -/
def loadText (texts : Texts) (file : String) : Except CommandFailure String :=
  match texts.text (.ofArgument file) with
  | .ok text => .ok text
  | .error e => .error (.ofFile e)

/-- The profiles to match that a text holds. -/
def readMatch (text : String) : Except CommandFailure MatchDocument :=
  readDocument Document.matchShape "match input" text

/-- The device to judge that a text holds. -/
def readDevice (text : String) : Except CommandFailure DeviceDocument :=
  readDocument Document.deviceShape "device match input" text

/-- A metric that an argument gives. -/
def readMetric : Option String → Except CommandFailure (Option Int)
  | none => .ok none
  | some s =>
    match IntegerRange.i64.read s with
    | .ok i => .ok (some i)
    | .error e => .error (.general ("Invalid route metric " ++ s ++ ": " ++ e.message))

/-- The options with what the arguments say. -/
def Overrides.apply (o : Overrides) (options : Options) : Except CommandFailure Options := do
  let metric4 ← readMetric o.metric4
  let metric6 ← readMetric o.metric6
  return {
    indicated := o.indicated || options.indicated
    hasCarrier := !o.noCarrier && options.hasCarrier
    metric4 := metric4.getD options.metric4
    metric6 := metric6.getD options.metric6 }

/-- The profiles to match and the options for it: the arguments count before the document, and the
document before the configuration. -/
def loadMatch (texts : Texts) (c : Configuration) (file : String) (o : Overrides) :
    Except CommandFailure (MatchDocument × Options) := do
  let d ← readMatch (← loadText texts file)
  let options ← o.apply (c.fill d.options)
  return (d, options)

/-- Whether a candidate is the one with an identifier, if one is wanted. -/
def keepUuid : Option String → Profile → Bool
  | none, _ => true
  | some uuid, p => p.uuid? == some uuid

/-! ### Identifiers and patterns of the program -/

/-- Access to stored profiles, whose identifiers are universally unique ones. -/
def Lookup.ofStored (stored : List Profile) : Lookup := .among isUuid stored

/-- The label of the best match, where identifiers are universally unique ones. -/
def matchProfiles (d : MatchDocument) (options : Options) (keep : Profile → Bool) :
    Except CommandFailure String :=
  d.select isUuid options keep

/-- The reports on all candidates, where identifiers are universally unique ones. -/
def reportCandidates (d : MatchDocument) (options : Options) : List CandidateReport :=
  d.reports isUuid options

/-- What texts come to for a device, where patterns have the wildcards of `Glob`. -/
def Device.judge (d : Device) (texts : List String) : Verdict :=
  d.judgeBy Glob.globMatches texts

/-! ### Commands -/

/-- The device judged by the specifications. -/
def judgeDevice (d : DeviceDocument) : String :=
  (d.device.judge d.specs).text

namespace Command

/-- Carries out a command. -/
def run (texts : Texts) (c : Configuration) : Command → Except CommandFailure Outcome
  | .select file o uuid => do
    let (d, options) ← loadMatch texts c file o
    return .printed (← matchProfiles d options (keepUuid uuid))
  | .diff file o => do
    let (d, options) ← loadMatch texts c file o
    return .reported (reportCandidates d options)
  | .device file => do
    return .printed (judgeDevice (← readDevice (← loadText texts file)))

end Command

namespace Request

/-- The sources that a request reads, in this order. -/
def sources (r : Request) : List Source :=
  .file (r.configuration.getD defaultConfiguration)
    :: (r.command.map fun c => Source.ofArgument c.file).toList

/-- Carries out a request: the configuration is read before all else. -/
def run (texts : Texts) (r : Request) : Outcome :=
  let result : Except CommandFailure Outcome := do
    let c ← loadConfiguration texts r.configuration
    match r.command with
    | some command => command.run texts c
    | none => return .explained
  match result with
  | .ok outcome => outcome
  | .error f => .failed f

end Request

/-- What a run ends with if reading the arguments stops. -/
def Stop.outcome : Stop → Outcome
  | .help => .explained
  | .version => .printed versionText
  | .fault => .misused

/-- Reads the arguments and carries out what they ask for. -/
def runArguments (texts : Texts) (args : List String) : Outcome :=
  match Arguments.read args with
  | .ok r => r.run texts
  | .error s => s.outcome

end ProfileMatch
