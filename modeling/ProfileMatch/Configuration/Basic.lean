import ProfileMatch.Configuration.Toml
import ProfileMatch.Matching.Options
/-!
The configuration: the metrics of routes that leave theirs open, which it holds in its table
`main`.

* `Configuration.read?`: the configuration of a text; a key or table that is not known, or that is
  given twice, spoils it;
* `Configuration.fill`: options with what they leave open filled in.
-/

namespace ProfileMatch

/-- A configuration. -/
structure Configuration where
  metric4 : Option Int
  metric6 : Option Int
deriving DecidableEq, Repr

namespace Configuration

/-- The configuration that says nothing. -/
def empty : Configuration := ⟨none, none⟩

/-- How the table `main` came about, which decides on how it may be added to. -/
inductive Opened
  | not
  /-- By a header. -/
  | byHeader
  /-- By keys that name places in it. -/
  | byKeys
  /-- As a value of its own. -/
  | byValue
deriving DecidableEq

/-- How far a text is read. -/
structure Progress where
  configuration : Configuration
  opened : Opened
  /-- Whether the lines belong to the table `main`. -/
  inside : Bool

/-- Gives a value to a key of the table, which has none yet. -/
def assign? (c : Configuration) (key : String) (i : Int) : Option Configuration :=
  if key = "ipv4-route-metric" ∧ c.metric4.isNone then some { c with metric4 := some i }
  else if key = "ipv6-route-metric" ∧ c.metric6.isNone then some { c with metric6 := some i }
  else none

/-- Gives values to keys of the table in turn. -/
def assignAll? (c : Configuration) : List (List String × Int) → Option Configuration
  | [] => some c
  | ([key], i) :: entries => (c.assign? key i).bind fun c => assignAll? c entries
  | _ => none

/-- Takes in a statement. -/
def step (p : Progress) : Toml.Statement → Option Progress
  | .header ["main"] =>
    if p.opened = .not then some { p with opened := .byHeader, inside := true } else none
  | .assign [key] (.integer i) =>
    if p.inside then
      (p.configuration.assign? key i).map fun c => { p with configuration := c }
    else none
  | .assign ["main", key] (.integer i) =>
    if !p.inside ∧ (p.opened = .not ∨ p.opened = .byKeys) then
      (p.configuration.assign? key i).map fun c =>
        { p with configuration := c, opened := .byKeys }
    else none
  | .assign ["main"] (.table entries) =>
    if !p.inside ∧ p.opened = .not then
      (p.configuration.assignAll? entries).map fun c =>
        { p with configuration := c, opened := .byValue }
    else none
  | _ => none

/-- The configuration that a text writes, if it writes one. -/
def read? (s : String) : Option Configuration := do
  let statements ← Toml.read? s
  let p ← statements.foldlM step ⟨empty, .not, false⟩
  return p.configuration

/-- The options with the metrics that they leave open taken from the configuration. -/
def fill (c : Configuration) (o : Options) : Options :=
  { o with
    metric4 := if o.metric4 = Route.openMetric then c.metric4.getD o.metric4 else o.metric4
    metric6 := if o.metric6 = Route.openMetric then c.metric6.getD o.metric6 else o.metric6 }

end Configuration

end ProfileMatch
