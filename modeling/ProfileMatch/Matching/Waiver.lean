import ProfileMatch.Difference.Between
import ProfileMatch.Matching.Options
import ProfileMatch.Route.Equivalence
/-!
Waivers: differences that are expected between a profile that was read off the state of an
interface and the stored profile that brought this state about.

Each rule has a scope, the keys that it decides on, and a condition on the two profiles. If no key
of its scope differs, the rule passes and leaves all as it is; if the condition holds, it passes and
the keys of its scope are taken out; otherwise it fails, and the candidate is rejected.

* `RouteCache`: the sorted routes of the generated profile, kept from candidate to candidate;
* `Waiver.scope`, `Waiver.excuses`: scope and condition of each rule;
* `Waiver.apply`: one rule;
* `waive`: all rules in turn, up to the first that fails;
* `isPossibleMatch`: whether two profiles are equal or differ only where that is waived.
-/

namespace ProfileMatch

/-- What the rules know besides the two profiles. -/
structure WaiverContext where
  options : Options
  lookup : Lookup

/-- The routes of a generated profile with the metrics of the options settled, in order; there are
none to compare with if a destination is not valid. -/
def sortedRoutes (options : Options) (generated : Profile) (f : Family) : Option (List Route) :=
  Route.canonical? (options.metric f) (generated.ipRoutes f)

/-- The sorted routes of a generated profile as far as they were asked for: those of a family are
sorted once, no matter how many candidates they are compared with. -/
structure RouteCache (options : Options) (generated : Profile) where
  cell4 : Option {rs // rs = sortedRoutes options generated .v4}
  cell6 : Option {rs // rs = sortedRoutes options generated .v6}

namespace RouteCache

variable {options : Options} {generated : Profile}

/-- No routes were asked for. -/
def fresh : RouteCache options generated := ⟨none, none⟩

/-- The routes of a family, if they were asked for. -/
def cell (cache : RouteCache options generated) :
    (f : Family) → Option {rs // rs = sortedRoutes options generated f}
  | .v4 => cache.cell4
  | .v6 => cache.cell6

/-- Keeps the routes of a family. -/
def fill (cache : RouteCache options generated) :
    (f : Family) → {rs // rs = sortedRoutes options generated f} → RouteCache options generated
  | .v4, rs => { cache with cell4 := some rs }
  | .v6, rs => { cache with cell6 := some rs }

/-- The sorted routes of a family, which are kept when they are asked for the first time. -/
def routes (f : Family) : StateM (RouteCache options generated) (Option (List Route)) := do
  match (← get).cell f with
  | some rs => return rs.val
  | none =>
    modify fun cache => cache.fill f ⟨sortedRoutes options generated f, rfl⟩
    return sortedRoutes options generated f

end RouteCache

/-- The rules. -/
inductive Waiver
  | ipMethod (f : Family)
  | ipRoutes (f : Family)
  | interfaceName
  | wiredMac
  | infinibandMac
  | clonedMac
  | controller
  | channels
  | hints
deriving DecidableEq, Repr

/-- The keys that a rule decides on: some keys, or all of a setting. -/
inductive Scope
  | keys (ks : List Key)
  | setting (name : String)
deriving DecidableEq, Repr

namespace Scope

/-- Whether a key is in the scope. -/
def owns : Scope → Key → Bool
  | keys ks, k => ks.contains k
  | setting name, k => k.setting == name

/-- Whether a key in the scope differs. -/
def touches (d : Difference) : Scope → Bool
  | keys ks => ks.any d.contains
  | setting name => d.containsSetting name

/-- The difference without the keys in the scope. -/
def clear (d : Difference) : Scope → Difference
  | keys ks => ks.foldl Difference.erase d
  | setting name => (d.removeSetting name).2

end Scope

namespace Waiver

/-- The rules in the order in which they are tried. -/
def all : List Waiver :=
  [ipMethod .v6, ipMethod .v4, ipRoutes .v4, ipRoutes .v6, interfaceName, wiredMac, infinibandMac,
   clonedMac, controller, channels, hints]

/-- The keys that a rule decides on. -/
def scope : Waiver → Scope
  | ipMethod f => .keys [.ipMethod f]
  | ipRoutes f => .keys [.ipRoutes f]
  | interfaceName => .keys [.interfaceName]
  | wiredMac => .keys [.wiredMac]
  | infinibandMac => .keys [.infinibandMac]
  | clonedMac => .keys [.clonedMac]
  | controller => .keys [.controller, .master]
  | channels => .keys [.subchannels, .nettype, .channelOptions]
  | hints => .setting Key.hints

/-- Values of a cloned hardware address that are no address but say how to choose one. -/
def symbolicMacs : List String :=
  ["preserve", "permanent", "random", "stable", "stable-ssid"]

/-- Whether the candidate accepts that the family stays without an address; one without the setting
does. -/
def mayFail (candidate : Profile) (f : Family) : Bool :=
  (candidate.ipMayFail? f).getD true

/-- The kernel keeps the link-local address of the wide family while automatic configuration is
not finished or has failed, and whatever it does where the family is ignored. -/
def excusesMethod6 (generated candidate : Profile) : Bool :=
  let present := generated.ipMethod .v6
  let wanted := candidate.ipMethod .v6
  (present == "link-local" && wanted == "auto" && mayFail candidate .v6)
    || (["link-local", "disabled", "auto"].contains present && wanted == "ignore")

/-- Without a carrier no address of the narrow family could be obtained, so that automatic
configuration has not failed. -/
def excusesMethod4 (options : Options) (generated candidate : Profile) : Bool :=
  generated.ipMethod .v4 == "disabled" && candidate.ipMethod .v4 == "auto"
    && mayFail candidate .v4 && !options.hasCarrier

/-- The metric of the open routes of a candidate: its own, or that of the options. -/
def candidateMetric (options : Options) (candidate : Profile) (f : Family) : Int :=
  if candidate.routeMetric f = Route.openMetric then options.metric f else candidate.routeMetric f

/-- The routes agree but for routes to single hosts; `present` are the sorted ones of the generated
profile. -/
def excusesRoutes (options : Options) (present : Option (List Route)) (candidate : Profile)
    (f : Family) : Bool :=
  Route.covers f.width present
    (Route.canonical? (candidateMetric options candidate f) (candidate.ipRoutes f))

/-- One of the two sides says nothing. -/
def eitherUnset (present wanted : Option String) : Bool :=
  present.isNone || wanted.isNone

/-- A cloned address of the generated profile that is no address says nothing; one of the candidate
still promises an address other than any that is seen. -/
def excusesClonedMac (generated candidate : Profile) : Bool :=
  eitherUnset (generated.clonedMac?.filter fun m => !symbolicMacs.contains m) candidate.clonedMac?

/-- The generated profile names its controller as the candidate does, or by the identifier of a
stored profile for the interface that the candidate names. -/
def excusesController (lookup : Lookup) (generated candidate : Profile) : Bool :=
  match generated.controller?, candidate.controller? with
  | some present, some wanted =>
    present == wanted
      || (lookup.isIdentifier present
        && (lookup.find? present).elim false fun p => p.interfaceName? == some wanted)
  | _, _ => false

/-- The generated profile has no wired setting at all, and that of the candidate says nothing on
channels. -/
def excusesChannels (generated candidate : Profile) : Bool :=
  !generated.hasSetting Key.wired && candidate.hasSetting Key.wired
    && candidate.subchannels.isEmpty && candidate.nettype?.isNone
    && candidate.channelOptionCount == 0

/-- The condition under which a rule passes although a key of its scope differs. -/
def excuses (ctx : WaiverContext) (generated candidate : Profile) :
    Waiver → StateM (RouteCache ctx.options generated) Bool
  | ipMethod .v6 => return excusesMethod6 generated candidate
  | ipMethod .v4 => return excusesMethod4 ctx.options generated candidate
  | ipRoutes f => return excusesRoutes ctx.options (← RouteCache.routes f) candidate f
  | interfaceName => return eitherUnset generated.interfaceName? candidate.interfaceName?
  | wiredMac => return eitherUnset generated.wiredMac? candidate.wiredMac?
  | infinibandMac => return eitherUnset generated.infinibandMac? candidate.infinibandMac?
  | clonedMac => return excusesClonedMac generated candidate
  | controller => return excusesController ctx.lookup generated candidate
  | channels => return excusesChannels generated candidate
  | hints => return true

/-- Applies a rule: whether it passes, and what it leaves of the difference. -/
def apply (ctx : WaiverContext) (generated candidate : Profile) (w : Waiver) (d : Difference) :
    StateM (RouteCache ctx.options generated) (Bool × Difference) := do
  if !w.scope.touches d then return (true, d)
  else if ← w.excuses ctx generated candidate then return (true, w.scope.clear d)
  else return (false, d)

end Waiver

/-- Applies rules in turn up to the first that fails: whether all pass and nothing is left, and what
is left. -/
def waiveBy (ctx : WaiverContext) (generated candidate : Profile) :
    List Waiver → Difference → StateM (RouteCache ctx.options generated) (Bool × Difference)
  | [], d => return (d.isEmpty, d)
  | w :: ws, d => do
    match ← w.apply ctx generated candidate d with
    | (true, d') => waiveBy ctx generated candidate ws d'
    | (false, d') => return (false, d')

/-- Applies all rules. -/
def waiveIn (ctx : WaiverContext) (generated candidate : Profile) (d : Difference) :
    StateM (RouteCache ctx.options generated) (Bool × Difference) :=
  waiveBy ctx generated candidate Waiver.all d

/-- Takes every expected difference out: whether that is all of it, and what is left when a rule
fails or all have passed. -/
def waive (generated candidate : Profile) (options : Options) (lookup : Lookup) (d : Difference) :
    Bool × Difference :=
  ((waiveIn ⟨options, lookup⟩ generated candidate d).run .fresh).1

/-- Whether the candidate is equal to the generated profile or differs only where that is
expected. -/
def isPossibleMatch (generated candidate : Profile) (options : Options) (lookup : Lookup) : Bool :=
  let d := Difference.between generated candidate
  d.isEmpty || (waive generated candidate options lookup d).1

end ProfileMatch
