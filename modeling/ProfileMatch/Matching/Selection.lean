import ProfileMatch.Matching.Waiver
/-!
The choice of the stored profile that best describes the state of an interface.

* `Selection.sameKind`: what candidates that are known to belong to the device are checked for;
* `Selection.scan`: one pass over the candidates that keeps the first waived match while it looks
  for an equal one;
* `bestMatch?`: the profile chosen, with its place among the candidates.
-/

namespace ProfileMatch

namespace Selection

/-- Whether two profiles are of one type and one port type. -/
def sameKind (generated candidate : Profile) : Bool :=
  generated.type? == candidate.type? && generated.portType? == candidate.portType?

/-- Goes through the candidates that `keep` lets pass. The first of the same kind is chosen if the
candidates are known to belong to the device, else the first equal one; if there is none, the first
whose differences are all waived. `best` is the waived match found so far; once there is one, the
rules are no longer tried. -/
def scan (ctx : WaiverContext) (generated : Profile) (keep : Profile → Bool)
    (best : Option (Profile × Nat)) :
    List (Profile × Nat) → StateM (RouteCache ctx.options generated) (Option (Profile × Nat))
  | [] => return best
  | c :: cs => do
    if !keep c.1 then scan ctx generated keep best cs
    else if ctx.options.indicated then
      if sameKind generated c.1 then return some c else scan ctx generated keep best cs
    else
      let d := Difference.between generated c.1
      if d.isEmpty then return some c
      else if best.isSome then scan ctx generated keep best cs
      else
        let (waived, _) ← waiveIn ctx generated c.1 d
        scan ctx generated keep (if waived then some c else none) cs

end Selection

/-- The candidate that best describes the generated profile, with its place. -/
def bestMatch? (candidates : List Profile) (generated : Profile) (options : Options)
    (lookup : Lookup) (keep : Profile → Bool) : Option (Profile × Nat) :=
  ((Selection.scan ⟨options, lookup⟩ generated keep none candidates.zipIdx).run .fresh).1

end ProfileMatch
