/-!
The arguments of the command line: options and words, and behind the name of a command its own
options and words.

* `Arguments.read`: what the arguments ask for; a request for help or for the version counts as
  soon as it is met, a fault that spoils a single argument likewise, other faults once all is read;
* `Request`: a configuration file and a command.
-/

namespace ProfileMatch

/-- The options that have a meaning. -/
inductive OptionName
  | verbose
  | quiet
  | config
  | indicated
  | noCarrier
  | metric4
  | metric6
  | uuid
  | help
  | version
deriving DecidableEq, Repr

/-- What goes with an option. -/
inductive Companion
  /-- Nothing; the option may be given once. -/
  | none
  /-- Nothing; the option may be repeated. -/
  | nothingOften
  /-- A value, which does not look like an option if it stands on its own. -/
  | value
  /-- Any value. -/
  | anyValue
deriving DecidableEq, Repr

/-- How an option is written. -/
structure OptionForm where
  name : OptionName
  long : Option String
  short : Option Char
  companion : Companion
deriving DecidableEq, Repr

/-- The commands. -/
inductive CommandName
  | select
  | diff
  | device
deriving DecidableEq, Repr

/-- The commands by the words that call them. -/
def CommandName.named : List (String × CommandName) :=
  [("match", .select), ("diff", .diff), ("device-match", .device)]

/-- What the line asks for at one level, that of the program or that of a command. -/
structure Level where
  options : List OptionForm
  /-- Whether commands are called at this level. -/
  callsCommands : Bool
  /-- The number of words that may stand at this level. -/
  words : Nat

namespace Level

/-- The options of every level. -/
def common : List OptionForm :=
  [⟨.verbose, .none, some 'v', .nothingOften⟩, ⟨.quiet, .none, some 'q', .none⟩,
   ⟨.config, some "config", some 'c', .value⟩, ⟨.help, some "help", some 'h', .none⟩]

/-- The options that change how profiles are matched. -/
def matching : List OptionForm :=
  [⟨.indicated, some "indicated", .none, .none⟩, ⟨.noCarrier, some "no-carrier", .none, .none⟩,
   ⟨.metric4, some "ipv4-metric", .none, .anyValue⟩,
   ⟨.metric6, some "ipv6-metric", .none, .anyValue⟩]

/-- The level of the program. -/
def program : Level :=
  ⟨common ++ [⟨.version, some "version", some 'V', .none⟩], true, 0⟩

/-- The level of a command. -/
def command : CommandName → Level
  | .select => ⟨common ++ matching ++ [⟨.uuid, some "uuid", .none, .value⟩], false, 1⟩
  | .diff => ⟨common ++ matching, false, 1⟩
  | .device => ⟨common, false, 1⟩

end Level

/-- Why reading stops before all arguments are read. -/
inductive Stop
  | fault
  | help
  | version
deriving DecidableEq, Repr

/-- Options that are given, with their values. -/
abbrev Given := List (OptionName × String)

/-- What is read at a level. -/
structure Reading where
  given : Given
  /-- Something is wrong that counts once all is read. -/
  faulty : Bool
  words : List String
  /-- The command that is called, with the arguments behind its name. -/
  call : Option (CommandName × List String)

namespace Arguments

/-- Whether an argument looks like an option. -/
def looksLikeOption (a : List Char) : Bool :=
  a.head? == some '-' && a != ['-']

/-- Takes in an option that is met, unless it asks for help or for the version. -/
def meet (f : OptionForm) : Option Stop :=
  match f.name with
  | .help => some .help
  | .version => some .version
  | _ => none

/-- Reads an option by its long name, with a value behind an equals sign if there is one. The option
is given back if its value is still to come. -/
def readLong (lv : Level) (body : List Char) : Except Stop (Given × Option OptionForm) :=
  let name := String.ofList (body.takeWhile (· != '='))
  let attached := match body.dropWhile (· != '=') with
    | '=' :: v => some (String.ofList v)
    | _ => none
  match lv.options.find? fun f => f.long == some name with
  | none => .error .fault
  | some f =>
    match f.companion, attached with
    | .none, none | .nothingOften, none =>
      match meet f with
      | some s => .error s
      | none => .ok ([(f.name, "")], none)
    | .none, some _ | .nothingOften, some _ => .error .fault
    | _, some v => .ok ([(f.name, v)], none)
    | _, none => .ok ([], some f)

/-- Reads options by their short names; one that has a value takes the rest of the argument for it,
if there is any. -/
def readShort (lv : Level) : List Char → Except Stop (Given × Option OptionForm)
  | [] => .ok ([], none)
  | c :: cs =>
    match lv.options.find? fun f => f.short == some c with
    | none => .error .fault
    | some f =>
      match f.companion with
      | .none | .nothingOften =>
        match meet f with
        | some s => .error s
        | none => (readShort lv cs).map fun r => ((f.name, "") :: r.1, r.2)
      | _ =>
        match cs with
        | [] => .ok ([], some f)
        | '=' :: v => .ok ([(f.name, String.ofList v)], none)
        | v => .ok ([(f.name, String.ofList v)], none)

/-- What comes of arguments behind the word that asks for help: it takes the name of a command or
none. -/
def readHelp : List String → Stop
  | [] => .help
  | [a] => if a = "help" ∨ (CommandName.named.lookup a).isSome then .help else .fault
  | _ => .fault

/-- Reads the arguments of a level. `literal` says that a double hyphen was met, behind which all
are words, `pending` that the value of an option is still to come. -/
def readLevel (lv : Level) (r : Reading) (literal : Bool) (pending : Option OptionForm) :
    List String → Except Stop Reading
  | [] => .ok (if pending.isSome then { r with faulty := true } else r)
  | a :: rest =>
    let cs := a.toList
    let word : Except Stop Reading :=
      if r.words.length < lv.words then
        readLevel lv { r with words := r.words ++ [a] } literal none rest
      else .error .fault
    let parts (r : Reading) : Except Stop Reading :=
      if cs = ['-', '-'] then readLevel lv r true none rest
      else
        let found := match cs with
          | '-' :: '-' :: body => readLong lv body
          | _ => readShort lv (cs.drop 1)
        match found with
        | .error s => .error s
        | .ok (given, pending) =>
          readLevel lv { r with given := r.given ++ given } literal pending rest
    if literal then word
    else
      match pending with
      | some f =>
        if f.companion = .anyValue ∨ !looksLikeOption cs then
          readLevel lv { r with given := r.given ++ [(f.name, a)] } false none rest
        else parts { r with faulty := true }
      | none =>
        if lv.callsCommands ∧ a = "help" then .error (readHelp rest)
        else
          match if lv.callsCommands then CommandName.named.lookup a else none with
          | some c => .ok { r with call := some (c, rest) }
          | none => if looksLikeOption cs then parts r else word

/-- Whether an option that may be given once is given twice. -/
def repeats (lv : Level) (given : Given) : Bool :=
  lv.options.any fun f =>
    f.companion != .nothingOften && decide (1 < (given.filter fun g => g.1 == f.name).length)

/-- The value that an option is given. -/
def value? (given : Given) (name : OptionName) : Option String :=
  given.lookup name

end Arguments

/-- What the command line says on matching. -/
structure Overrides where
  indicated : Bool
  noCarrier : Bool
  metric4 : Option String
  metric6 : Option String
deriving DecidableEq, Repr

/-- A command with its file. -/
inductive Command
  | select (file : String) (overrides : Overrides) (uuid : Option String)
  | diff (file : String) (overrides : Overrides)
  | device (file : String)
deriving DecidableEq, Repr

/-- The file that a command works on. -/
def Command.file : Command → String
  | .select file _ _ => file
  | .diff file _ => file
  | .device file => file

/-- A configuration file and a command; without a command the program explains itself. -/
structure Request where
  configuration : Option String
  command : Option Command
deriving DecidableEq, Repr

namespace Arguments

/-- What the options of a command say on matching. -/
def overridesOf (given : Given) : Overrides where
  indicated := (value? given .indicated).isSome
  noCarrier := (value? given .noCarrier).isSome
  metric4 := value? given .metric4
  metric6 := value? given .metric6

/-- The command that a name, a file and options call. -/
def commandOf (file : String) (given : Given) : CommandName → Command
  | .select => .select file (overridesOf given) (value? given .uuid)
  | .diff => .diff file (overridesOf given)
  | .device => .device file

/-- What the arguments ask for. A configuration that a command names counts before one that stands
in front of it. -/
def read (args : List String) : Except Stop Request :=
  let start : Reading := ⟨[], false, [], none⟩
  match readLevel .program start false none args with
  | .error s => .error s
  | .ok top =>
    let faulty := top.faulty || repeats .program top.given
    match top.call with
    | none =>
      if faulty ∨ top.given.isEmpty then .error .fault
      else .ok ⟨value? top.given .config, none⟩
    | some (name, rest) =>
      match readLevel (.command name) start false none rest with
      | .error s => .error s
      | .ok r =>
        match r.words with
        | [file] =>
          if faulty ∨ r.faulty ∨ repeats (.command name) r.given then .error .fault
          else
            .ok ⟨(value? r.given .config).or (value? top.given .config),
              some (commandOf file r.given name)⟩
        | _ => .error .fault

end Arguments

end ProfileMatch
