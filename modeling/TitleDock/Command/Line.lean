import TitleDock.Discovery.Manual
import TitleDock.Platform

/-! The command line and how it is read. Options may come in any order, with their values attached
by an equals sign or in the next argument; some are known to every command, and count where they
stand deepest. Reading stops at the first fault, and a value is only checked when the option after
it, or the end, is reached. -/

namespace TitleDock

inductive Command where
  | discover (duration : Option Nat)
  | info (host : String) (port : Nat)
  | titles (host : String) (port : Nat) (json : Bool)
  | fetch (host : String) (port : Nat) (title : String) (platform : Platform) (output : String)
deriving DecidableEq, Repr

structure GlobalOptions where
  config : Option String
  simulation : Option Bool
  verbose : Option Bool
  jsonLogs : Option Bool
deriving DecidableEq, Repr

structure CommandLine where
  command : Command
  options : GlobalOptions
deriving DecidableEq, Repr

inductive UsageError where
  | displayHelp
  | helpOnMissingCommand
  | unknownArgument
  | invalidSubcommand
  | missingSubcommand
  | missingRequiredArgument
  /-- A value is missing, empty where it must not be, or none of the possible ones. -/
  | invalidValue
  /-- A value that does not read as a number, or as one that is too large. -/
  | valueValidation
  /-- An option is given twice. -/
  | argumentConflict
  /-- A value is attached to an option that takes none. -/
  | tooManyValues
deriving DecidableEq, Repr

namespace UsageError

def name : UsageError → String
  | displayHelp => "DisplayHelp"
  | helpOnMissingCommand => "DisplayHelpOnMissingArgumentOrSubcommand"
  | unknownArgument => "UnknownArgument"
  | invalidSubcommand => "InvalidSubcommand"
  | missingSubcommand => "MissingSubcommand"
  | missingRequiredArgument => "MissingRequiredArgument"
  | invalidValue => "InvalidValue"
  | valueValidation => "ValueValidation"
  | argumentConflict => "ArgumentConflict"
  | tooManyValues => "TooManyValues"

def exitCode : UsageError → Nat
  | displayHelp => 0
  | _ => 2

end UsageError

namespace CommandLine

inductive Argument where
  | config | simulation | verbose | jsonLogs | help
  | duration | host | port | json | title | platform | output
deriving DecidableEq, Repr

namespace Argument

def takesValue : Argument → Bool
  | help | json => false
  | _ => true

def signedDigits (cs : List Char) : Bool × List Char :=
  match cs with
  | '-' :: r => (true, r)
  | '+' :: r => (false, r)
  | r => (false, r)

/-- A number of 32 bits, read as a signed one. -/
def port? (s : String) : Option Nat := do
  let (negative, ds) := signedDigits s.toList
  let n ← Decimal.natural? 10 ds
  if (negative ∧ n ≠ 0) ∨ Decimal.largest32 < n then none else some n

def duration? (s : String) : Option Nat := Decimal.unsigned? Decimal.largest64 s.toList

def bool? (s : String) : Option Bool :=
  if s = "true" then some true else if s = "false" then some false else none

def fault? (a : Argument) (value : String) : Option UsageError :=
  match a with
  | config | output => if value.isEmpty then some .invalidValue else none
  | simulation | verbose | jsonLogs => if (bool? value).isSome then none else some .invalidValue
  | platform => if (Platform.ofName? value).isSome then none else some .invalidValue
  | duration => if (duration? value).isSome then none else some .valueValidation
  | port => if (port? value).isSome then none else some .valueValidation
  | _ => none

end Argument

structure Grammar where
  options : List (String × Argument)
  letters : List (Char × Argument)
  positional : Option Argument
  required : List Argument
  commands : List String

def globalNames : List (String × Argument) :=
  [("config", .config), ("simulation", .simulation), ("verbose", .verbose),
    ("json-logs", .jsonLogs), ("help", .help)]

def commandNames : List String := ["discover", "info", "titles", "fetch"]

def rootGrammar : Grammar :=
  { options := globalNames, letters := [('h', .help)], positional := none, required := []
    commands := commandNames ++ ["help"] }

def commandGrammar (name : String) : Grammar :=
  let own : List (String × Argument) :=
    if name = "discover" then [("duration", .duration)]
    else if name = "info" then [("port", .port)]
    else if name = "titles" then [("port", .port), ("json", .json)]
    else [("port", .port), ("title", .title), ("platform", .platform), ("output", .output)]
  { options := own ++ globalNames
    letters := if name = "fetch" then [('h', .help), ('o', .output)] else [('h', .help)]
    positional := if name = "discover" then none else some .host
    required :=
      if name = "discover" then []
      else if name = "fetch" then [.host, .title, .platform, .output]
      else [.host]
    commands := [] }

/-- The arguments that were read for one command. `pending` still waits for its value, or for its
value to be checked. -/
structure Level where
  given : List (Argument × String)
  pending : Option (Argument × Option String)
  /-- The pending argument still takes the next word as its value. -/
  awaiting : Bool
  /-- After two hyphens every word is positional. -/
  trailing : Bool

namespace Level

def empty : Level := { given := [], pending := none, awaiting := false, trailing := false }

def value? (l : Level) (a : Argument) : Option String := l.given.lookup a

/-- Takes an argument with its value. An argument that is there already is a fault, which is found
before a faulty value. -/
def take (a : Argument) (value : String) (l : Level) : Except UsageError Level :=
  if (l.value? a).isSome then .error .argumentConflict
  else match a.fault? value with
    | some e => .error e
    | none => .ok { l with given := (a, value) :: l.given }

def resolve (l : Level) : Except UsageError Level :=
  match l.pending with
  | none => .ok l
  | some (_, none) => .error .invalidValue
  | some (a, some value) => ({ l with pending := none, awaiting := false } : Level).take a value

def option (a : Argument) (attached : Option String) (l : Level) : Except UsageError Level :=
  if a.takesValue then do
    let l ← l.resolve
    match attached with
    | some value => l.take a value
    | none => .ok { l with pending := some (a, none), awaiting := true }
  else match attached with
    | some _ => .error .tooManyValues
    | none => do
      let l ← l.resolve
      if a = .help then .error .displayHelp else l.take a ""

/-- A cluster of letters after one hyphen. The first option that takes a value takes the rest. -/
def letters (g : Grammar) : List Char → Level → Except UsageError Level
  | [], l => .ok { l with awaiting := false }
  | c :: r, l =>
    match g.letters.lookup c with
    | none => .error .unknownArgument
    | some a =>
      if a.takesValue then
        match r with
        | [] => l.option a none
        | '=' :: r => l.option a (some (String.ofList r))
        | r => l.option a (some (String.ofList r))
      else do letters g r (← l.option a none)

def positional (g : Grammar) (word : String) (l : Level) : Except UsageError Level :=
  match g.positional with
  | some a =>
    if (l.value? a).isSome ∨ (l.pending.map (·.1)) = some a then .error .unknownArgument
    else do
      let l ← l.resolve
      .ok { l with pending := some (a, some word), awaiting := false }
  | none =>
    if g.commands.isEmpty ∨ (l.trailing ∧ word ∈ g.commands) then .error .unknownArgument
    else .error .invalidSubcommand

end Level

def splitOption (cs : List Char) : String × Option String :=
  let name := String.ofList (cs.takeWhile (· ≠ '='))
  match cs.dropWhile (· ≠ '=') with
  | _ :: value => (name, some (String.ofList value))
  | [] => (name, none)

def word (g : Grammar) (w : String) (l : Level) : Except UsageError Level :=
  if l.trailing then l.positional g w
  else match w.toList with
    | ['-', '-'] => .ok { l with trailing := true }
    | '-' :: '-' :: r =>
      let (name, attached) := splitOption r
      match g.options.lookup name with
      | some a => l.option a attached
      | none => .error .unknownArgument
    | '-' :: c :: r => l.letters g (c :: r)
    | _ =>
      match l.awaiting, l.pending with
      | true, some (a, _) => .ok { l with pending := some (a, some w), awaiting := false }
      | _, _ => l.positional g w

def words (g : Grammar) :
    List String → Level → Except UsageError (Level × Option (String × List String))
  | [], l => .ok (l, none)
  | w :: ws, l =>
    if ¬ l.trailing ∧ ¬ l.awaiting ∧ w ∈ g.commands then .ok (l, some (w, ws))
    else do words g ws (← word g w l)

def help : List String → UsageError
  | [] => .displayHelp
  | [w] => if w ∈ rootGrammar.commands then .displayHelp else .invalidSubcommand
  | _ => .invalidSubcommand

def level (g : Grammar) (ws : List String) : Except UsageError Level := do
  let (l, _) ← words g ws .empty
  let l ← l.resolve
  if g.required.any fun a => (l.value? a).isNone then .error .missingRequiredArgument
  else .ok l

def commandOf (name : String) (l : Level) : Command :=
  let host := (l.value? .host).getD ""
  let port := ((l.value? .port).bind Argument.port?).getD defaultDevicePort
  if name = "discover" then .discover ((l.value? .duration).bind Argument.duration?)
  else if name = "info" then .info host port
  else if name = "titles" then .titles host port (l.value? .json).isSome
  else
    .fetch host port ((l.value? .title).getD "")
      (((l.value? .platform).bind Platform.ofName?).getD .nes) ((l.value? .output).getD "")

/-- The value of an option that every command knows: the inner one counts. -/
def inner? (outer inner : Level) (a : Argument) : Option String :=
  match inner.value? a with
  | some value => some value
  | none => outer.value? a

def optionsOf (outer inner : Level) : GlobalOptions :=
  { config := inner? outer inner .config
    simulation := (inner? outer inner .simulation).bind Argument.bool?
    verbose := (inner? outer inner .verbose).bind Argument.bool?
    jsonLogs := (inner? outer inner .jsonLogs).bind Argument.bool? }

def parse (ws : List String) : Except UsageError CommandLine := do
  let (outer, found) ← words rootGrammar ws .empty
  match found with
  | some (name, rest) =>
    if name = "help" then .error (help rest)
    else
      let inner ← level (commandGrammar name) rest
      let outer ← outer.resolve
      .ok { command := commandOf name inner, options := optionsOf outer inner }
  | none =>
    let outer ← outer.resolve
    if outer.given.isEmpty then .error .helpOnMissingCommand else .error .missingSubcommand

end CommandLine

end TitleDock
