import TitleDock.Event.Log
import TitleDock.Text.Blank
import TitleDock.Text.Decimal

/-! Which log records are kept. A filter is a list of directives, each for the sources whose names
start in the given way; for a record the directive with the longest such start decides. -/

namespace TitleDock

structure LogDirective where
  start : String
  /-- The lowest level that is kept; nothing is kept without one. -/
  least : Option LogLevel
deriving DecidableEq, Repr

abbrev LogFilter := List LogDirective

namespace LogDirective

def level? (s : String) : Option (Option LogLevel) :=
  match (s.map Char.toLower) with
  | "off" | "0" => some none
  | "error" | "1" => some (some .error)
  | "warn" | "2" => some (some .warn)
  | "info" | "3" => some (some .info)
  | "debug" | "4" => some (some .debug)
  | "trace" | "5" => some (some .trace)
  | _ => none

def isNameChar (c : Char) : Bool :=
  (Decimal.digit? 36 c).isSome || c = '_' || c = ':' || c = '-'

/-- A level for all sources, a start of names with its level, or such a start alone. -/
def parse? (s : String) : Option LogDirective :=
  match level? s with
  | some least => some { start := "", least }
  | none =>
    let start := String.ofList (s.toList.takeWhile isNameChar)
    match s.toList.dropWhile isNameChar with
    | [] => some { start, least := some .trace }
    | ['='] => some { start, least := some .trace }
    | '=' :: r => (level? (String.ofList r)).map fun least => { start, least }
    | _ => none

def covers (d : LogDirective) (target : String) : Bool :=
  d.start.toList.isPrefixOf target.toList

end LogDirective

namespace LogFilter

def parse? (s : String) : Option LogFilter :=
  ((Text.splitOn ',' s.toList).filter fun p => !p.isEmpty).mapM fun p =>
    LogDirective.parse? (String.ofList p)

def standard (verbose : Bool) : LogFilter :=
  let own := if verbose then LogLevel.debug else .info
  [{ start := "nxlink", least := some own },
    { start := "reqwest", least := some (if verbose then .debug else .warn) },
    { start := "hyper_util", least := some .warn }]

/-- The directive that decides for a source: the longest one, and the last of equals. -/
def decisive? (f : LogFilter) (target : String) : Option LogDirective :=
  f.foldl (fun best d =>
    if d.covers target then
      match best with
      | some b => if b.start.length ≤ d.start.length then some d else best
      | none => some d
    else best) none

/-- Without any directive, errors are kept. -/
def keeps (f : LogFilter) (r : LogRecord) : Bool :=
  if f.isEmpty then LogLevel.error.severity ≤ r.level.severity
  else match (f.decisive? r.source.target).bind (·.least) with
    | some least => least.severity ≤ r.level.severity
    | none => false

end LogFilter

end TitleDock
