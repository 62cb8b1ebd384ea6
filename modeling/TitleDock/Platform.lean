import TitleDock.Json.Value

/-! The console that extracted content is meant for, known by its name on the command line and on
the wire. -/

namespace TitleDock

inductive Platform where
  | nes
  | snes
  | n64
  | megaDrive
  | masterSystem
deriving DecidableEq, Repr

namespace Platform

def name : Platform → String
  | nes => "nes"
  | snes => "snes"
  | n64 => "n64"
  | megaDrive => "mega-drive"
  | masterSystem => "master-system"

def all : List Platform := [nes, snes, n64, megaDrive, masterSystem]

def ofName? (s : String) : Option Platform :=
  all.find? (·.name = s)

def ofNameIgnoringCase? (s : String) : Option Platform :=
  ofName? (s.map Char.toLower)

def toJson (p : Platform) : Json := .ofText p.name

def ofJson? (v : Json) : Option Platform := v.choice?.bind ofName?

@[simp] theorem ofName?_name (p : Platform) : ofName? p.name = some p := by
  cases p <;> decide

end Platform

end TitleDock
