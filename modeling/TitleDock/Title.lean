import TitleDock.Json.Value

/-! The titles that a device lists, and their wire form. Only the id and the name are required; a
kind that is not known counts as other, and `extractable` is an older name of `isExtractable`. -/

namespace TitleDock

inductive TitleKind where
  | cartridge
  | digital
  | other
deriving DecidableEq, Repr

namespace TitleKind

def name : TitleKind → String
  | cartridge => "Cartridge"
  | digital => "Digital"
  | other => "Other"

def ofName (s : String) : TitleKind :=
  if s = "Cartridge" then cartridge else if s = "Digital" then digital else other

def toJson (k : TitleKind) : Json := .ofText k.name

def ofJson? (v : Json) : Option TitleKind := v.choice?.map ofName

@[simp] theorem ofName_name (k : TitleKind) : ofName k.name = k := by
  cases k <;> decide

end TitleKind

structure Title where
  titleId : String
  name : String
  version : String
  size : UInt64
  kind : TitleKind
  extractable : Bool
deriving DecidableEq, Repr

namespace Title

def fieldNames : List (List String) :=
  [["titleId"], ["name"], ["version"], ["size"], ["type"], ["isExtractable", "extractable"]]

def toJson (t : Title) : Json :=
  .record [("titleId", .ofText t.titleId), ("name", .ofText t.name), ("version", .ofText t.version),
    ("size", .ofNat t.size.toNat), ("type", t.kind.toJson), ("isExtractable", .bool t.extractable)]

def ofJson? (v : Json) : Option Title := do
  match ← v.fields? fieldNames with
  | [titleId, name, version, size, kind, extractable] =>
    let titleId ← Json.required Json.text? titleId
    let name ← Json.required Json.text? name
    let version ← Json.orElse "" Json.text? version
    let size ← Json.orElse 0 (Json.natural? Decimal.largest64) size
    let kind ← Json.orElse .other TitleKind.ofJson? kind
    let extractable ← Json.orElse false Json.bool? extractable
    some { titleId, name, version, size := size.toUInt64, kind, extractable }
  | _ => none

def encode (t : Title) : Bytes := t.toJson.compact

def decode? (bs : Bytes) : Option Title := (Json.parse? bs).bind ofJson?

def listToJson (ts : List Title) : Json := .array (ts.map toJson)

def listOfJson? (v : Json) : Option (List Title) := do
  (← v.items?).mapM ofJson?

def decodeList? (bs : Bytes) : Option (List Title) := (Json.parse? bs).bind listOfJson?

end Title

end TitleDock
