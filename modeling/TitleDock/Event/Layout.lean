import TitleDock.Event.Log
import TitleDock.Json.Value

/-! The lines in which log records are written: as JSON, or as plain text. -/

namespace TitleDock

namespace LogValue

def toJson : LogValue → Json
  | text s => .ofText s
  | number n => .ofNat n

def plain : LogValue → String
  | text s => s
  | number n => toString n

end LogValue

namespace LogRecord

def toJson (r : LogRecord) : Json :=
  .record [("level", .ofText r.level.name),
    ("fields", .record (("message", .ofText r.message) ::
      r.fields.map fun (name, value) => (name, value.toJson))),
    ("target", .ofText r.source.target)]

def plain (r : LogRecord) : String :=
  r.level.name ++ " " ++ r.message ++
    String.join (r.fields.map fun (name, value) => " " ++ name ++ "=" ++ value.plain)

def line (json : Bool) (r : LogRecord) : String :=
  if json then r.toJson.compact.text?.getD "" else r.plain

end LogRecord

end TitleDock
