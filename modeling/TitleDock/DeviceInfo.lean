import TitleDock.Json.Value

/-! What a device says about itself: texts by name, sorted by name. When a name is given twice the
last text counts. -/

namespace TitleDock

/-- Entries sorted by name, one for each name. -/
abbrev DeviceInfo := List (String × String)

namespace DeviceInfo

def insert (name text : String) : DeviceInfo → DeviceInfo
  | [] => [(name, text)]
  | (n, t) :: r =>
    if name < n then (name, text) :: (n, t) :: r
    else if n < name then (n, t) :: insert name text r
    else (name, text) :: r

def ofList (entries : List (String × String)) : DeviceInfo :=
  entries.foldl (fun info (name, text) => insert name text info) []

def get? (info : DeviceInfo) (name : String) : Option String :=
  info.lookup name

def toJson (info : DeviceInfo) : Json :=
  .record (info.map fun (name, text) => (name, .ofText text))

def ofJson? (v : Json) : Option DeviceInfo := do
  let entries ← (← v.members?).mapM fun (name, v) => v.text?.map (name, ·)
  some (ofList entries)

def decode? (bs : Bytes) : Option DeviceInfo := (Json.parse? bs).bind ofJson?

end DeviceInfo

end TitleDock
