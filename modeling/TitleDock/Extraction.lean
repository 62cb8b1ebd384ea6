import TitleDock.Json.Value
import TitleDock.Text.Tenths

/-! An extraction on a device: the request for it, the status that the device reports, in rank
order, and the report itself with its wire form. -/

namespace TitleDock

structure ExtractionRequest where
  titleId : String
  format : String
  includeUpdates : Bool
  includeDlc : Bool
deriving DecidableEq, Repr

namespace ExtractionRequest

def new (titleId format : String) : ExtractionRequest :=
  { titleId, format, includeUpdates := true, includeDlc := false }

def toJson (r : ExtractionRequest) : Json :=
  .record [("titleId", .ofText r.titleId), ("format", .ofText r.format),
    ("includeUpdates", .bool r.includeUpdates), ("includeDLC", .bool r.includeDlc)]

end ExtractionRequest

inductive SessionStatus where
  | pending
  | inProgress
  | completed
  | failed
deriving DecidableEq, Repr

namespace SessionStatus

def name : SessionStatus → String
  | pending => "Pending"
  | inProgress => "InProgress"
  | completed => "Completed"
  | failed => "Failed"

def ofName? (s : String) : Option SessionStatus :=
  if s = "Pending" then some pending
  else if s = "InProgress" then some inProgress
  else if s = "Completed" then some completed
  else if s = "Failed" then some failed
  else none

def rank : SessionStatus → Nat
  | pending => 0
  | inProgress => 1
  | completed => 2
  | failed => 3

def isTerminal : SessionStatus → Bool
  | completed | failed => true
  | pending | inProgress => false

/-- A status never goes back in rank, and a terminal one never changes. -/
def canAdvanceTo (s next : SessionStatus) : Bool :=
  if s.isTerminal then s = next else s.rank ≤ next.rank

def toJson (s : SessionStatus) : Json := .ofText s.name

def ofJson? (v : Json) : Option SessionStatus := v.choice?.bind ofName?

@[simp] theorem ofName?_name (s : SessionStatus) : ofName? s.name = some s := by
  cases s <;> decide

end SessionStatus

structure Session where
  operationId : String
  status : SessionStatus
  bytesTransferred : UInt64
  totalBytes : UInt64
  errorMessage : Option String
deriving DecidableEq, Repr

namespace Session

/-- The share that is done, at most 100; zero when the total is not known. -/
def percentage (bytesTransferred totalBytes : UInt64) : Float :=
  if totalBytes = 0 then 0
  else
    let p := bytesTransferred.toFloat / totalBytes.toFloat * 100
    if p < 100 then p else 100

def fieldNames : List (List String) :=
  [["operationId"], ["status"], ["bytesTransferred"], ["totalBytes"], ["errorMessage"]]

/-- The error message is left out when there is none. -/
def toJson (s : Session) : Json :=
  .record ([("operationId", .ofText s.operationId), ("status", s.status.toJson),
    ("bytesTransferred", .ofNat s.bytesTransferred.toNat),
    ("totalBytes", .ofNat s.totalBytes.toNat)] ++
    (s.errorMessage.map fun m => ("errorMessage", Json.ofText m)).toList)

def optionalText? : Json → Option (Option String)
  | .null => some none
  | v => v.text?.map some

def ofJson? (v : Json) : Option Session := do
  match ← v.fields? fieldNames with
  | [operationId, status, bytesTransferred, totalBytes, errorMessage] =>
    let operationId ← Json.required Json.text? operationId
    let status ← Json.required SessionStatus.ofJson? status
    let bytesTransferred ← Json.orElse 0 (Json.natural? Decimal.largest64) bytesTransferred
    let totalBytes ← Json.orElse 0 (Json.natural? Decimal.largest64) totalBytes
    let errorMessage ← Json.orElse none optionalText? errorMessage
    some { operationId, status, bytesTransferred := bytesTransferred.toUInt64,
           totalBytes := totalBytes.toUInt64, errorMessage }
  | _ => none

def encode (s : Session) : Bytes := s.toJson.compact

def decode? (bs : Bytes) : Option Session := (Json.parse? bs).bind ofJson?

end Session

end TitleDock
