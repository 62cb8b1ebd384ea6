import TitleDock.Device
import TitleDock.DeviceInfo
import TitleDock.Extraction
import TitleDock.Fault
import TitleDock.Stream.Reader
import TitleDock.Title

/-! The calls that can be made to a device, and their answers. A download is a stream of bytes that
is read piece by piece. -/

namespace TitleDock

inductive Call where
  | info (d : Device)
  | titles (d : Device)
  | extract (d : Device) (request : ExtractionRequest)
  | status (d : Device) (operationId : String)
  | download (d : Device) (operationId : String)
deriving DecidableEq, Repr

inductive StreamEnd where
  | finished
  | broken (e : SystemError)
  | stalled
deriving DecidableEq, Repr

/-- The bytes that a device sends: at most `chunk` in one read, each read after a delay. -/
structure PayloadStream where
  bytes : Bytes
  chunk : Option Nat
  delay : Nat
  ending : StreamEnd
deriving DecidableEq, Repr

structure Download where
  contentLength : Option Nat
  stream : PayloadStream
deriving DecidableEq, Repr

def Download.describe (d : Download) : String :=
  let length := match d.contentLength with
    | some n => "Some(" ++ toString n ++ ")"
    | none => "None"
  "Download \x7b content_length: " ++ length ++ ", .. \x7d"

inductive Answer where
  | info (r : Except Fault DeviceInfo)
  | titles (r : Except Fault (List Title))
  | accepted (r : Except Fault String)
  | status (r : Except Fault Session)
  | download (r : Except Fault Download)

def Call.failed (f : Fault) : Call → Answer
  | .info _ => .info (.error f)
  | .titles _ => .titles (.error f)
  | .extract .. => .accepted (.error f)
  | .status .. => .status (.error f)
  | .download .. => .download (.error f)

def Call.device : Call → Device
  | .info d | .titles d | .extract d _ | .status d _ | .download d _ => d

namespace PayloadStream

def room : Nat := 8192

def read (s : PayloadStream) : Option (Except SystemError Bytes) × PayloadStream :=
  if s.bytes.isEmpty then
    match s.ending with
    | .finished => (some (.ok []), s)
    | .broken e => (some (.error e), s)
    | .stalled => (none, s)
  else
    let n := min (s.chunk.getD room) room
    (some (.ok (s.bytes.take n)), { s with bytes := s.bytes.drop n })

/-- What a reader that waits long enough gets to see. -/
def script (s : PayloadStream) : List ReadItem :=
  let data := if s.bytes.isEmpty then [] else [ReadItem.data s.bytes]
  match s.ending with
  | .broken e => data ++ [.failure e]
  | _ => data

end PayloadStream

end TitleDock
