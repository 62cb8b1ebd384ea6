/-! What can go wrong in a call to a device or in a transfer. Each fault has a bare message, the
same message under a heading, and the kind of failure that a failed transfer reports. -/

namespace TitleDock

inductive FailureKind where
  | connection
  | request
  | remoteExtraction
  | processing
  | cancelled
deriving DecidableEq, Repr

def FailureKind.name : FailureKind → String
  | .connection => "connection"
  | .request => "request"
  | .remoteExtraction => "remote-extraction"
  | .processing => "processing"
  | .cancelled => "cancelled"

inductive Fault where
  /-- The device did not answer in time, or at all. -/
  | unreachable (message : String)
  /-- An answer was malformed, or not what the device promises. -/
  | protocol (message : String)
  | requestRejected (message : String)
  /-- The device says that the extraction failed. -/
  | remoteExtraction (message : String)
  | connection (message : String)
  | request (message : String)
  | processing (message : String)
  | cancelled
  | busy
  | notConnected
  | invalidAddress (message : String)
  | io (message : String)
deriving DecidableEq, Repr

namespace Fault

def message : Fault → String
  | .unreachable m | .protocol m | .requestRejected m | .remoteExtraction m | .connection m
  | .request m | .processing m | .invalidAddress m | .io m => m
  | .cancelled => "Operation cancelled"
  | .busy => "An extraction is already in progress"
  | .notConnected => "No device connected"

/-- What stands before the message when a fault is shown or wrapped in another one. -/
def heading : Fault → String
  | .unreachable _ => "Device unreachable: "
  | .protocol _ => "Protocol error: "
  | .requestRejected _ => "Request rejected: "
  | .remoteExtraction _ => "Extraction failed: "
  | .connection _ => "Connection failed: "
  | .request _ => "Request failed: "
  | .processing _ => "Processing failed: "
  | .invalidAddress _ => "Invalid device address: "
  | .io _ => "I/O error: "
  | .cancelled | .busy | .notConnected => ""

instance : ToString Fault where
  toString f := f.heading ++ f.message

def kind : Fault → FailureKind
  | .connection _ | .unreachable _ => .connection
  | .remoteExtraction _ => .remoteExtraction
  | .processing _ | .io _ => .processing
  | .cancelled => .cancelled
  | .protocol _ | .requestRejected _ | .request _ | .busy | .notConnected
  | .invalidAddress _ => .request

end Fault

end TitleDock
