import TitleDock.Extraction
import TitleDock.Fault

/-! What a transfer tells its observers: the states it passes through, lines for people, and the
progress of the extraction and of the download. -/

namespace TitleDock

inductive TransferState where
  | idle
  | connecting
  | connected (titleCount : Nat)
  | requesting
  | polling (operationId : String)
  | downloading (operationId : String)
  | succeeded
  | failed (kind : FailureKind) (message : String)
deriving DecidableEq, Repr

def TransferState.name : TransferState → String
  | idle => "idle"
  | connecting => "connecting"
  | connected _ => "connected"
  | requesting => "requesting"
  | polling _ => "polling"
  | downloading _ => "downloading"
  | succeeded => "succeeded"
  | failed .. => "failed"

def TransferState.ofFault (f : Fault) : TransferState :=
  .failed f.kind f.message

inductive TransferEvent where
  | state (s : TransferState)
  | status (line : String)
  | extractProgress (bytesTransferred totalBytes : UInt64)
  | downloadProgress (bytesRead totalBytes : Nat)
deriving DecidableEq, Repr

end TitleDock
