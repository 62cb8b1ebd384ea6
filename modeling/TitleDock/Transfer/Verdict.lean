import TitleDock.Extraction
import TitleDock.Fault

/-! What the answer to a status call means for the fetch that asked. -/

namespace TitleDock.Session

/-- The report in an answer to a status call. A report whose status went back is refused. -/
def accept (last : SessionStatus) : Except Fault Session → Except Fault Session
  | .error f => .error (.request ("status poll failed: " ++ toString f))
  | .ok s =>
    if last.canAdvanceTo s.status then .ok s
    else .error (.protocol ("status regressed from " ++ last.name ++ " to " ++ s.status.name))

theorem accept_eq_ok {last : SessionStatus} {s : Session} (h : last.canAdvanceTo s.status = true) :
    accept last (.ok s) = .ok s := by
  rw [accept, if_pos h]

def failure (s : Session) : Fault :=
  .remoteExtraction (match s.errorMessage with
    | some m => if m.isEmpty then "device reported failure without a message" else m
    | none => "device reported failure without a message")

def progressLine (s : Session) : String :=
  "Extracting... " ++ Tenths.text (percentage s.bytesTransferred s.totalBytes) ++ "%"

/-- The size of the payload: what the report says, or else what the download declares, or zero. -/
def payloadSize (s : Session) (contentLength : Option Nat) : Nat :=
  if s.totalBytes = 0 then contentLength.getD 0 else s.totalBytes.toNat

end TitleDock.Session
