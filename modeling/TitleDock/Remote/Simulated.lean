import TitleDock.Discovery.Feed
import TitleDock.Remote.Client

/-! A made-up device for trying things out. Its status follows a script whose last entry repeats, it
counts its calls, and it serves fabricated bytes unless told otherwise. -/

namespace TitleDock

structure ScriptedStatus where
  status : SessionStatus
  bytesTransferred : UInt64
  totalBytes : UInt64
  errorMessage : Option String
deriving DecidableEq, Repr

namespace ScriptedStatus

def pending : ScriptedStatus :=
  { status := .pending, bytesTransferred := 0, totalBytes := 0, errorMessage := none }

def inProgress (bytesTransferred totalBytes : UInt64) : ScriptedStatus :=
  { status := .inProgress, bytesTransferred, totalBytes, errorMessage := none }

def completed (totalBytes : UInt64) : ScriptedStatus :=
  { status := .completed, bytesTransferred := totalBytes, totalBytes, errorMessage := none }

def failed (message : String) : ScriptedStatus :=
  { status := .failed, bytesTransferred := 0, totalBytes := 0, errorMessage := some message }

def toSession (operationId : String) (s : ScriptedStatus) : Session :=
  { operationId, status := s.status, bytesTransferred := s.bytesTransferred,
    totalBytes := s.totalBytes, errorMessage := s.errorMessage }

end ScriptedStatus

inductive SimulatedPayload where
  | whole (bytes : Bytes)
  /-- This many bytes, then a broken connection. -/
  | breakAfter (n : Nat)

structure SimulatedDevice where
  info : DeviceInfo
  titles : List Title
  script : List ScriptedStatus
  last : Option ScriptedStatus
  payload : SimulatedPayload
  rejectsExtraction : Bool
  unreachable : Bool
  latency : Nat
  /-- How many calls it has received, and how many extractions it has accepted. -/
  calls : Nat
  accepted : Nat

namespace SimulatedDevice

def scramble (x : UInt32) : UInt32 :=
  let x := x ^^^ (x <<< 13)
  let x := x ^^^ (x >>> 17)
  x ^^^ (x <<< 5)

def fabricateOnto (done : Bytes) (x : UInt32) : Nat → Bytes
  | 0 => done
  | words + 1 =>
    let x := scramble x
    fabricateOnto ((x >>> 24).toUInt8 :: (x >>> 16).toUInt8 :: (x >>> 8).toUInt8 :: x.toUInt8 :: done)
      x words

def fabricate (size : Nat) : Bytes :=
  (fabricateOnto (Bytes.ofString "PFS0").reverse 0x2545F491 ((size - 4 + 3) / 4)).reverse.take size

def demoSize : Nat := 512 * 1024

def demoTitles : List Title := [
  { titleId := "0100000000010000", name := "Super Mario 64", version := "1.0.0",
    size := demoSize.toUInt64, kind := .digital, extractable := true },
  { titleId := "0100000000020000", name := "F-Zero", version := "1.1.0", size := 256 * 1024,
    kind := .cartridge, extractable := true },
  { titleId := "0100000000030000", name := "System Menu", version := "15.0.0", size := 0,
    kind := .other, extractable := false }]

def demoScript : List ScriptedStatus :=
  let total := demoSize.toUInt64
  [.pending, .inProgress (total / 4) total, .inProgress (total / 2) total,
    .inProgress (total * 3 / 4) total, .completed total]

def infoOf (name version : String) : DeviceInfo :=
  .ofList [("name", name), ("version", version)]

def demo : SimulatedDevice :=
  { info := infoOf simulatedName simulatedVersion, titles := demoTitles, script := demoScript,
    last := none, payload := .whole (fabricate demoSize), rejectsExtraction := false,
    unreachable := false, latency := 0, calls := 0, accepted := 0 }

def download : SimulatedPayload → Download
  | .whole bytes =>
    { contentLength := some bytes.length
      stream := { bytes, chunk := none, delay := 0, ending := .finished } }
  | .breakAfter n =>
    { contentLength := none
      stream := { bytes := List.replicate n 0xAB, chunk := none, delay := 0
                  ending := .broken (.custom .connectionReset "device closed the connection") } }

/-- The status that is due. A script that was empty from the start completes at once. -/
def nextStatus (s : SimulatedDevice) : ScriptedStatus × SimulatedDevice :=
  match s.script with
  | status :: script => (status, { s with script, last := some status })
  | [] => (s.last.getD (.completed 0), s)

theorem nextStatus_cons {s : SimulatedDevice} {status : ScriptedStatus}
    {rest : List ScriptedStatus} (h : s.script = status :: rest) :
    s.nextStatus = (status, { s with script := rest, last := some status }) := by
  rw [nextStatus, h]

def start (s : SimulatedDevice) : SimulatedDevice := { s with calls := s.calls + 1 }

def operationId (n : Nat) : String := "sim-" ++ toString n

/-- The answer to a call, once the latency is over. -/
def answer (s : SimulatedDevice) (call : Call) : Answer × SimulatedDevice :=
  if s.unreachable then
    (call.failed (.unreachable ("no response from " ++ call.device.baseUrl)), s)
  else match call with
    | .info _ => (.info (.ok s.info), s)
    | .titles _ => (.titles (.ok s.titles), s)
    | .extract _ request =>
      if s.rejectsExtraction then
        (call.failed (.requestRejected
          ("/api/extract returned 400 Bad Request for " ++ request.titleId)), s)
      else if s.titles.any (·.titleId = request.titleId) then
        (.accepted (.ok (operationId (s.accepted + 1))), { s with accepted := s.accepted + 1 })
      else (call.failed (.requestRejected ("unknown title " ++ request.titleId)), s)
    | .status _ operationId =>
      let (status, s) := s.nextStatus
      (.status (.ok (status.toSession operationId)), s)
    | .download .. => (.download (.ok (download s.payload)), s)

end SimulatedDevice

end TitleDock
