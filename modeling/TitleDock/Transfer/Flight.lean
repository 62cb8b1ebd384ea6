import TitleDock.Event.Log
import TitleDock.Files.Disk
import TitleDock.Remote.Client
import TitleDock.Stream.Codec
import TitleDock.Stream.Progress

/-! A call on a dock that is under way: connecting to a device, or fetching a title from it. It is
always waiting for one thing, and its stage says which. -/

namespace TitleDock

/-- A token that cancels: one that a caller holds, or the one of a single fetch, which a caller's
token covers. -/
inductive Token where
  | caller (name : String)
  | fetch (serial : Nat) (parent : String)
deriving DecidableEq, Repr

structure FetchTarget where
  output : String
  platform : Platform
deriving DecidableEq, Repr

structure FetchOutcome where
  operationId : String
  output : String
  /-- How much was received from the device. -/
  payloadBytes : Nat
  /-- How much was written. -/
  contentBytes : Nat
  digest : String
deriving DecidableEq, Repr

/-- A fetch that was let in, with the generation of the connection that it belongs to. -/
structure Job where
  ticket : Nat
  token : Token
  device : Device
  generation : Nat
  title : Title
  target : FetchTarget
  request : ExtractionRequest
deriving DecidableEq, Repr

/-- A payload as far as it has been received, last piece first. -/
structure Reception where
  spool : Files.Place
  /-- The size that the device promises, or zero. -/
  total : Nat
  pieces : List Bytes
  progress : Progress
deriving DecidableEq, Repr

namespace Reception

def start (spool : Files.Place) (total : Nat) : Reception :=
  { spool, total, pieces := [], progress := .start }

def payload (r : Reception) : Bytes := r.pieces.reverse.flatten

end Reception

structure Parcel where
  session : Session
  spool : Files.Place
  payload : Bytes
  content : Bytes
deriving DecidableEq, Repr

inductive Stage where
  | requesting
  | resting (operationId : String) (last : SessionStatus)
  | polling (operationId : String) (last : SessionStatus)
  | opening (session : Session)
  | receiving (session : Session) (r : Reception)
  /-- The payload has ended and is on its way to the disk. -/
  | flushing (session : Session) (r : Reception)
  | decoding (session : Session) (spool : Files.Place) (payload : Bytes)
  /-- The folders of the output are made, unless that was refused. -/
  | placing (p : Parcel) (refused : Option SystemError)
  /-- The content is on its way to the part. -/
  | filling (p : Parcel) (part : Files.Place)
deriving DecidableEq, Repr

inductive Flight where
  | connecting (ticket : Nat) (device : Device) (generation : Nat)
  | fetching (job : Job) (stage : Stage)
deriving DecidableEq, Repr

inductive Await where
  | answer (c : Call)
  | rest
  | piece
  | content (payload : Bytes) (platform : Platform)
  /-- For the disk. -/
  | storage
deriving DecidableEq, Repr

/-- What can come in for a flight. A piece is an error also if it cannot be written to the spool;
with `stored` the disk has done its work, or finds that it cannot; `woken` only makes the flight
look at its token. -/
inductive Arrival where
  | answer (a : Answer)
  | rested
  | piece (r : Except SystemError Bytes)
  | decoded (r : Except CodecError Bytes)
  | stored
  | woken

namespace Stage

def await (job : Job) : Stage → Await
  | .requesting => .answer (.extract job.device job.request)
  | .resting .. => .rest
  | .polling operationId _ => .answer (.status job.device operationId)
  | .opening session => .answer (.download job.device session.operationId)
  | .receiving .. => .piece
  | .decoding _ _ payload => .content payload job.target.platform
  | .flushing .. | .placing .. | .filling .. => .storage

/-- The temporary files that exist at a stage, in the order in which they are removed. -/
def temporaries : Stage → List Files.Place
  | .requesting | .resting .. | .polling .. | .opening _ => []
  | .receiving _ r | .flushing _ r => [r.spool]
  | .decoding _ spool _ => [spool]
  | .placing p _ => [p.spool]
  | .filling p part => [part, p.spool]

end Stage

def Flight.await : Flight → Await
  | .connecting _ device _ => .answer (.titles device)
  | .fetching job stage => stage.await job

inductive CallResult where
  | connected (r : Except Fault Nat)
  | fetched (r : Except Fault FetchOutcome)

inductive Note where
  | event (e : TransferEvent)
  | record (r : LogRecord)
  /-- A flight starts to wait. -/
  | awaits (a : Await)
  /-- The span of a fetch that was let in ends. -/
  | spanClosed
  | returned (ticket : Nat) (r : CallResult)

end TitleDock
