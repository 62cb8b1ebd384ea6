import TitleDock.Command.Errand
import TitleDock.Remote.Canned
import TitleDock.Remote.Simulated

/-! The course of an errand: who answers its calls, and what it gets for everything else it waits
for. Time passes with the latency of calls and with the rests between them. -/

namespace TitleDock

inductive Peer where
  | network (d : CannedDevice)
  | simulated (d : SimulatedDevice)

namespace Peer

def answer (p : Peer) (c : Call) : Answer × Option LogRecord × Peer :=
  match p with
  | network d =>
    let (a, record, d) := d.answer c
    (a, record, network d)
  | simulated d =>
    let (a, d) := d.start.answer c
    (a, none, simulated d)

def latency : Peer → Nat
  | network _ => 0
  | simulated d => d.latency

end Peer

structure Course where
  now : Nat
  errand : Errand
  peer : Peer
  /-- What is left of the download. -/
  stream : PayloadStream

namespace Course

def start (now : Nat) (errand : Errand) (peer : Peer) : Course :=
  { now, errand, peer, stream := { bytes := [], chunk := none, delay := 0, ending := .finished } }

/-- One step of the errand, unless it is over or waits for what never comes. -/
def advance? (c : Course) : Option Course :=
  match c.errand.stage.await? c.now with
  | none => none
  | some (.answer call) =>
    let (a, record, peer) := c.peer.answer call
    let errand := record.toList.foldl Errand.record c.errand
    let now := c.now + peer.latency
    let stream := match a with
      | .download (.ok d) => d.stream
      | _ => c.stream
    some { now, errand := errand.resume now (.answer a), peer, stream }
  | some .rest =>
    let now := c.now + c.errand.settings.pollIntervalMs
    some { c with now, errand := c.errand.resume now .rested }
  | some .piece =>
    match c.stream.read with
    | (some p, stream) => some { c with stream, errand := c.errand.resume c.now (.piece p) }
    | (none, _) => none
  | some (.content payload _) =>
    some { c with errand := c.errand.resume c.now (.decoded (RawCodec.ofRead (.ok payload))) }
  | some .storage => some { c with errand := c.errand.resume c.now .stored }

def run : Nat → Course → Course
  | 0, c => c
  | fuel + 1, c =>
    match c.advance? with
    | some c => run fuel c
    | none => c

def patience : Nat := 1000000

end Course

end TitleDock
