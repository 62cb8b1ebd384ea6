import TitleDock.Discovery.Feed
import TitleDock.Discovery.Reply

/-! The beacon: a probe goes out and stale devices are dropped at every tick; replies are received
in between. A beacon that cannot bind its address leaves only devices added by hand. -/

namespace TitleDock

def probeMessage : String := "FRIISH_DISCOVER"

def discoveryPort : Nat := 8765

structure BeaconConfig where
  bind : SocketAddress
  broadcast : SocketAddress
  probeSeconds : Nat
  staleSeconds : Nat
deriving DecidableEq, Repr

namespace BeaconConfig

def standard : BeaconConfig :=
  { bind := .v4 ⟨0, 0, 0, 0⟩ discoveryPort.toUInt16
    broadcast := .v4 ⟨255, 255, 255, 255⟩ discoveryPort.toUInt16
    probeSeconds := 5
    staleSeconds := 30 }

end BeaconConfig

inductive BeaconInput where
  | tick
  | datagram (source : SocketAddress) (bytes : Bytes)

namespace Beacon

/-- Longer datagrams are cut. -/
def maxDatagram : Nat := 2048

def sweep (staleAfter now : Nat) (p : Presence) : Presence :=
  (p.evict now staleAfter).2

/-- A datagram that is no reply changes nothing. A device has the host of the sender and the port
that its reply names. -/
def hear (now : Nat) (source : SocketAddress) (bytes : Bytes) (p : Presence) : Presence :=
  match Reply.ofDatagram? (bytes.take maxDatagram) with
  | some reply => (p.sight now (reply.toDevice source.ip now)).2
  | none => p

def step (staleAfter : Nat) (p : Presence) : Nat × BeaconInput → Presence
  | (now, .tick) => sweep staleAfter now p
  | (now, .datagram source bytes) => hear now source bytes p

def run (staleAfter : Nat) (inputs : List (Nat × BeaconInput)) (p : Presence) : Presence :=
  inputs.foldl (step staleAfter) p

/-- Starting a beacon: `bound` is its own address while it runs, `free` says whether the address can
be bound. -/
def start (config : BeaconConfig) (free : Bool) (bound : Option SocketAddress) :
    DiscoveryStatus × Option SocketAddress :=
  match bound with
  | some a => (.alreadyRunning, some a)
  | none => if free then (.active, some config.bind) else (.manualOnly, none)

end Beacon

end TitleDock
