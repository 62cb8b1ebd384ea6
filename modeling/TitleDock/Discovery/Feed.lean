import TitleDock.Discovery.Presence

/-! A feed of made-up sightings. Commands may be queued at any time and are carried out in order,
each once, while the feed runs. A feed starts once and stops for good. -/

namespace TitleDock

inductive DiscoveryStatus where
  | active
  | manualOnly
  | alreadyRunning
deriving DecidableEq, Repr

namespace DiscoveryStatus

def name : DiscoveryStatus → String
  | active => "Active"
  | manualOnly => "ManualOnly"
  | alreadyRunning => "AlreadyRunning"

end DiscoveryStatus

inductive FeedCommand where
  | announce (d : Device)
  | vanish (a : SocketAddress)
deriving DecidableEq, Repr

structure Feed where
  queue : List FeedCommand
  started : Bool
  stopped : Bool
deriving DecidableEq, Repr

namespace Feed

def new : Feed := { queue := [], started := false, stopped := false }

/-- Queues a sighting that carries the time of its announcement. -/
def announce (f : Feed) (now : Nat) (address : SocketAddress) (name version : String) : Feed :=
  { f with queue := f.queue ++ [.announce { address, name, version, lastSeen := now }] }

def vanish (f : Feed) (a : SocketAddress) : Feed :=
  { f with queue := f.queue ++ [.vanish a] }

def start (f : Feed) : DiscoveryStatus × Feed :=
  if f.started then (.alreadyRunning, f) else (.active, { f with started := true })

def stop (f : Feed) : Feed := { f with stopped := true }

def isRunning (f : Feed) : Bool := f.started && !f.stopped

def perform (now : Nat) (p : Presence) : FeedCommand → Presence
  | .announce d => (p.sight now d).2
  | .vanish a => (p.remove a).2

def settle (f : Feed) (now : Nat) (p : Presence) : Feed × Presence :=
  if f.isRunning then ({ f with queue := [] }, f.queue.foldl (perform now) p) else (f, p)

end Feed

def simulatedName : String := "Simulated NXDump"
def simulatedVersion : String := "0.0.0-sim"

inductive SimulationLine where
  | add (a : SocketAddress) (name : String)
  | rm (a : SocketAddress)
  | unknown
deriving DecidableEq, Repr

namespace SimulationLine

/-- A socket address, or a host that listens on the default port. -/
def address? (cs : List Char) : Option SocketAddress :=
  match SocketAddress.ofText? cs with
  | some a => some a
  | none => (IpAddress.ofText? cs).map fun ip => .ofIp ip defaultDevicePort.toUInt16

def parse (line : List Char) : SimulationLine :=
  match Text.words line with
  | verb :: target :: rest =>
    match address? target with
    | some a =>
      if verb = "add".toList then
        .add a ((rest.head?.map String.ofList).getD simulatedName)
      else if verb = "rm".toList then .rm a
      else .unknown
    | none => .unknown
  | _ => .unknown

def usage : String := "(Simulator) Use: 'add <ip[:port]> [name]' or 'rm <ip[:port]>'\n"

/-- Queues what the line asks for; the second part is what it prints. -/
def queue (now : Nat) (line : List Char) (f : Feed) : Feed × String :=
  match parse line with
  | .add a name => (f.announce now a name simulatedVersion, "")
  | .rm a => (f.vanish a, "")
  | .unknown => (f, usage)

end SimulationLine

def simulatedAddress : SocketAddress :=
  .v4 ⟨127, 0, 0, 1⟩ defaultDevicePort.toUInt16

def linesOf (cs : List Char) : List (List Char) :=
  let pieces := Text.splitOn '\n' cs
  if pieces.getLast? = some [] then pieces.dropLast else pieces

def simulationFeed (now : Nat) (instructions : String) : Feed × String :=
  (linesOf instructions.toList).foldl
    (fun (f, out) line =>
      let (f, more) := SimulationLine.queue now line f
      (f, out ++ more))
    (Feed.new.announce now simulatedAddress simulatedName simulatedVersion, "")

end TitleDock
