import TitleDock.Discovery.Feed
import TitleDock.Discovery.Reply

/-! A run of discovery: the present devices, a feed, named observers and a clock, driven by one
action after the other. Sleeping moves the clock first; a running feed then catches up. -/

namespace TitleDock

structure DiscoveryRun where
  now : Nat
  presence : Presence
  feed : Feed
  /-- The observers by name, each with the number of the event that it wants next. -/
  observers : List (String × Cursor)

inductive DiscoveryAction where
  | upsert (address : SocketAddress) (name version : String)
  | sight (address : SocketAddress) (name version : String)
  | datagram (bytes : Bytes) (source : IpAddress)
  | remove (address : SocketAddress)
  | get (address : SocketAddress)
  | list
  | sleep (duration : Nat)
  | evict (maxAge : Nat)
  /-- Adds a device by hand; the device's answer to the info call comes after the latency. -/
  | add (host : String) (port : Nat) (latency : Nat) (answer : Except Fault DeviceInfo)
  | subscribe (observer : String)
  | unsubscribe (observer : String)
  | receive (observer : String) (most : Option Nat)
  | startFeed
  | stopFeed
  | announce (address : SocketAddress) (name version : String)
  | vanish (address : SocketAddress)
  | settle

inductive DiscoveryAnswer where
  | nothing
  | flag (b : Bool)
  | device (d : Option Device)
  | devices (ds : List Device)
  | received (items : List (Received RegistryEvent))
  | status (s : DiscoveryStatus)
  /-- The result of adding a device, and the address that was asked for its info, if any. -/
  | added (result : Except Fault Device) (asked : Option SocketAddress)

namespace DiscoveryRun

def new (capacity : Nat) : DiscoveryRun :=
  { now := 0, presence := .new capacity, feed := .new, observers := [] }

def deviceNow (r : DiscoveryRun) (address : SocketAddress) (name version : String) : Device :=
  { address, name, version, lastSeen := r.now }

def changed {α : Type} (r : DiscoveryRun) (f : α → DiscoveryAnswer) (result : α × Presence) :
    DiscoveryAnswer × DiscoveryRun :=
  (f result.1, { r with presence := result.2 })

def settled (r : DiscoveryRun) : DiscoveryRun :=
  let (feed, presence) := r.feed.settle r.now r.presence
  { r with feed, presence }

def setObserver (r : DiscoveryRun) (name : String) (next : Cursor) : DiscoveryRun :=
  { r with observers := (name, next) :: r.observers.filter (·.1 ≠ name) }

def receive (r : DiscoveryRun) (name : String) (most : Option Nat) :
    DiscoveryAnswer × DiscoveryRun :=
  match r.observers.lookup name with
  | none => (.received [], r)
  | some next =>
    let (items, next) := match most with
      | some most => r.presence.channel.receiveUpTo most next
      | none => r.presence.channel.drain next
    (.received items, r.setObserver name next)

def add (r : DiscoveryRun) (host : String) (port latency : Nat)
    (answer : Except Fault DeviceInfo) : DiscoveryAnswer × DiscoveryRun :=
  match manualAddress host port with
  | .error f => (.added (.error f) none, r)
  | .ok address =>
    let r := if latency = 0 then r else { r.settled with now := r.now + latency }
    r.changed (.added · (some address)) (r.presence.finishAdd r.now address answer)

def step (r : DiscoveryRun) : DiscoveryAction → DiscoveryAnswer × DiscoveryRun
  | .upsert a name version => r.changed .flag (r.presence.upsert (r.deviceNow a name version))
  | .sight a name version =>
    r.changed .flag (r.presence.sight r.now (r.deviceNow a name version))
  | .datagram bytes source =>
    match Reply.ofDatagram? bytes with
    | some reply => r.changed .flag (r.presence.sight r.now (reply.toDevice source r.now))
    | none => (.nothing, r)
  | .remove a => r.changed .flag (r.presence.remove a)
  | .get a => (.device (r.presence.known.get? a), r)
  | .list => (.devices r.presence.table, r)
  | .sleep duration => (.nothing, settled { r with now := r.now + duration })
  | .evict maxAge => r.changed .devices (r.presence.evict r.now maxAge)
  | .add host port latency answer => r.add host port latency answer
  | .subscribe name => (.nothing, r.setObserver name r.presence.channel.join)
  | .unsubscribe name =>
    (.flag (r.observers.lookup name).isSome,
      { r with observers := r.observers.filter (·.1 ≠ name) })
  | .receive name most => r.receive name most
  | .startFeed =>
    let (status, feed) := r.feed.start
    (.status status, { r with feed })
  | .stopFeed => (.nothing, { r with feed := r.feed.stop })
  | .announce a name version => (.nothing, { r with feed := r.feed.announce r.now a name version })
  | .vanish a => (.nothing, { r with feed := r.feed.vanish a })
  | .settle => (.nothing, r.settled)

def runAll (r : DiscoveryRun) : List DiscoveryAction → List DiscoveryAnswer × DiscoveryRun
  | [] => ([], r)
  | a :: rest =>
    let (answer, r) := r.step a
    let (answers, r) := r.runAll rest
    (answer :: answers, r)

end DiscoveryRun

end TitleDock
