import TitleDock.Discovery.Channel
import TitleDock.Discovery.Manual
import TitleDock.Discovery.Registry

/-! Who is present: the known devices together with the channel on which observers hear of changes.
Events are sent as part of the change, so observers hear of them in the order of the changes. -/

namespace TitleDock

structure Presence where
  known : DeviceMap
  channel : Channel RegistryEvent

namespace Presence

def defaultCapacity : Nat := 64

def new (capacity : Nat) : Presence :=
  { known := [], channel := .new capacity }

def table (p : Presence) : List Device := p.known.list

def apply {α : Type} (p : Presence) (change : DeviceMap → Change α) : α × Presence :=
  let c := change p.known
  (c.answer, { known := c.map, channel := p.channel.sendAll c.events })

def upsert (p : Presence) (d : Device) : Bool × Presence := p.apply (DeviceMap.upsert d)

def sight (p : Presence) (now : Nat) (d : Device) : Bool × Presence := p.apply (DeviceMap.sight now d)

def remove (p : Presence) (a : SocketAddress) : Bool × Presence := p.apply (DeviceMap.remove a)

def evict (p : Presence) (now maxAge : Nat) : List Device × Presence :=
  p.apply (DeviceMap.evict now maxAge)

/-- The end of adding a device by hand, when the answer to the info call arrives. Nothing changes if
the call failed. -/
def finishAdd (p : Presence) (now : Nat) (address : SocketAddress)
    (answer : Except Fault DeviceInfo) : Except Fault Device × Presence :=
  match answer with
  | .error f => (.error (.ofProbe address f), p)
  | .ok info =>
    let d := Device.ofInfo address info now
    (.ok d, (p.upsert d).2)

end Presence

end TitleDock
