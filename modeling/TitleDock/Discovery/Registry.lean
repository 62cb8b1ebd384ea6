import TitleDock.Device

/-! The known devices, each under its address. Every change tells which devices became known and
which were lost, in the order in which it happened. Devices are listed in the order of their
addresses. -/

namespace TitleDock

inductive RegistryEvent where
  | discovered (d : Device)
  | lost (d : Device)
deriving DecidableEq, Repr

/-- Devices under their addresses. Where an entry stands in the list means nothing. -/
abbrev DeviceMap := List (SocketAddress × Device)

/-- What a change leaves behind: the devices, the events it caused, and its answer. -/
structure Change (α : Type) where
  map : DeviceMap
  events : List RegistryEvent
  answer : α

namespace DeviceMap

def get? (a : SocketAddress) (m : DeviceMap) : Option Device :=
  m.lookup a

def isKnown (a : SocketAddress) (m : DeviceMap) : Bool :=
  (m.get? a).isSome

def erase (a : SocketAddress) (m : DeviceMap) : DeviceMap :=
  m.filter (·.1 ≠ a)

def put (a : SocketAddress) (d : Device) (m : DeviceMap) : DeviceMap :=
  let others := m.erase a
  others.takeWhile (·.1.code < a.code) ++ (a, d) :: others.dropWhile (·.1.code < a.code)

def size (m : DeviceMap) : Nat := m.length

def isEmpty (m : DeviceMap) : Bool := List.isEmpty m

def list (m : DeviceMap) : List Device :=
  (m.map (·.2)).mergeSort fun d e => d.address.code ≤ e.address.code

/-- Stores a device as it is given. The answer is whether its address was unknown. -/
def upsert (d : Device) (m : DeviceMap) : Change Bool :=
  { map := m.put d.address d
    events := if m.isKnown d.address then [] else [.discovered d]
    answer := !m.isKnown d.address }

/-- Refreshes a known device at the present time, or stores a new one as it is given. -/
def sight (now : Nat) (d : Device) (m : DeviceMap) : Change Bool :=
  match m.get? d.address with
  | some known =>
    { map := m.put d.address { known with lastSeen := now, name := d.name, version := d.version }
      events := [], answer := false }
  | none => { map := m.put d.address d, events := [.discovered d], answer := true }

def remove (a : SocketAddress) (m : DeviceMap) : Change Bool :=
  match m.get? a with
  | some d => { map := m.erase a, events := [.lost d], answer := true }
  | none => { map := m, events := [], answer := false }

def lose (c : Change (List Device)) (a : SocketAddress) : Change (List Device) :=
  match c.map.get? a with
  | some d =>
    { map := c.map.erase a, events := c.events ++ [.lost d], answer := c.answer ++ [d] }
  | none => c

/-- Drops every device that was not seen for longer than `maxAge`. -/
def evict (now maxAge : Nat) (m : DeviceMap) : Change (List Device) :=
  let stale := (m.filter fun e => maxAge < e.2.age now).map (·.2.address)
  stale.foldl lose { map := m, events := [], answer := [] }

end DeviceMap

end TitleDock
