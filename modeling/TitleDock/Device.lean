import TitleDock.Net.Socket

/-! A dump device on the local network. `lastSeen` is the time of its last sighting, in milliseconds
on the clock of the run. -/

namespace TitleDock

structure Device where
  address : SocketAddress
  name : String
  version : String
  lastSeen : Nat
deriving DecidableEq, Repr

namespace Device

/-- The root of the device's web interface. An IPv6 host stands in brackets. -/
def baseUrl (d : Device) : String :=
  "http://" ++ toString d.address

/-- The time since the last sighting; a sighting in the future counts as now. -/
def age (now : Nat) (d : Device) : Nat := now - d.lastSeen

end Device

end TitleDock
