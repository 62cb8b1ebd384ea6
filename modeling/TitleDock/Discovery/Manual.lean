import TitleDock.Device
import TitleDock.DeviceInfo
import TitleDock.Fault
import TitleDock.Text.Blank

/-! Devices that are added by hand. Host and port are checked before anything is sent, and a device
that does not name itself gets a name. -/

namespace TitleDock

def defaultDevicePort : Nat := 8080

/-- The address that a host and a port number name; blanks around the host are ignored. -/
def manualAddress (host : String) (port : Nat) : Except Fault SocketAddress :=
  match IpAddress.ofText? (Text.trim host.toList) with
  | none => .error (.invalidAddress ("'" ++ host ++ "' is not a valid IP address"))
  | some ip =>
    if 1 ≤ port ∧ port ≤ Decimal.largest16 then .ok (.ofIp ip port.toUInt16)
    else .error (.invalidAddress ("port " ++ toString port ++ " is outside 1-65535"))

def unnamedDevice : String := "Unknown Device"
def unknownVersion : String := "Unknown"

def Device.probe (address : SocketAddress) (now : Nat) : Device :=
  { address, name := unnamedDevice, version := unknownVersion, lastSeen := now }

def Device.ofInfo (address : SocketAddress) (info : DeviceInfo) (now : Nat) : Device :=
  { address, name := (info.get? "name").getD unnamedDevice,
    version := (info.get? "version").getD unknownVersion, lastSeen := now }

def Fault.ofProbe (address : SocketAddress) (f : Fault) : Fault :=
  .connection ("Failed to connect to device at " ++ toString address ++ ": " ++ toString f)

end TitleDock
