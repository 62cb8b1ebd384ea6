import TitleDock.Device
import TitleDock.Text.Blank

/-! Beacon replies. A device answers a probe with `NXDUMP_RESPONSE|port|name|version`, further
fields and trailing line ends or NULs aside. The host is the sender's address and never part of the
reply. -/

namespace TitleDock

structure Reply where
  port : UInt16
  name : String
  version : String
deriving DecidableEq, Repr

namespace Reply

def marker : String := "NXDUMP_RESPONSE"

def isTrailer (c : Char) : Bool :=
  c = '\r' || c = '\n' || c.toNat = 0

/-- A port number other than zero, blanks around it aside. -/
def port? (cs : List Char) : Option UInt16 := do
  let n ← Decimal.unsigned? Decimal.largest16 (Text.trim cs)
  if n = 0 then none else some n.toUInt16

def ofText? (cs : List Char) : Option Reply :=
  match Text.splitOn '|' (Text.dropEndWhile isTrailer cs) with
  | head :: port :: name :: version :: _ =>
    if head = marker.toList then do
      let port ← port? port
      some { port, name := String.ofList name, version := String.ofList version }
    else none
  | _ => none

def ofDatagram? (bs : Bytes) : Option Reply :=
  (Utf8.decode? bs).bind ofText?

def text (r : Reply) : List Char :=
  marker.toList ++ '|' :: Decimal.digits r.port.toNat ++ '|' :: r.name.toList ++ '|' ::
    r.version.toList

def toDevice (r : Reply) (source : IpAddress) (now : Nat) : Device :=
  { address := .ofIp source r.port, name := r.name, version := r.version, lastSeen := now }

end Reply

end TitleDock
