import TitleDock.Net.Ip

/-! Socket addresses: a host, a port and, for IPv6, a numeric scope that is written only when it is
not zero. `code` numbers them in the order in which devices are listed: IPv4 first, then by host,
port and scope. -/

namespace TitleDock

inductive SocketAddress where
  | v4 (ip : Ipv4) (port : UInt16)
  | v6 (ip : Ipv6) (port : UInt16) (scope : UInt32)
deriving DecidableEq, Repr

namespace SocketAddress

def ofIp (ip : IpAddress) (port : UInt16) : SocketAddress :=
  match ip with
  | .v4 ip => .v4 ip port
  | .v6 ip => .v6 ip port 0

def ip : SocketAddress → IpAddress
  | .v4 ip _ => .v4 ip
  | .v6 ip _ _ => .v6 ip

def port : SocketAddress → UInt16
  | .v4 _ port => port
  | .v6 _ port _ => port

def isV6 : SocketAddress → Bool
  | .v4 .. => false
  | .v6 .. => true

def code : SocketAddress → Nat
  | .v4 ip port => ip.toNat * 0x10000 + port.toNat
  | .v6 ip port scope => 0x1000000000000 + ((ip.toNat * 0x10000 + port.toNat) * 0x100000000 + scope.toNat)

/-- A number up to `most` that is all of the text; leading zeros are allowed. -/
def number? (most : Nat) (cs : List Char) : Option Nat :=
  (Decimal.natural? 10 cs).filter (· ≤ most)

def port? : List Char → Option UInt16
  | ':' :: r => (number? Decimal.largest16 r).map Nat.toUInt16
  | _ => none

def scopeAndPort? : List Char → Option (UInt32 × UInt16)
  | ']' :: r => (port? r).map fun port => (0, port)
  | '%' :: r => do
    let scope ← number? Decimal.largest32 (r.takeWhile (· ≠ ']'))
    match r.dropWhile (· ≠ ']') with
    | ']' :: r => (port? r).map fun port => (scope.toUInt32, port)
    | _ => none
  | _ => none

def ofText? (cs : List Char) : Option SocketAddress :=
  match cs with
  | '[' :: r => do
    let (ip, r) ← Ipv6.take? r
    let (scope, port) ← scopeAndPort? r
    some (.v6 ip port scope)
  | _ => do
    let (ip, r) ← Ipv4.take? cs
    let port ← port? r
    some (.v4 ip port)

def text : SocketAddress → List Char
  | .v4 ip port => ip.text ++ ':' :: Decimal.digits port.toNat
  | .v6 ip port scope =>
    let zone := if scope = 0 then [] else '%' :: Decimal.digits scope.toNat
    '[' :: ip.text ++ zone ++ ']' :: ':' :: Decimal.digits port.toNat

instance : ToString SocketAddress where
  toString a := String.ofList a.text

end SocketAddress

end TitleDock
