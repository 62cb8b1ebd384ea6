import TitleDock.Fault
import TitleDock.Net.Socket

/-! Where a request goes: a device and a path below it. The parts of a path are written so that no
text of a device can add a part, a query or a fragment: every other byte than the plain ones becomes
a percent sign and two digits. -/

namespace TitleDock

structure Endpoint where
  address : SocketAddress
  /-- The parts of the path, as they are written. -/
  parts : List String
deriving DecidableEq, Repr

namespace Endpoint

def upperDigit (n : Nat) : Char :=
  if n < 10 then Char.ofNat (0x30 + n) else Char.ofNat (0x37 + n)

def isPlain (b : UInt8) : Bool :=
  let n := b.toNat
  0x21 ≤ n && n ≤ 0x7E &&
    !("\"#%/<>?\\`\x7b\x7d".toList.any fun c => c.toNat == n)

def encodeByte (b : UInt8) : List Char :=
  if isPlain b then [Char.ofNat b.toNat]
  else ['%', upperDigit (b.toNat / 16), upperDigit (b.toNat % 16)]

def encode (cs : List Char) : String :=
  String.ofList ((Utf8.encode cs).flatMap encodeByte)

def isSkipped (c : Char) : Bool := c = '\t' ∨ c = '\n' ∨ c = '\r'

/-- Puts a part at the end of a path. One or two points alone add nothing; when they only come about
by leaving out characters, one ends the path in an empty part, and two do so in place of the last
part. -/
def push (parts : List String) (part : String) : List String :=
  if part = "." ∨ part = ".." then parts
  else
    let kept := part.toList.filter fun c => !isSkipped c
    if kept = ['.'] then parts ++ [""]
    else if kept = ['.', '.'] then parts.dropLast ++ [""]
    else parts ++ [encode kept]

/-- The endpoint at the given parts below the interface of a device. A host with a scope cannot be
written in an address of the web. -/
def below (a : SocketAddress) (parts : List String) : Except Fault Endpoint :=
  match a with
  | .v6 _ _ scope =>
    if scope = 0 then .ok { address := a, parts := parts.foldl push ["api"] }
    else .error (.invalidAddress (toString a ++ ": invalid IPv6 address"))
  | .v4 .. => .ok { address := a, parts := parts.foldl push ["api"] }

def path (e : Endpoint) : String := "/" ++ "/".intercalate e.parts

def host : SocketAddress → String
  | .v4 ip _ => String.ofList ip.text
  | .v6 ip _ _ => "[" ++ String.ofList ip.groupText ++ "]"

def url (e : Endpoint) : String :=
  "http://" ++ host e.address ++
    (if e.address.port = 80 then "" else ":" ++ toString e.address.port.toNat) ++ e.path

end Endpoint

end TitleDock
