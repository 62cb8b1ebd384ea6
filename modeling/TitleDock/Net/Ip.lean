import TitleDock.Text.Decimal

/-! Internet addresses and their text. IPv4 is four decimal numbers without leading zeros. IPv6 is
written in lower-case groups with the first longest run of two or more zero groups compressed and
IPv4-mapped addresses in dotted form; every valid spelling is read. -/

namespace TitleDock

structure Ipv4 where
  a : UInt8
  b : UInt8
  c : UInt8
  d : UInt8
deriving DecidableEq, Repr

structure Ipv6 where
  groups : List UInt16
  length_groups : groups.length = 8
deriving DecidableEq, Repr

inductive IpAddress where
  | v4 (ip : Ipv4)
  | v6 (ip : Ipv6)
deriving DecidableEq, Repr

namespace Ipv4

def toNat (ip : Ipv4) : Nat :=
  ((ip.a.toNat * 256 + ip.b.toNat) * 256 + ip.c.toNat) * 256 + ip.d.toNat

/-- A run of one to three digits, without a leading zero unless it is `0`. -/
def octet? (cs : List Char) : Option (UInt8 × List Char) :=
  let run := cs.takeWhile fun c => (Decimal.digit? 10 c).isSome
  let rest := cs.dropWhile fun c => (Decimal.digit? 10 c).isSome
  if 3 < run.length ∨ (1 < run.length ∧ run.head? = some '0') then none
  else match Decimal.natural? 10 run with
    | some n => if n < 256 then some (n.toUInt8, rest) else none
    | none => none

def dot? : List Char → Option (List Char)
  | '.' :: r => some r
  | _ => none

def take? (cs : List Char) : Option (Ipv4 × List Char) := do
  let (a, r) ← octet? cs
  let (b, r) ← octet? (← dot? r)
  let (c, r) ← octet? (← dot? r)
  let (d, r) ← octet? (← dot? r)
  some (⟨a, b, c, d⟩, r)

def text (ip : Ipv4) : List Char :=
  Decimal.digits ip.a.toNat ++ '.' :: Decimal.digits ip.b.toNat ++ '.' ::
    Decimal.digits ip.c.toNat ++ '.' :: Decimal.digits ip.d.toNat

def groups (ip : Ipv4) : List UInt16 :=
  [(ip.a.toNat * 256 + ip.b.toNat).toUInt16, (ip.c.toNat * 256 + ip.d.toNat).toUInt16]

def ofGroups (high low : UInt16) : Ipv4 :=
  ⟨(high.toNat / 256).toUInt8, (high.toNat % 256).toUInt8,
    (low.toNat / 256).toUInt8, (low.toNat % 256).toUInt8⟩

end Ipv4

namespace Ipv6

def ofGroups? (gs : List UInt16) : Option Ipv6 :=
  if h : gs.length = 8 then some ⟨gs, h⟩ else none

def toNat (ip : Ipv6) : Nat :=
  ip.groups.foldl (fun n g => n * 65536 + g.toNat) 0

def colon? : List Char → Option (List Char)
  | ':' :: r => some r
  | _ => none

def group? (cs : List Char) : Option (UInt16 × List Char) :=
  let run := cs.takeWhile fun c => (Decimal.digit? 16 c).isSome
  let rest := cs.dropWhile fun c => (Decimal.digit? 16 c).isSome
  if 4 < run.length then none
  else (Decimal.natural? 16 run).map fun n => (n.toUInt16, rest)

/-- Up to `room` groups at the front of the text, each after a colon unless it is the `first`. An
IPv4 address may end the row, in place of two groups; the flag says that it did. -/
def takeGroups (first : Bool) : Nat → List Char → List UInt16 × Bool × List Char
  | 0, cs => ([], false, cs)
  | room + 1, cs =>
    match if first then some cs else colon? cs with
    | none => ([], false, cs)
    | some body =>
      match if room = 0 then none else Ipv4.take? body with
      | some (ip, r) => (ip.groups, true, r)
      | none =>
        match group? body with
        | none => ([], false, cs)
        | some (g, r) =>
          let (gs, dotted, r) := takeGroups false room r
          (g :: gs, dotted, r)

/-- An address at the front of the text, with what follows it. A double colon stands for at least
one group, and an IPv4 address only ever comes last. -/
def take? (cs : List Char) : Option (Ipv6 × List Char) := do
  let (front, dotted, r) := takeGroups true 8 cs
  if front.length = 8 then
    return (← ofGroups? front, r)
  if dotted then none
  let r ← colon? (← colon? r)
  let (back, _, r) := takeGroups true (7 - front.length) r
  let ip ← ofGroups? (front ++ List.replicate (8 - front.length - back.length) 0 ++ back)
  return (ip, r)

def zeroRun : List UInt16 → Nat × Nat
  | [] => (0, 0)
  | g :: r =>
    let here := ((g :: r).takeWhile (· = 0)).length
    let (start, length) := zeroRun r
    if length ≤ here then (0, here) else (start + 1, length)

def joinGroups : List UInt16 → List Char
  | [] => []
  | [g] => Decimal.hexDigits g.toNat
  | g :: r => Decimal.hexDigits g.toNat ++ ':' :: joinGroups r

def mapped? (ip : Ipv6) : Option Ipv4 :=
  match ip.groups with
  | [0, 0, 0, 0, 0, 0xFFFF, high, low] => some (Ipv4.ofGroups high low)
  | _ => none

/-- All groups in hexadecimal, also of an IPv4-mapped address. -/
def groupText (ip : Ipv6) : List Char :=
  let (start, length) := zeroRun ip.groups
  if length ≤ 1 then joinGroups ip.groups
  else joinGroups (ip.groups.take start) ++ ':' :: ':' :: joinGroups (ip.groups.drop (start + length))

def text (ip : Ipv6) : List Char :=
  match ip.mapped? with
  | some v4 => [':', ':', 'f', 'f', 'f', 'f', ':'] ++ v4.text
  | none => ip.groupText

end Ipv6

namespace IpAddress

def ofText? (cs : List Char) : Option IpAddress :=
  match Ipv4.take? cs with
  | some (ip, r) => if r.isEmpty then some (.v4 ip) else none
  | none =>
    match Ipv6.take? cs with
    | some (ip, r) => if r.isEmpty then some (.v6 ip) else none
    | none => none

def text : IpAddress → List Char
  | .v4 ip => ip.text
  | .v6 ip => ip.text

instance : ToString IpAddress where
  toString ip := String.ofList ip.text

end IpAddress

end TitleDock
