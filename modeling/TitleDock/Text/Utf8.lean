/-! Bytes and text. `Utf8.encode` writes each scalar value in its shortest form, and `Utf8.decode?`
accepts exactly what `encode` writes: stray continuation bytes, overlong forms, surrogates and
values beyond U+10FFFF are refused. -/

namespace TitleDock

abbrev Bytes := List UInt8

namespace Utf8

def scalar? (n : Nat) : Option Char :=
  if h : n.isValidChar then some (Char.ofNatAux n h) else none

def encodeChar (c : Char) : Bytes :=
  let n := c.toNat
  if n < 0x80 then [n.toUInt8]
  else if n < 0x800 then [(0xC0 + n / 0x40).toUInt8, (0x80 + n % 0x40).toUInt8]
  else if n < 0x10000 then
    [(0xE0 + n / 0x1000).toUInt8, (0x80 + n / 0x40 % 0x40).toUInt8, (0x80 + n % 0x40).toUInt8]
  else
    [(0xF0 + n / 0x40000).toUInt8, (0x80 + n / 0x1000 % 0x40).toUInt8,
      (0x80 + n / 0x40 % 0x40).toUInt8, (0x80 + n % 0x40).toUInt8]

def encode (cs : List Char) : Bytes :=
  cs.flatMap encodeChar

def continuation? (b : UInt8) : Option Nat :=
  if 0x80 ≤ b.toNat ∧ b.toNat < 0xC0 then some (b.toNat - 0x80) else none

def atLeast? (least n : Nat) : Option Char :=
  if least ≤ n then scalar? n else none

def next? : Bytes → Option (Char × Bytes)
  | [] => none
  | b :: r =>
    let n := b.toNat
    if n < 0x80 then
      (scalar? n).map (·, r)
    else if n < 0xC0 then none
    else if n < 0xE0 then
      match r with
      | x :: r => do
        let x ← continuation? x
        let c ← atLeast? 0x80 ((n - 0xC0) * 0x40 + x)
        some (c, r)
      | _ => none
    else if n < 0xF0 then
      match r with
      | x :: y :: r => do
        let x ← continuation? x
        let y ← continuation? y
        let c ← atLeast? 0x800 ((n - 0xE0) * 0x1000 + x * 0x40 + y)
        some (c, r)
      | _ => none
    else if n < 0xF8 then
      match r with
      | x :: y :: z :: r => do
        let x ← continuation? x
        let y ← continuation? y
        let z ← continuation? z
        let c ← atLeast? 0x10000 ((n - 0xF0) * 0x40000 + x * 0x1000 + y * 0x40 + z)
        some (c, r)
      | _ => none
    else none

theorem length_of_next? {bs r : Bytes} {c : Char} (h : next? bs = some (c, r)) :
    r.length < bs.length := by
  unfold next? at h
  split at h
  · simp at h
  · dsimp only at h
    repeat' split at h
    all_goals
      first
        | (simp at h; done)
        | (simp [Option.map_eq_some_iff, Option.bind_eq_some_iff] at h
           simp only [List.length_cons]
           grind)

/-- Reads the characters of `bs` onto `done`, which holds the earlier ones in reverse. -/
def decodeOnto (done : List Char) (bs : Bytes) : Option (List Char) :=
  match h : next? bs with
  | some (c, r) =>
    have := length_of_next? h
    decodeOnto (c :: done) r
  | none => if bs.isEmpty then some done.reverse else none
termination_by bs.length

def decode? (bs : Bytes) : Option (List Char) :=
  decodeOnto [] bs

end Utf8

def Bytes.ofString (s : String) : Bytes :=
  Utf8.encode s.toList

def Bytes.text? (bs : Bytes) : Option String :=
  (Utf8.decode? bs).map String.ofList

end TitleDock
