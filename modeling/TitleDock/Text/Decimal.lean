import TitleDock.Text.Utf8

/-! Natural numbers as text. A reader takes one or more ASCII digits, leading zeros allowed, and
names the largest value it accepts; `unsigned?` also takes a plus sign in front. -/

namespace TitleDock.Decimal

def digit? (radix : Nat) (c : Char) : Option Nat :=
  let d :=
    if '0' ≤ c ∧ c ≤ '9' then some (c.toNat - '0'.toNat)
    else if 'a' ≤ c ∧ c ≤ 'z' then some (c.toNat - 'a'.toNat + 10)
    else if 'A' ≤ c ∧ c ≤ 'Z' then some (c.toNat - 'A'.toNat + 10)
    else none
  d.filter (· < radix)

def onto (radix acc : Nat) : List Char → Option Nat
  | [] => some acc
  | c :: r => do
    let d ← digit? radix c
    onto radix (acc * radix + d) r

def natural? (radix : Nat) : List Char → Option Nat
  | [] => none
  | cs => onto radix 0 cs

/-- A decimal number up to `most`, after an optional plus sign. -/
def unsigned? (most : Nat) (cs : List Char) : Option Nat :=
  let digits := match cs with
    | '+' :: r => r
    | r => r
  (natural? 10 digits).filter (· ≤ most)

def digits (n : Nat) : List Char :=
  Nat.toDigits 10 n

def hexDigits (n : Nat) : List Char :=
  Nat.toDigits 16 n

def hexPadded (width n : Nat) : List Char :=
  let ds := hexDigits n
  List.replicate (width - ds.length) '0' ++ ds

def hexOfBytes (bs : Bytes) : String :=
  String.ofList (bs.flatMap fun b => hexPadded 2 b.toNat)

def largest16 : Nat := 0xFFFF

def largest32 : Nat := 0xFFFFFFFF

def largest64 : Nat := 0xFFFFFFFFFFFFFFFF

end TitleDock.Decimal
