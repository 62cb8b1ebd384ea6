/-! A nonnegative binary floating-point number with one decimal. The exact value is rounded to the
nearest tenth, and a value half-way between two tenths goes to the even one. -/

namespace TitleDock.Tenths

/-- The nearest natural number to a quotient; a tie goes to the even one. -/
def roundDiv (num den : Nat) : Nat :=
  let q := num / den
  let r := num % den
  if 2 * r < den then q
  else if den < 2 * r then q + 1
  else if q % 2 = 0 then q else q + 1

/-- The tenths nearest to the number with the given IEEE 754 double-precision bits; the sign is left
aside. -/
def ofBits (bits : UInt64) : Nat :=
  let exponent := bits.toNat / 0x10000000000000 % 0x800
  let fraction := bits.toNat % 0x10000000000000
  let (m, e) := if exponent = 0 then (fraction, 1) else (fraction + 0x10000000000000, exponent)
  if 1075 ≤ e then m * 10 * Nat.pow 2 (e - 1075) else roundDiv (m * 10) (Nat.pow 2 (1075 - e))

def text (x : Float) : String :=
  let t := ofBits x.toBits
  toString (t / 10) ++ "." ++ toString (t % 10)

end TitleDock.Tenths
