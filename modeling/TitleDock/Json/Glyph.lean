import TitleDock.Text.Decimal

/-! The inside of a JSON string as it is spelled: bytes that stand for themselves, letter escapes
and UTF-16 code unit escapes. `text?` says what a spelling means, and refuses surrogates that are
not paired and bytes that are not UTF-8; `ofText` is the spelling that is written. -/

namespace TitleDock.Json

inductive Glyph where
  | byte (b : UInt8)
  | letter (b : UInt8)
  | unit (n : Nat)
deriving DecidableEq, Repr

namespace Glyph

def quote : UInt8 := 0x22
def backslash : UInt8 := 0x5C

def meaning? (b : UInt8) : Option UInt8 :=
  if b = 0x22 ∨ b = 0x5C ∨ b = 0x2F then some b
  else if b = 0x62 then some 0x08
  else if b = 0x66 then some 0x0C
  else if b = 0x6E then some 0x0A
  else if b = 0x72 then some 0x0D
  else if b = 0x74 then some 0x09
  else none

def isControl (b : UInt8) : Bool := b < 0x20

def isPlain (b : UInt8) : Bool :=
  !isControl b && b ≠ quote && b ≠ backslash

def hexDigit? (b : UInt8) : Option Nat :=
  Decimal.digit? 16 (Char.ofNat b.toNat)

def unit? (a b c d : UInt8) : Option Nat := do
  let a ← hexDigit? a
  let b ← hexDigit? b
  let c ← hexDigit? c
  let d ← hexDigit? d
  some (((a * 16 + b) * 16 + c) * 16 + d)

def isHigh (n : Nat) : Bool := 0xD800 ≤ n && n < 0xDC00
def isLow (n : Nat) : Bool := 0xDC00 ≤ n && n < 0xE000

def bytes? : List Glyph → Option Bytes
  | [] => some []
  | .byte b :: r => (bytes? r).map (b :: ·)
  | .letter b :: r => do
    let b ← meaning? b
    (bytes? r).map (b :: ·)
  | [.unit n] => (Utf8.scalar? n).map Utf8.encodeChar
  | .unit n :: .unit m :: r =>
    if isHigh n then
      if isLow m then do
        let c ← Utf8.scalar? (0x10000 + (n - 0xD800) * 0x400 + (m - 0xDC00))
        (bytes? r).map (Utf8.encodeChar c ++ ·)
      else none
    else do
      let c ← Utf8.scalar? n
      (bytes? (.unit m :: r)).map (Utf8.encodeChar c ++ ·)
  | .unit n :: g :: r => do
    let c ← Utf8.scalar? n
    (bytes? (g :: r)).map (Utf8.encodeChar c ++ ·)

def text? (gs : List Glyph) : Option String := do
  (← bytes? gs).text?

/-- Quotes, backslashes and control characters are escaped, by a letter where there is one. -/
def ofByte (b : UInt8) : Glyph :=
  if isPlain b then .byte b
  else if b = quote ∨ b = backslash then .letter b
  else if b = 0x08 then .letter 0x62
  else if b = 0x0C then .letter 0x66
  else if b = 0x0A then .letter 0x6E
  else if b = 0x0D then .letter 0x72
  else if b = 0x09 then .letter 0x74
  else .unit b.toNat

def ofText (s : String) : List Glyph :=
  (Bytes.ofString s).map ofByte

def spelling : Glyph → Bytes
  | .byte b => [b]
  | .letter b => [backslash, b]
  | .unit n => backslash :: 0x75 :: (Decimal.hexPadded 4 n).map fun c => c.toNat.toUInt8

end Glyph

end TitleDock.Json
