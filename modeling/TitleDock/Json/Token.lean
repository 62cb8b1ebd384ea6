import TitleDock.Json.Glyph

/-! The tokens of JSON text. `scan` accepts any blanks between tokens; strings are only checked for
their escapes and control characters here, and numbers keep their spelling, of any size. -/

namespace TitleDock.Json

inductive Token where
  | beginArray
  | endArray
  | beginObject
  | endObject
  | comma
  | colon
  | null
  | bool (b : Bool)
  | number (lexeme : Bytes)
  | string (glyphs : List Glyph)
deriving DecidableEq, Repr

namespace Token

def isBlank (b : UInt8) : Bool :=
  b = 0x20 || b = 0x09 || b = 0x0A || b = 0x0D

def isDigit (b : UInt8) : Bool :=
  0x30 ≤ b && b ≤ 0x39

/-- The rest of a string after its opening quote; `done` holds what was read, in reverse. -/
def takeString (done : List Glyph) : Bytes → Option (List Glyph × Bytes)
  | [] => none
  | b :: r =>
    if b = Glyph.quote then some (done.reverse, r)
    else if b = Glyph.backslash then
      match r with
      | [] => none
      | e :: r =>
        if e = 0x75 then
          match r with
          | a :: b :: c :: d :: r =>
            match Glyph.unit? a b c d with
            | some n => takeString (.unit n :: done) r
            | none => none
          | _ => none
        else if (Glyph.meaning? e).isSome then takeString (.letter e :: done) r
        else none
    else if Glyph.isControl b then none
    else takeString (.byte b :: done) r

def takeDigits? (bs : Bytes) : Option (Bytes × Bytes) :=
  match bs.takeWhile isDigit with
  | [] => none
  | ds => some (ds, bs.dropWhile isDigit)

def takeWhole? : Bytes → Option (Bytes × Bytes)
  | [] => none
  | b :: r => if b = 0x30 then some ([b], r) else takeDigits? (b :: r)

def takeFraction? : Bytes → Option (Bytes × Bytes)
  | [] => some ([], [])
  | b :: r =>
    if b = 0x2E then (takeDigits? r).map fun (ds, r) => (b :: ds, r)
    else some ([], b :: r)

def takeSign : Bytes → Bytes × Bytes
  | [] => ([], [])
  | b :: r => if b = 0x2B ∨ b = 0x2D then ([b], r) else ([], b :: r)

def takeExponent? : Bytes → Option (Bytes × Bytes)
  | [] => some ([], [])
  | b :: r =>
    if b = 0x65 ∨ b = 0x45 then
      let (sign, r) := takeSign r
      (takeDigits? r).map fun (ds, r) => (b :: sign ++ ds, r)
    else some ([], b :: r)

def takeMinus : Bytes → Bytes × Bytes
  | [] => ([], [])
  | b :: r => if b = 0x2D then ([b], r) else ([], b :: r)

def takeNumber? (bs : Bytes) : Option (Bytes × Bytes) := do
  let (minus, r) := takeMinus bs
  let (whole, r) ← takeWhole? r
  let (fraction, r) ← takeFraction? r
  let (exponent, r) ← takeExponent? r
  some (minus ++ whole ++ fraction ++ exponent, r)

def after? : Bytes → Bytes → Option Bytes
  | [], r => some r
  | _ :: _, [] => none
  | w :: ws, b :: r => if w = b then after? ws r else none

def nullWord : Bytes := [0x6E, 0x75, 0x6C, 0x6C]
def trueWord : Bytes := [0x74, 0x72, 0x75, 0x65]
def falseWord : Bytes := [0x66, 0x61, 0x6C, 0x73, 0x65]

def next? : Bytes → Option (Token × Bytes)
  | [] => none
  | b :: r =>
    if b = 0x5B then some (.beginArray, r)
    else if b = 0x5D then some (.endArray, r)
    else if b = 0x7B then some (.beginObject, r)
    else if b = 0x7D then some (.endObject, r)
    else if b = 0x2C then some (.comma, r)
    else if b = 0x3A then some (.colon, r)
    else if b = Glyph.quote then (takeString [] r).map fun (gs, r) => (.string gs, r)
    else if b = 0x6E then (after? nullWord (b :: r)).map (.null, ·)
    else if b = 0x74 then (after? trueWord (b :: r)).map (.bool true, ·)
    else if b = 0x66 then (after? falseWord (b :: r)).map (.bool false, ·)
    else (takeNumber? (b :: r)).map fun (lexeme, r) => (.number lexeme, r)

/-- Reads tokens onto `done`, which holds the earlier ones in reverse. Every token takes at least
one byte, so `fuel` never runs out when it is at least the number of bytes. -/
def scanOnto (done : List Token) : Nat → Bytes → Option (List Token)
  | _, [] => some done.reverse
  | 0, _ :: _ => none
  | fuel + 1, b :: r =>
    if isBlank b then scanOnto done fuel r
    else match next? (b :: r) with
      | some (t, r) => scanOnto (t :: done) fuel r
      | none => none

def scan (bs : Bytes) : Option (List Token) :=
  scanOnto [] bs.length bs

def spelling : Token → Bytes
  | .beginArray => [0x5B]
  | .endArray => [0x5D]
  | .beginObject => [0x7B]
  | .endObject => [0x7D]
  | .comma => [0x2C]
  | .colon => [0x3A]
  | .null => nullWord
  | .bool true => trueWord
  | .bool false => falseWord
  | .number lexeme => lexeme
  | .string gs => Glyph.quote :: gs.flatMap Glyph.spelling ++ [Glyph.quote]

end Token

end TitleDock.Json
