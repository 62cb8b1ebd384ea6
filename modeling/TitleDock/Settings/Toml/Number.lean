import TitleDock.Settings.Toml.Text

/-! Numbers and times of a TOML document. Integers are signed 64-bit numbers in one of four radixes;
of fractions and times only the form matters here. -/

namespace TitleDock.Toml

def isDigit (radix : Nat) (c : Char) : Bool := (Decimal.digit? radix c).isSome

def digitRun (radix : Nat) : Rest → List Char × Rest
  | [] => ([], [])
  | '_' :: c :: r =>
    if isDigit radix c then
      let (ds, r) := digitRun radix r
      (c :: ds, r)
    else ([], '_' :: c :: r)
  | c :: r =>
    if isDigit radix c then
      let (ds, r) := digitRun radix r
      (c :: ds, r)
    else ([], c :: r)

def digits? (radix : Nat) (cs : Rest) : Option (List Char × Rest) :=
  match cs with
  | c :: _ => if isDigit radix c then some (digitRun radix cs) else none
  | [] => none

def whole? : Rest → Option (List Char × Rest)
  | '0' :: r => some (['0'], r)
  | cs => digits? 10 cs

def sign : Rest → Bool × Rest
  | '-' :: r => (true, r)
  | '+' :: r => (false, r)
  | r => (false, r)

def smallest : Int := -0x8000000000000000
def largest : Int := 0x7FFFFFFFFFFFFFFF

def inRange? (n : Int) : Option Int :=
  if smallest ≤ n ∧ n ≤ largest then some n else none

def integer? (cs : Rest) : Option (Int × Rest) :=
  match cs with
  | '0' :: 'x' :: r => radix 16 r
  | '0' :: 'o' :: r => radix 8 r
  | '0' :: 'b' :: r => radix 2 r
  | cs => do
    let (negative, r) := sign cs
    let (ds, r) ← whole? r
    let n ← Decimal.natural? 10 ds
    let n ← inRange? (if negative then -n else n)
    some (n, r)
where
  radix (radix : Nat) (r : Rest) : Option (Int × Rest) := do
    let (ds, r) ← digits? radix r
    let n ← inRange? (← Decimal.natural? radix ds)
    some (n, r)

def fractionPart? : Rest → Option (List Char × Rest)
  | '.' :: r => digits? 10 r
  | _ => none

def exponent? : Rest → Option (Int × Rest)
  | c :: r =>
    if c = 'e' ∨ c = 'E' then do
      let (negative, r) := sign r
      let (ds, r) ← digits? 10 r
      let n ← Decimal.natural? 10 ds
      some (if negative then -n else n, r)
    else none
  | [] => none

/-- Whether the digits with the decimal exponent are too large for a double: at least half a unit
beyond the largest one. -/
def overflows (ds : List Char) (exponent : Int) : Bool :=
  let n := (Decimal.natural? 10 ds).getD 0
  if n = 0 then false
  else
    let size := (Decimal.digits n).length + exponent
    if 310 < size then true
    else if size < 308 then false
    else
      let limit := Nat.pow 2 1024 - Nat.pow 2 970
      if 0 ≤ exponent then limit ≤ n * Nat.pow 10 exponent.toNat
      else limit * Nat.pow 10 (-exponent).toNat ≤ n

def special? : Rest → Option Rest
  | 'i' :: 'n' :: 'f' :: r => some r
  | 'n' :: 'a' :: 'n' :: r => some r
  | _ => none

/-- A number with a fraction or an exponent, infinity or no number. Too large a positive number is
refused. -/
def fraction? (cs : Rest) : Option Rest :=
  let (negative, r) := sign cs
  match special? r with
  | some r => some r
  | none => do
    let (ds, r) ← whole? r
    match fractionPart? r with
    | some (fs, r) =>
      let (e, r) := (exponent? r).getD (0, r)
      if overflows (ds ++ fs) (e - fs.length) ∧ ¬ negative then none else some r
    | none =>
      let (e, r) ← exponent? r
      if overflows ds e ∧ ¬ negative then none else some r

def fixed? (width least most : Nat) (cs : Rest) : Option (Nat × Rest) := do
  let ds := cs.take width
  if ds.length < width ∨ ¬ ds.all (isDigit 10) then none
  let n ← Decimal.natural? 10 ds
  if least ≤ n ∧ n ≤ most then some (n, cs.drop width) else none

def char? (c : Char) : Rest → Option Rest
  | d :: r => if d = c then some r else none
  | [] => none

def daysIn (year month : Nat) : Nat :=
  if month = 2 then
    if year % 4 = 0 ∧ (year % 100 ≠ 0 ∨ year % 400 = 0) then 29 else 28
  else if month = 4 ∨ month = 6 ∨ month = 9 ∨ month = 11 then 30
  else 31

def date? (cs : Rest) : Option Rest := do
  let (year, r) ← fixed? 4 0 9999 cs
  let (month, r) ← fixed? 2 1 12 (← char? '-' r)
  let (_, r) ← fixed? 2 1 (daysIn year month) (← char? '-' r)
  some r

/-- A minute may have a leap second. -/
def time? (cs : Rest) : Option Rest := do
  let (_, r) ← fixed? 2 0 23 cs
  let (_, r) ← fixed? 2 0 59 (← char? ':' r)
  let (_, r) ← fixed? 2 0 60 (← char? ':' r)
  match r with
  | '.' :: c :: s => some (if isDigit 10 c then s.dropWhile (isDigit 10) else r)
  | r => some r

def zone (r : Rest) : Rest :=
  match r with
  | 'Z' :: s => s
  | 'z' :: s => s
  | c :: s =>
    if c = '+' ∨ c = '-' then (do
      let (_, s) ← fixed? 2 0 23 s
      let (_, s) ← fixed? 2 0 59 (← char? ':' s)
      some s : Option Rest).getD r
    else r
  | [] => []

def moment? (cs : Rest) : Option Rest :=
  match date? cs with
  | some r =>
    match r with
    | c :: s => if c = 'T' ∨ c = 't' ∨ c = ' ' then some (((time? s).map zone).getD r) else some r
    | [] => some []
  | none => time? cs

end TitleDock.Toml
