import TitleDock.Text.Decimal

/-! Blanks, comments and strings of a TOML document. Every reader takes what it is named for from
the front of the text and leaves the rest. -/

namespace TitleDock.Toml

abbrev Rest := List Char

def isBlank (c : Char) : Bool := c = ' ' || c = '\t'

def skipBlanks (cs : Rest) : Rest := cs.dropWhile isBlank

def newline? : Rest → Option Rest
  | '\n' :: r => some r
  | '\r' :: '\n' :: r => some r
  | _ => none

def isPrintable (c : Char) : Bool :=
  c = '\t' || (0x20 ≤ c.toNat && c.toNat ≠ 0x7F)

def isCommentChar (c : Char) : Bool := isPrintable c || c.toNat = 0x7F

def skipComment : Rest → Rest
  | '#' :: r => r.dropWhile isCommentChar
  | r => r

def lineEnd? (cs : Rest) : Option Rest :=
  match skipComment (skipBlanks cs) with
  | [] => some []
  | r => newline? r

/-- Drops blanks, comments and line ends. Each round drops at least one character, so `fuel` never
runs out when it is the length of the text. -/
def skipLines : Nat → Rest → Rest
  | 0, cs => cs
  | fuel + 1, cs =>
    match skipComment (skipBlanks cs) with
    | [] => []
    | r =>
      match newline? r with
      | some r => skipLines fuel r
      | none => r

def skipSpace : Nat → Rest → Rest
  | 0, cs => cs
  | fuel + 1, cs =>
    let r := skipBlanks cs
    match newline? r with
    | some r => skipSpace fuel r
    | none => r

def hexValue? (ds : List Char) : Option Nat :=
  Decimal.natural? 16 ds

def escape? : Rest → Option (Char × Rest)
  | 'b' :: r => some (Char.ofNat 0x08, r)
  | 't' :: r => some ('\t', r)
  | 'n' :: r => some ('\n', r)
  | 'f' :: r => some (Char.ofNat 0x0C, r)
  | 'r' :: r => some ('\r', r)
  | '"' :: r => some ('"', r)
  | '\\' :: r => some ('\\', r)
  | 'u' :: r => unicode? 4 r
  | 'U' :: r => unicode? 8 r
  | _ => none
where
  unicode? (width : Nat) (r : Rest) : Option (Char × Rest) := do
    let ds := r.take width
    if ds.length < width then none
    let c ← Utf8.scalar? (← hexValue? ds)
    some (c, r.drop width)

def basicString? (done : List Char) : Nat → Rest → Option (List Char × Rest)
  | 0, _ => none
  | fuel + 1, cs =>
    match cs with
    | [] => none
    | '"' :: r => some (done.reverse, r)
    | '\\' :: r => do
      let (c, r) ← escape? r
      basicString? (c :: done) fuel r
    | c :: r => if isPrintable c then basicString? (c :: done) fuel r else none

def literalString? (done : List Char) : Rest → Option (List Char × Rest)
  | [] => none
  | c :: r =>
    if c = '\'' then some (done.reverse, r)
    else if isPrintable c then literalString? (c :: done) r
    else none

/-- The first line end after the opening quotes does not belong to a string over several lines. -/
def skipNewline (cs : Rest) : Rest := (newline? cs).getD cs

def quoteRun (q : Char) (cs : Rest) : Nat := (cs.takeWhile (· = q)).length

def lineJoin? (cs : Rest) : Option Rest :=
  (newline? (skipBlanks cs)).map fun r => skipSpace r.length r

/-- A string over several lines, after its opening quotes. Fewer than three quotes are part of it,
and so are up to two right before the closing ones. Only strings in double quotes have escapes. -/
def longString? (q : Char) (done : List Char) : Nat → Rest → Option (List Char × Rest)
  | 0, _ => none
  | fuel + 1, cs =>
    let run := quoteRun q cs
    if 6 ≤ run then none
    else if 3 ≤ run then some (done.reverse ++ List.replicate (run - 3) q, cs.drop run)
    else match cs with
      | [] => none
      | c :: r =>
        if c = '\\' ∧ q = '"' then
          match lineJoin? r with
          | some r => longString? q done fuel r
          | none => do
            let (c, r) ← escape? r
            longString? q (c :: done) fuel r
        else match newline? (c :: r) with
          | some r => longString? q ('\n' :: done) fuel r
          | none => if isPrintable c then longString? q (c :: done) fuel r else none

def shortString? : Rest → Option (List Char × Rest)
  | '"' :: r => basicString? [] (r.length + 1) r
  | '\'' :: r => literalString? [] r
  | _ => none

def string? (cs : Rest) : Option (List Char × Rest) :=
  match cs with
  | '"' :: '"' :: '"' :: r => longString? '"' [] (r.length + 1) (skipNewline r)
  | '\'' :: '\'' :: '\'' :: r => longString? '\'' [] (r.length + 1) (skipNewline r)
  | r => shortString? r

end TitleDock.Toml
