import TitleDock.Settings.Toml.Value
import TitleDock.Text.Blank

/-! Settings from environment variables. After the common beginning of their names, which is read in
any case, two underscores lead into a section. A value is read as a truth value, a number, a quoted
text, a list or a table if it has that form as a whole, and is taken as text otherwise. -/

namespace TitleDock.Environment

def nameStart : String := "NXLINK_"

abbrev Rest := List Char

def isSpace (c : Char) : Bool :=
  c = ' ' || c = '\t' || c = '\n' || c = '\r' || c.toNat = 0x0C

def skipSpace (cs : Rest) : Rest := cs.dropWhile isSpace

def isSeparator (c : Char) : Bool :=
  c = ',' || c = '{' || c = '}' || c = '[' || c = ']'

def quotedBody? (done : List Char) : Rest → Option (List Char × Rest)
  | [] => none
  | '"' :: r => some (done.reverse, r)
  | '\\' :: c :: r => quotedBody? (c :: '\\' :: done) r
  | c :: r => quotedBody? (c :: done) r

def unescape? (done : List Char) : Nat → List Char → Option (List Char)
  | 0, _ => none
  | fuel + 1, cs =>
    match cs with
    | [] => some done.reverse
    | '\\' :: r => do
      let (c, r) ← Toml.escape? r
      unescape? (c :: done) fuel r
    | c :: r => if Toml.isPrintable c then unescape? (c :: done) fuel r else none

def quoted? : Rest → Option (String × Rest)
  | '"' :: r => do
    let (body, r) ← quotedBody? [] r
    let cs ← unescape? [] (body.length + 1) body
    some (String.ofList cs, r)
  | _ => none

def isFraction (cs : List Char) : Bool :=
  let (_, r) := Toml.sign cs
  let whole := r.takeWhile (Toml.isDigit 10)
  match r.dropWhile (Toml.isDigit 10) with
  | '.' :: r =>
    let part := r.takeWhile (Toml.isDigit 10)
    let r := r.dropWhile (Toml.isDigit 10)
    !(whole.isEmpty && part.isEmpty) &&
      (r.isEmpty ||
        match r with
        | c :: r =>
          (c = 'e' || c = 'E') &&
            let (_, ds) := Toml.sign r
            !ds.isEmpty && ds.all (Toml.isDigit 10)
        | [] => false)
  | _ => false

/-- A natural number of 64 bits, or a negative number of 63. -/
def integer? (cs : List Char) : Option Int :=
  match Decimal.unsigned? Decimal.largest64 cs with
  | some n => some n
  | none =>
    match cs with
    | '-' :: ds => ((Decimal.natural? 10 ds).filter (· ≤ 0x8000000000000000)).map fun n => -n
    | _ => none

def plain (cs : List Char) : SettingValue :=
  if isFraction cs then .fraction
  else match integer? cs with
    | some n => .integer n
    | none => .text (String.ofList cs)

def isKeyChar (c : Char) : Bool := Toml.isBareKeyChar c

def key? (cs : Rest) : Option (String × Rest) :=
  match cs with
  | '"' :: _ => quoted? cs
  | _ =>
    match cs.takeWhile isKeyChar with
    | [] => none
    | key => some (String.ofList key, cs.dropWhile isKeyChar)

/-- The members of a list or table after its bracket or a comma; a comma may also come last. -/
def members? {α : Type} (close : Char) (member? : Rest → Option (α × Rest)) (done : List α) :
    Nat → Rest → Option (List α × Rest)
  | 0, _ => none
  | fuel + 1, cs =>
    match Toml.char? close cs with
    | some r => some (done.reverse, r)
    | none => do
      let (m, r) ← member? cs
      match Toml.char? ',' r with
      | some r => members? close member? (m :: done) fuel r
      | none => (Toml.char? close r).map fun r => ((m :: done).reverse, r)

def pairAt? (value? : Rest → Option (SettingValue × Rest)) (cs : Rest) :
    Option ((String × SettingValue) × Rest) := do
  let (key, r) ← key? (skipSpace cs)
  let r ← Toml.char? '=' (skipSpace r)
  let (v, r) ← value? (skipSpace r)
  some ((key, v), skipSpace r)

/-- A value with the space around it. Every level of nesting takes a bracket, so `depth` never runs
out when it is the length of the text. -/
def value? (depth : Nat) (cs : Rest) : Option (SettingValue × Rest) :=
  match depth with
  | 0 => none
  | depth + 1 => do
    let cs := skipSpace cs
    let (v, r) ← match Toml.word? "true".toList cs, Toml.word? "false".toList cs, cs with
      | some r, _, _ => some (.bool true, r)
      | _, some r, _ => some (.bool false, r)
      | _, _, '{' :: r =>
        (members? '}' (pairAt? (value? depth)) [] (r.length + 1) r).map fun (es, r) =>
          (.table (es.foldl (fun t (key, v) => SettingValue.put key v t) []), r)
      | _, _, '[' :: r =>
        (members? ']' (value? depth) [] (r.length + 1) r).map fun (vs, r) => (.list vs, r)
      | _, _, '"' :: _ => (quoted? cs).map fun (s, r) => (.text s, r)
      | _, _, '\'' :: c :: '\'' :: r => some (.text (String.ofList [c]), r)
      | _, _, '\'' :: _ => none
      | _, _, cs =>
        some (plain (Text.trim (cs.takeWhile (!isSeparator ·))), cs.dropWhile (!isSeparator ·))
    some (v, skipSpace r)

def value (text : List Char) : SettingValue :=
  if (Text.trim text).isEmpty then .text (String.ofList text)
  else match value? (text.length + 1) text with
    | some (v, []) => v
    | _ => .text (String.ofList text)

def afterIgnoringCase? : List Char → List Char → Option (List Char)
  | [], r => some r
  | _ :: _, [] => none
  | w :: ws, c :: r => if w.toLower = c.toLower then afterIgnoringCase? ws r else none

def pointed : List Char → List Char
  | '_' :: '_' :: r => '.' :: pointed r
  | c :: r => c :: pointed r
  | [] => []

/-- The path that a variable's name stands for, in lower case; none of its parts is empty. -/
def path? (name : String) : Option (List String) := do
  let rest ← afterIgnoringCase? nameStart.toList (Text.trim name.toList)
  let parts := Text.splitOn '.' (Text.trim (pointed rest))
  if parts.any List.isEmpty then none
  else some (parts.map fun p => String.ofList (p.map Char.toLower))

def layer (envVars : List (String × String)) : SettingValue :=
  envVars.foldl
    (fun below (name, text) =>
      match path? name with
      | some path => (SettingValue.nest path (value (Text.trim text.toList))).onto below
      | none => below)
    (.table [])

/-- The folder for temporary files: the system's, unless the environment names another one. -/
def tempDir (envVars : List (String × String)) : String := (envVars.lookup "TMPDIR").getD "/tmp"

end TitleDock.Environment
