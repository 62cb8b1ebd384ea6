import TitleDock.Settings.Toml.Number
import TitleDock.Settings.Value

/-! Values and keys of a TOML document. Arrays and inline tables may be nested up to a fixed depth,
which bounds the recursion. A key with dots builds the tables on its way; a table that was written
out cannot be added to. -/

namespace TitleDock.Toml

def depthLimit : Nat := 79

/-- A table that is being built. `isOpen` tables were only named on the way to others; `dotted` ones
were named by keys with dots. -/
inductive Node where
  | value (v : SettingValue)
  | table (isOpen dotted : Bool) (entries : List (String × Node))
  | tables (done : List Node)

abbrev Entries := List (String × Node)

namespace Node

mutual

def toValue : Node → SettingValue
  | .value v => v
  | .table _ _ entries => .table (entryValues entries)
  | .tables done => .list (values done)

def entryValues : Entries → List (String × SettingValue)
  | [] => []
  | (key, n) :: r => (key, n.toValue) :: entryValues r

def values : List Node → List SettingValue
  | [] => []
  | n :: r => n.toValue :: values r

end

def put (key : String) (n : Node) : Entries → Entries
  | [] => [(key, n)]
  | (k, old) :: r => if k = key then (key, n) :: r else (k, old) :: put key n r

/-- Applies a change to the entries of the table at the end of a path, building open tables on the
way. With `dotted`, the path comes from a key with dots, and may not enter a table that was written
out. The last table of an array of tables stands for the array. -/
def descend (dotted : Bool) (change : Bool → Entries → Option Entries) :
    List String → Bool → Entries → Option Entries
  | [], isDotted, entries => change isDotted entries
  | key :: path, _, entries =>
    match (entries.lookup key).getD (.table true dotted []) with
    | .value _ => none
    | .table isOpen isDotted inner =>
      if dotted ∧ ¬ isOpen then none
      else do
        let inner ← descend dotted change path isDotted inner
        some (put key (.table isOpen isDotted inner) entries)
    | .tables done =>
      match done.reverse with
      | .table isOpen isDotted inner :: earlier => do
        let inner ← descend dotted change path isDotted inner
        some (put key (.tables (.table isOpen isDotted inner :: earlier).reverse) entries)
      | _ => none

/-- Sets a key that is not there yet. Keys with dots and plain keys do not share tables. -/
def assign (path : List String) (v : SettingValue) (entries : Entries) : Option Entries :=
  match path.reverse with
  | [] => none
  | key :: way =>
    let onWay := way.reverse
    descend true
      (fun isDotted entries =>
        if isDotted = onWay.isEmpty then none
        else if (entries.lookup key).isSome then none
        else some (entries ++ [(key, .value v)]))
      onWay false entries

end Node

def isBareKeyChar (c : Char) : Bool :=
  ('a' ≤ c && c ≤ 'z') || ('A' ≤ c && c ≤ 'Z') || ('0' ≤ c && c ≤ '9') || c = '_' || c = '-'

def simpleKey? (cs : Rest) : Option (String × Rest) :=
  match shortString? cs with
  | some (s, r) => some (String.ofList s, r)
  | none =>
    match cs.takeWhile isBareKeyChar with
    | [] => none
    | key => some (String.ofList key, cs.dropWhile isBareKeyChar)

def keyParts? : Nat → Rest → Option (List String × Rest)
  | 0, _ => none
  | fuel + 1, cs => do
    let (key, r) ← simpleKey? (skipBlanks cs)
    match skipBlanks r with
    | '.' :: r =>
      let (keys, r) ← keyParts? fuel r
      some (key :: keys, r)
    | r => some ([key], r)

def key? (cs : Rest) : Option (List String × Rest) := do
  let (keys, r) ← keyParts? (cs.length + 1) cs
  if depthLimit < keys.length then none else some (keys, r)

/-- A time is kept as a table with one key that no field has. -/
def momentValue : SettingValue := .table [("$__toml_private_datetime", .text "")]

def word? (w : List Char) (cs : Rest) : Option Rest :=
  if cs.take w.length = w then some (cs.drop w.length) else none

def numberOrTime? (cs : Rest) : Option (SettingValue × Rest) :=
  match moment? cs with
  | some r => some (momentValue, r)
  | none =>
    match fraction? cs with
    | some r => some (.fraction, r)
    | none => (integer? cs).map fun (n, r) => (.integer n, r)

def plainValue? (cs : Rest) : Option (SettingValue × Rest) :=
  match cs with
  | [] => none
  | c :: _ =>
    if c = '"' ∨ c = '\'' then (string? cs).map fun (s, r) => (.text (String.ofList s), r)
    else if c = '+' ∨ c = '-' ∨ isDigit 10 c then numberOrTime? cs
    else if c = 't' then (word? ['t', 'r', 'u', 'e'] cs).map (.bool true, ·)
    else if c = 'f' then (word? ['f', 'a', 'l', 's', 'e'] cs).map (.bool false, ·)
    else if c = 'i' ∨ c = 'n' then (special? cs).map (.fraction, ·)
    else none

def items? (value? : Rest → Option (SettingValue × Rest)) (done : List SettingValue) :
    Nat → Rest → Option (List SettingValue × Rest)
  | 0, _ => none
  | fuel + 1, cs =>
    match skipLines cs.length cs with
    | ']' :: r => some (done.reverse, r)
    | r => do
      let (v, r) ← value? r
      match skipLines r.length r with
      | ',' :: r => items? value? (v :: done) fuel r
      | ']' :: r => some ((v :: done).reverse, r)
      | _ => none

def inlineEntries? (value? : Rest → Option (SettingValue × Rest)) (done : Entries) :
    Nat → Rest → Option (Entries × Rest)
  | 0, _ => none
  | fuel + 1, cs => do
    let (path, r) ← key? cs
    let (v, r) ← value? (skipBlanks (← char? '=' r))
    let done ← Node.assign path v done
    match skipBlanks r with
    | ',' :: r => inlineEntries? value? done fuel r
    | '}' :: r => some (done, r)
    | _ => none

def value? : Nat → Rest → Option (SettingValue × Rest)
  | depth, '[' :: r =>
    match depth with
    | 0 => none
    | depth + 1 => (items? (value? depth) [] (r.length + 1) r).map fun (vs, r) => (.list vs, r)
  | depth, '{' :: r =>
    match depth with
    | 0 => none
    | depth + 1 =>
      match skipBlanks r with
      | '}' :: r => some (.table [], r)
      | r =>
        (inlineEntries? (value? depth) [] (r.length + 1) r).map fun (entries, r) =>
          ((Node.table false false entries).toValue, r)
  | _, cs => plainValue? cs

end TitleDock.Toml
