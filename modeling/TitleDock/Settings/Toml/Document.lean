import TitleDock.Settings.Toml.Value

/-! A TOML document: lines that set keys and headers that say where the following keys go. No key is
set twice, no table is opened twice, and tables and arrays of tables keep apart. -/

namespace TitleDock.Toml

structure Document where
  root : Entries
  current : Entries
  path : List String
  isArrayItem : Bool

namespace Document

def empty : Document := { root := [], current := [], path := [], isArrayItem := false }

def close (d : Document) : Option Entries :=
  match d.path.reverse with
  | [] => some d.current
  | key :: way =>
    Node.descend false
      (fun _ entries =>
        let table := Node.table false false d.current
        if d.isArrayItem then
          match entries.lookup key with
          | some (.tables done) => some (Node.put key (.tables (done ++ [table])) entries)
          | some _ => none
          | none => some (Node.put key (.tables [table]) entries)
        else some (Node.put key table entries))
      way.reverse false d.root

def under (path : List String) (root : Entries) : Option (Option Node) :=
  match path.reverse with
  | [] => none
  | key :: way => go key way.reverse root
where
  go (key : String) : List String → Entries → Option (Option Node)
    | [], entries => some (entries.lookup key)
    | k :: path, entries =>
      match entries.lookup k with
      | none => some none
      | some (.value _) => none
      | some (.table _ _ inner) => go key path inner
      | some (.tables done) =>
        match done.getLast? with
        | some (.table _ _ inner) => go key path inner
        | _ => none

/-- Starts the table of a header. A table that was only named on the way to others may still be
opened, and keeps what is in it. -/
def openTable (path : List String) (d : Document) : Option Document := do
  let root ← d.close
  match ← under path root with
  | none => some { root, current := [], path, isArrayItem := false }
  | some (.table true false inner) => some { root, current := inner, path, isArrayItem := false }
  | some _ => none

def openArrayItem (path : List String) (d : Document) : Option Document := do
  let root ← d.close
  match ← under path root with
  | none | some (.tables _) => some { root, current := [], path, isArrayItem := true }
  | some _ => none

def set (path : List String) (v : SettingValue) (d : Document) : Option Document := do
  some { d with current := ← Node.assign path v d.current }

/-- One line, or one value over several lines, at the front of text that does not start with blanks.
-/
def line? (cs : Rest) (d : Document) : Option (Document × Rest) :=
  match cs with
  | '[' :: '[' :: r => do
    let (path, r) ← key? r
    let r ← lineEnd? (← char? ']' (← char? ']' r))
    some (← d.openArrayItem path, r)
  | '[' :: r => do
    let (path, r) ← key? r
    let r ← lineEnd? (← char? ']' r)
    some (← d.openTable path, r)
  | cs => do
    let (path, r) ← key? cs
    let (v, r) ← value? depthLimit (skipBlanks (← char? '=' r))
    let r ← lineEnd? r
    some (← d.set path v, r)

def lines? : Nat → Rest → Document → Option Document
  | 0, _, _ => none
  | fuel + 1, cs, d =>
    match skipLines cs.length cs with
    | [] => some d
    | r => do
      let (d, r) ← line? r d
      lines? fuel r d

end Document

def skipMark : Rest → Rest
  | c :: r => if c.toNat = 0xFEFF then r else c :: r
  | [] => []

def parse? (text : List Char) : Option SettingValue := do
  let cs := skipMark text
  let d ← Document.lines? (cs.length + 1) cs .empty
  some (Node.table false false (← d.close)).toValue

end TitleDock.Toml
