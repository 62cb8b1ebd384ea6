import TitleDock.Files.Tree

/-! What a program does with files, on a disk that may refuse any of it. What the disk lets pass
follows the rules of the tree, and fails with the errors of Linux. Removing a file is never refused.
The names of temporary files have six letters or digits that the disk draws, and one that is taken
is drawn anew. -/

namespace TitleDock.Files

inductive FileAction where
  | makeFolder (path : String)
  | create (p : Place)
  | reopen (p : Place)
  | write (p : Place)
  | flush (p : Place)
  | sync (p : Place)
  | rename (p : Place) (path : String)
deriving DecidableEq, Repr

structure Disk where
  /-- Why the disk refuses an action on a tree, if it does. -/
  refuses : Tree → FileAction → Option SystemError
  /-- The letters and digits of the names that are drawn one after the other. -/
  letters : Nat → Fin 6 → Fin 62

namespace Disk

def allow (disk : Disk) (t : Tree) (a : FileAction) : Except SystemError Unit :=
  match disk.refuses t a with
  | some e => .error e
  | none => .ok ()

def willing : Disk :=
  { refuses := fun _ _ => none
    letters := fun n i => ⟨n / Nat.pow 62 i.val % 62, Nat.mod_lt _ (by decide)⟩ }

def letter (n : Fin 62) : Char :=
  if n.val < 26 then Char.ofNat (65 + n.val)
  else if n.val < 52 then Char.ofNat (71 + n.val)
  else Char.ofNat (n.val - 4)

def name (disk : Disk) (before after : String) (n : Nat) : String :=
  before ++ String.ofList (List.ofFn fun i => letter (disk.letters n i)) ++ after

end Disk

namespace Tree

def makeFolder (t : Tree) (disk : Disk) (path : String) : Except SystemError Tree := do
  disk.allow t (.makeFolder path)
  match ← t.entryAt path with
  | (_, none) => .error .alreadyThere
  | (folder, some name) =>
    checkName name
    match t.get? (folder ++ [name]) with
    | some _ => .error .alreadyThere
    | none => .ok (t.put (folder ++ [name]) .folder)

/-- Goes outward from a path until a folder can be made or is there. The answer holds the paths on
the way that still have to be made, outermost first. -/
def makeOutermost (t : Tree) (disk : Disk) :
    List String → List String → Tree × Except SystemError (List String)
  | missing, [] => (t, .ok missing)
  | missing, path :: rest =>
    if path.isEmpty ∨ (steps path).isEmpty then (t, .ok missing)
    else match t.makeFolder disk path with
      | .ok t => (t, .ok missing)
      | .error e =>
        if e.isMissing then makeOutermost t disk (path :: missing) rest
        else if e.isPresent ∧ t.isFolderAt path then (t, .ok missing)
        else (t, .error e)

def makeAll (t : Tree) (disk : Disk) : List String → Tree × Except SystemError Unit
  | [] => (t, .ok ())
  | path :: rest =>
    match t.makeFolder disk path with
    | .ok t => makeAll t disk rest
    | .error e =>
      if e.isPresent ∧ t.isFolderAt path then makeAll t disk rest else (t, .error e)

/-- Makes a folder and the folders around it. Folders made before an error stay. -/
def makeFolders (t : Tree) (disk : Disk) (path : String) : Tree × Except SystemError Unit :=
  match t.makeOutermost disk [] (ancestors path) with
  | (t, .ok missing) => t.makeAll disk missing
  | (t, .error e) => (t, .error e)

def createFile (t : Tree) (disk : Disk) (p : Place) : Except SystemError Tree := do
  disk.allow t (.create p)
  if ¬ t.isFolder p.dropLast then .error .notDirectory
  else match t.get? p with
    | some _ => .error .alreadyThere
    | none => .ok (t.put p (.file []))

def tries : Nat := 65536

/-- Creates an empty file in a folder, with the first name from the `n`th on that is not taken. -/
def createFresh (t : Tree) (disk : Disk) (folder : Place) (before after : String) (n : Nat) :
    Nat → Except SystemError (Place × Tree)
  | 0 => .error .tooManyTemporaries
  | left + 1 =>
    let p := folder ++ [disk.name before after n]
    match t.createFile disk p with
    | .ok t => .ok (p, t)
    | .error e =>
      if e.isTaken then createFresh t disk folder before after (n + 1) left else .error e

/-- Creates an empty file with a drawn name in a folder given by its path, where the empty path is
the working folder. -/
def createIn (t : Tree) (disk : Disk) (path before after : String) :
    Except SystemError (Place × Tree) := do
  let folder ← (if path.isEmpty then .ok t.workingFolder else t.locate path)
  t.createFresh disk folder before after 0 tries

def moveTo (t : Tree) (disk : Disk) (source : Place) (path : String) : Except SystemError Tree := do
  disk.allow t (.rename source path)
  match ← t.entryAt path with
  | (_, none) => .error .busy
  | (folder, some name) =>
    checkName name
    let target := folder ++ [name]
    if endsWithSlash path then .error .notDirectory
    else match t.get? target, t.get? source with
      | some .folder, _ => .error .isDirectory
      | _, some n => .ok ((t.erase source).put target n)
      | _, none => .error .noEntry

end Tree

end TitleDock.Files
