import TitleDock.Fault
import TitleDock.Files.Disk

/-! The files of a transfer. A payload is kept in a spool while it is received, and content reaches
its place by way of a part beside it, so that the place never holds half of it. Folders that were
made on the way stay. -/

namespace TitleDock

def Fault.ofSystem (context : String) (e : SystemError) : Fault :=
  .processing (context ++ ": " ++ e.message)

namespace Files.Tree

/-- Creates an empty spool in a folder, which is made if it is not there, and opens it to be filled.
A spool that cannot be opened is removed. -/
def openSpool (t : Tree) (disk : Disk) (folder : String) : Tree × Except Fault Place :=
  match t.makeFolders disk folder with
  | (t, .error e) => (t, .error (.ofSystem "failed to create temp directory" e))
  | (t, .ok ()) =>
    match t.createIn disk folder "nxlink-" ".nsp" with
    | .error e => (t, .error (.ofSystem "failed to create spool file" e))
    | .ok (spool, made) =>
      match disk.allow made (.reopen spool) with
      | .error e => (t, .error (.ofSystem "failed to download payload" e))
      | .ok () => (made, .ok spool)

def partFolder (path : String) : String :=
  match parent? path with
  | none => "."
  | some folder => if folder.isEmpty then "." else folder

/-- Creates an empty part for a path and opens it. A part that cannot be opened is removed. -/
def openPart (t : Tree) (disk : Disk) (path : String) : Except SystemError (Place × Tree) := do
  let (part, made) ← t.createIn disk (partFolder path) ".nxlink-" ".part"
  disk.allow made (.reopen part)
  .ok (part, made)

def storePart (t : Tree) (disk : Disk) (part : Place) (path : String) (content : Bytes) :
    Except SystemError Tree := do
  disk.allow t (.write part)
  let filled := t.put part (.file content)
  disk.allow filled (.sync part)
  filled.moveTo disk part path

end Files.Tree

end TitleDock
