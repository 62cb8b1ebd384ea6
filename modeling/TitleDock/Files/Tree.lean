import TitleDock.Files.Path
import TitleDock.SystemError
import TitleDock.Text.Utf8

/-! A file tree as a value. Places are lists of names from the root; a place holds a file or a
folder, and everything but the root lies in a folder. Paths are texts, relative to a working folder,
and lead to places or fail with the errors of Linux. -/

namespace TitleDock.Files

abbrev Place := List String

inductive Node where
  | file (content : Bytes)
  | folder
deriving DecidableEq, Repr

structure Tree where
  entries : List (Place × Node)
  /-- Where relative paths start. -/
  workingFolder : Place
deriving DecidableEq, Repr

namespace Tree

def get? (t : Tree) (p : Place) : Option Node :=
  if p = [] then some .folder else t.entries.lookup p

def isFolder (t : Tree) (p : Place) : Bool := t.get? p = some .folder

def put (t : Tree) (p : Place) (n : Node) : Tree :=
  { t with entries := (p, n) :: t.entries.filter (·.1 ≠ p) }

def erase (t : Tree) (p : Place) : Tree :=
  { t with entries := t.entries.filter (·.1 ≠ p) }

theorem lookup_filter_ne {p q : Place} (h : q ≠ p) (entries : List (Place × Node)) :
    (entries.filter (·.1 ≠ p)).lookup q = entries.lookup q := by
  induction entries with
  | nil => rfl
  | cons e r ih =>
    obtain ⟨k, n⟩ := e
    by_cases hk : k = p
    · have hq : (q == p) = false := by simpa using h
      simpa [hk, List.lookup_cons, hq] using ih
    · rw [List.filter_cons_of_pos (by simpa using hk), List.lookup_cons, List.lookup_cons, ih]

theorem lookup_filter_self (p : Place) (entries : List (Place × Node)) :
    (entries.filter (·.1 ≠ p)).lookup p = none := by
  induction entries with
  | nil => rfl
  | cons e r ih =>
    obtain ⟨k, n⟩ := e
    by_cases hk : k = p
    · simpa [hk] using ih
    · have hp : (p == k) = false := by simpa using Ne.symm hk
      rw [List.filter_cons_of_pos (by simpa using hk), List.lookup_cons, hp]
      exact ih

@[simp] theorem get?_put_self {p : Place} (h : p ≠ []) (t : Tree) (n : Node) :
    (t.put p n).get? p = some n := by
  simp [get?, put, h]

theorem get?_put_of_ne {p q : Place} (h : q ≠ p) (t : Tree) (n : Node) :
    (t.put p n).get? q = t.get? q := by
  have hq : (q == p) = false := by simpa using h
  by_cases hr : q = []
  · simp [get?, hr]
  · simp only [get?, put, if_neg hr, List.lookup_cons, hq]
    exact lookup_filter_ne h t.entries

@[simp] theorem get?_erase_self {p : Place} (h : p ≠ []) (t : Tree) : (t.erase p).get? p = none := by
  simp only [get?, erase, if_neg h]
  exact lookup_filter_self p t.entries

theorem get?_erase_of_ne {p q : Place} (h : q ≠ p) (t : Tree) : (t.erase p).get? q = t.get? q := by
  by_cases hr : q = []
  · simp [get?, hr]
  · simp only [get?, erase, if_neg hr]
    exact lookup_filter_ne h t.entries

def maxName : Nat := 255
def maxPath : Nat := 4095

/-- Follows names from a place. Every name but the last must lead to a folder. -/
def walk (t : Tree) : Place → List String → Except SystemError Place
  | p, [] => .ok p
  | p, name :: rest =>
    if ¬ t.isFolder p then .error .notDirectory
    else if name = "." then walk t p rest
    else if name = ".." then walk t p.dropLast rest
    else if maxName < name.utf8ByteSize then .error .nameTooLong
    else match t.get? (p ++ [name]) with
      | some _ => walk t (p ++ [name]) rest
      | none => .error .noEntry

def start (t : Tree) (path : String) : Place :=
  if isAbsolute path then [] else t.workingFolder

def check (path : String) : Except SystemError Unit :=
  if hasNul path then .error .nulInPath
  else if path.isEmpty then .error .noEntry
  else if maxPath < path.utf8ByteSize then .error .nameTooLong
  else .ok ()

def locate (t : Tree) (path : String) : Except SystemError Place := do
  check path
  let p ← t.walk (t.start path) (names path)
  if (endsWithSlash path ∨ (names path).getLast? = some ".") ∧ ¬ t.isFolder p then
    .error .notDirectory
  else .ok p

def isFolderAt (t : Tree) (path : String) : Bool :=
  match t.locate path with
  | .ok p => t.isFolder p
  | .error _ => false

def readAt? (t : Tree) (path : String) : Option Bytes :=
  match t.locate path with
  | .ok p =>
    match t.get? p with
    | some (.file content) => some content
    | _ => none
  | .error _ => none

def existsAt (t : Tree) (path : String) : Bool :=
  match t.locate path with
  | .ok _ => true
  | .error _ => false

/-- The folder in which the last name of a path lies, with that name. A path that ends in a point,
two points or nothing has no last name. -/
def entryAt (t : Tree) (path : String) : Except SystemError (Place × Option String) := do
  check path
  let folder ← t.walk (t.start path) (names path).dropLast
  if ¬ t.isFolder folder then .error .notDirectory
  else match (names path).getLast? with
    | some name =>
      if name = "." ∨ name = ".." then .ok (folder, none)
      else .ok (folder, some name)
    | none => .ok (folder, none)

def checkName (name : String) : Except SystemError Unit :=
  if maxName < name.utf8ByteSize then .error .nameTooLong else .ok ()

def below (t : Tree) (p : Place) : List (Place × Node) :=
  t.entries.filterMap fun (q, n) =>
    if p.length < q.length ∧ q.take p.length = p then some (q.drop p.length, n) else none

def add (t : Tree) (parts : List String) (n : Node) : Tree :=
  let around := (List.range parts.length).foldl
    (fun t i =>
      let p := t.workingFolder ++ parts.take i
      if (t.get? p).isSome then t else t.put p .folder) t
  around.put (around.workingFolder ++ parts) n

def empty (workingFolder : Place) : Tree :=
  { entries := (List.range workingFolder.length).map fun i => (workingFolder.take (i + 1), .folder)
    workingFolder }

end Tree

end TitleDock.Files
