import TitleDock.Text.Blank

/-! Paths as texts. `names` are the parts between slashes; `steps` leaves out the single points
among them that stand for no step, as when the folder that holds a path is taken. -/

namespace TitleDock.Files

def names (path : String) : List String :=
  (Text.splitOn '/' path.toList).filterMap fun p =>
    if p.isEmpty then none else some (String.ofList p)

def isAbsolute (path : String) : Bool := path.toList.head? = some '/'

def endsWithSlash (path : String) : Bool := path.toList.getLast? = some '/'

/-- The parts of a path; a single point counts only in front of a relative path. -/
def steps (path : String) : List String :=
  match names path with
  | [] => []
  | first :: rest =>
    let rest := rest.filter (· ≠ ".")
    if first = "." ∧ isAbsolute path then rest else first :: rest

def ofSteps (absolute : Bool) (parts : List String) : String :=
  (if absolute then "/" else "") ++ "/".intercalate parts

/-- The path of the folder that holds this path; neither the root nor the empty path has one. -/
def parent? (path : String) : Option String :=
  match steps path with
  | [] => none
  | parts => some (ofSteps (isAbsolute path) parts.dropLast)

def ancestors (path : String) : List String :=
  path :: go (steps path).length
where
  go : Nat → List String
    | 0 => []
    | n + 1 => ofSteps (isAbsolute path) ((steps path).take n) :: go n

def hasNul (path : String) : Bool := path.toList.any (·.toNat = 0)

end TitleDock.Files
