import TitleDock.Stream.Reader

/-! A reader that counts. It passes on what the reader inside it answers, and reports the running
total after every poll that delivered bytes; a stream that starts with its end reports zero once. -/

namespace TitleDock

structure ProgressReader where
  inner : List ReadItem
  bytesRead : Nat
  reported : Bool
deriving Repr

structure Progress where
  bytesRead : Nat
  reported : Bool
deriving DecidableEq, Repr

namespace Progress

def start : Progress := { bytesRead := 0, reported := false }

def count (p : Progress) (gained : Nat) : Progress × Option Nat :=
  if 0 < gained ∨ p.reported = false then
    let total := p.bytesRead + gained
    ({ bytesRead := total, reported := true }, some total)
  else (p, none)

theorem bytesRead_count (p : Progress) (gained : Nat) :
    (p.count gained).1.bytesRead = p.bytesRead + gained := by
  by_cases h : 0 < gained ∨ p.reported = false
  · simp [count, h]
  · rw [count, if_neg h]
    have : gained = 0 := by omega
    simp [this]

end Progress

namespace ProgressReader

def new (inner : List ReadItem) : ProgressReader :=
  { inner, bytesRead := 0, reported := false }

/-- Polls into a buffer, and counts by how much the filled part has grown: the answer, the buffer,
the total to report, and the reader afterwards. -/
def pollInto (b : ReadBuffer) (r : ProgressReader) :
    Poll × ReadBuffer × Option Nat × ProgressReader :=
  let before := b.filled.length
  let (answer, b, inner) := ReadItem.pollInto b r.inner
  match answer with
  | .ready _ =>
    let p : Progress := { bytesRead := r.bytesRead, reported := r.reported }
    let (p, total) := p.count (b.filled.length - before)
    (answer, b, total, { inner, bytesRead := p.bytesRead, reported := p.reported })
  | _ => (answer, b, none, { r with inner })

end ProgressReader

end TitleDock
