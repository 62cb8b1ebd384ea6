import TitleDock.Event.Transfer

/-! Progress on the console: a line for every further tenth of a download. Counts are words of 64
bits, and so has to be the product that the tenth is taken from: else the program panics. -/

namespace TitleDock

/-- Prints the progress of downloads; `best` is the highest tenth so far. -/
structure ConsolePrinter where
  best : Nat
deriving DecidableEq, Repr

namespace ConsolePrinter

def new : ConsolePrinter := { best := 0 }

def overflow : String := "attempt to multiply with overflow"

/-- How many tenths of `total` have been read, as far as that can be computed. -/
def tenth? (read total : Nat) : Option Nat :=
  let product := min read total * 10
  if product < Nat.pow 2 64 then some (min (product / total) 10) else none

theorem tenth?_le {read total n : Nat} (h : tenth? read total = some n) : n ≤ 10 := by
  rw [tenth?] at h
  split at h
  · obtain rfl := Option.some.inj h
    exact Nat.min_le_right _ _
  · cases h

def line (tenth read total : Nat) : String :=
  "Downloaded " ++ toString (tenth * 10) ++ "% (" ++ toString read ++ "/" ++ toString total ++
    " bytes)\n"

/-- The text that is printed for an event, or that of a panic; downloads of unknown size print
nothing. -/
def print (p : ConsolePrinter) : TransferEvent → Except String (String × ConsolePrinter)
  | .downloadProgress read total =>
    if total = 0 then .ok ("", p)
    else match tenth? read total with
      | none => .error overflow
      | some t => .ok (if p.best < t then (line t read total, { best := t }) else ("", p))
  | _ => .ok ("", p)

end ConsolePrinter

end TitleDock
