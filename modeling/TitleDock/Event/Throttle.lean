/-! A throttle lets a call through when at least one interval has passed since the last call that it
let through, and always the first one. Times are in milliseconds. A program keeps them in words, and
one word must then stand for no call. -/

namespace TitleDock

structure Throttle where
  interval : Nat
  last : Option Nat
deriving DecidableEq, Repr

namespace Throttle

def new (interval : Nat) : Throttle := { interval, last := none }

def isDue (t : Throttle) (now : Nat) : Bool :=
  match t.last with
  | none => true
  | some last => t.interval ≤ now - last

def call (t : Throttle) (now : Nat) : Bool × Throttle :=
  if t.isDue now then (true, { t with last := some now }) else (false, t)

@[simp] theorem call_new (interval now : Nat) :
    (new interval).call now = (true, { interval, last := some now }) := rfl

theorem call_fst (t : Throttle) (now : Nat) : (t.call now).1 = t.isDue now := by
  rw [call]
  split <;> simp_all

@[simp] theorem interval_call (t : Throttle) (now : Nat) : (t.call now).2.interval = t.interval := by
  rw [call]
  split <;> rfl

end Throttle

/-- A throttle that keeps its times in words. The largest word stands for no call so far. -/
structure WordThrottle where
  interval : UInt64
  last : UInt64
deriving DecidableEq, Repr

namespace WordThrottle

def never : UInt64 := 0xFFFFFFFFFFFFFFFF

def new (interval : UInt64) : WordThrottle := { interval, last := never }

/-- The time since a call; a call that is still to come was just now. -/
def since (last now : UInt64) : UInt64 := if last ≤ now then now - last else 0

def call (t : WordThrottle) (now : UInt64) : Bool × WordThrottle :=
  if t.last = never ∨ t.interval ≤ since t.last now then (true, { t with last := now })
  else (false, t)

end WordThrottle

end TitleDock
