/-! A bounded channel with many readers. It keeps the last events up to its capacity, a power of
two. A reader that fell further behind is told once how many it missed, and goes on with the oldest
event that is still kept. -/

namespace TitleDock

def powerAbove (n : Nat) : Nat :=
  if n ≤ 1 then 1 else Nat.pow 2 ((n - 1).log2 + 1)

structure Channel (α : Type) where
  capacity : Nat
  /-- How many events were ever sent. -/
  sent : Nat
  /-- The last events, oldest first. -/
  kept : List α

/-- A reader is the number of the event it wants next. -/
abbrev Cursor := Nat

inductive Received (α : Type) where
  | event (a : α)
  | lagged (missed : Nat)
deriving Repr

namespace Channel

variable {α : Type}

def new (capacity : Nat) : Channel α :=
  { capacity := powerAbove capacity, sent := 0, kept := [] }

def send (c : Channel α) (a : α) : Channel α :=
  let kept := c.kept ++ [a]
  { c with sent := c.sent + 1, kept := kept.drop (kept.length - c.capacity) }

def sendAll (c : Channel α) (as : List α) : Channel α :=
  as.foldl send c

def join (c : Channel α) : Cursor := c.sent

def oldest (c : Channel α) : Nat := c.sent - c.kept.length

def receive? (c : Channel α) (next : Cursor) : Option (Received α × Cursor) :=
  if next < c.oldest then some (.lagged (c.oldest - next), c.oldest)
  else (c.kept[next - c.oldest]?).map fun a => (.event a, next + 1)

/-- At most `most` items, a report of missed events counting as one. -/
def receiveUpTo (c : Channel α) : Nat → Cursor → List (Received α) × Cursor
  | 0, next => ([], next)
  | most + 1, next =>
    match c.receive? next with
    | none => ([], next)
    | some (item, next) =>
      let (items, next) := c.receiveUpTo most next
      (item :: items, next)

/-- Everything that waits for the reader; at most one report can precede the kept events. -/
def drain (c : Channel α) (next : Cursor) : List (Received α) × Cursor :=
  c.receiveUpTo (c.kept.length + 1) next

@[simp] theorem sent_send (c : Channel α) (a : α) : (c.send a).sent = c.sent + 1 := rfl

@[simp] theorem capacity_send (c : Channel α) (a : α) : (c.send a).capacity = c.capacity := rfl

@[simp] theorem sent_sendAll (c : Channel α) (as : List α) :
    (c.sendAll as).sent = c.sent + as.length := by
  induction as generalizing c with
  | nil => rfl
  | cons a as ih =>
    rw [sendAll, List.foldl_cons]
    exact (ih (c.send a)).trans (by rw [sent_send, List.length_cons]; omega)

theorem le_powerAbove (n : Nat) : n ≤ powerAbove n := by
  unfold powerAbove
  split
  · omega
  · have := Nat.lt_log2_self (n := n - 1)
    rw [Nat.pow_eq]
    omega

end Channel

end TitleDock
