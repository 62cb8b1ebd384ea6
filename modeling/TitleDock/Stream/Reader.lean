import TitleDock.SystemError
import TitleDock.Text.Utf8

/-! A reader that follows a script. Each poll has room for some bytes and uses up the script from
the front; data that does not fit stays for the next poll. After the script every poll finds the end
of the stream. What a poll delivers goes behind what its buffer holds already. -/

namespace TitleDock

inductive ReadItem where
  | pending
  | endOfStream
  | failure (e : SystemError)
  | data (bytes : Bytes)
deriving DecidableEq, Repr

/-- The answer to one poll. No bytes mean the end of the stream, or no room. -/
inductive Poll where
  | pending
  | failed (e : SystemError)
  | ready (bytes : Bytes)
deriving DecidableEq, Repr

def Poll.bytes : Poll → Bytes
  | .ready bytes => bytes
  | _ => []

structure ReadBuffer where
  filled : Bytes
  room : Nat
deriving DecidableEq, Repr

def ReadBuffer.fill (b : ReadBuffer) (bytes : Bytes) : ReadBuffer :=
  { filled := b.filled ++ bytes, room := b.room - bytes.length }

namespace ReadItem

def poll (room : Nat) : List ReadItem → Poll × List ReadItem
  | [] => (.ready [], [])
  | .pending :: r => (.pending, r)
  | .endOfStream :: r => (.ready [], r)
  | .failure e :: r => (.failed e, r)
  | .data bytes :: r =>
    let left := bytes.drop room
    (.ready (bytes.take room), if left.isEmpty then r else .data left :: r)

/-- Polls into a buffer. -/
def pollInto (b : ReadBuffer) (script : List ReadItem) : Poll × ReadBuffer × List ReadItem :=
  let (answer, rest) := poll b.room script
  (answer, b.fill answer.bytes, rest)

def weight : List ReadItem → Nat
  | [] => 0
  | .data bytes :: r => bytes.length + 1 + weight r
  | _ :: r => 1 + weight r

/-- Reads to the end of the stream with the given rooms, each one byte larger than told. `done`
holds the pieces read before, in reverse; polls that are pending are repeated. -/
def drain (rooms : Nat → Nat) :
    Nat → Nat → List Bytes → List ReadItem → Except SystemError Bytes × List ReadItem
  | 0, _, done, script => (.ok done.reverse.flatten, script)
  | fuel + 1, k, done, script =>
    match poll (rooms k + 1) script with
    | (.pending, script) => drain rooms fuel (k + 1) done script
    | (.failed e, script) => (.error e, script)
    | (.ready [], script) => (.ok done.reverse.flatten, script)
    | (.ready bytes, script) => drain rooms fuel (k + 1) (bytes :: done) script

def readAll (rooms : Nat → Nat) (script : List ReadItem) :
    Except SystemError Bytes × List ReadItem :=
  drain rooms (weight script + 1) 0 [] script

end ReadItem

end TitleDock
