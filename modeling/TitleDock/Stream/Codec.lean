import TitleDock.Platform
import TitleDock.Stream.Reader

/-! Codecs turn a payload into content for a platform. The raw codec passes the payload on as it is,
and refuses an empty one. -/

namespace TitleDock

inductive CodecError where
  | emptyPayload
  | unsupported (p : Platform)
  | invalid (message : String)
  | io (e : SystemError)
deriving DecidableEq, Repr

namespace CodecError

def message : CodecError → String
  | emptyPayload => "payload is empty"
  | unsupported p => "unsupported platform: " ++ p.name
  | invalid m => "payload could not be decoded: " ++ m
  | io e => "failed to read payload: " ++ e.message

end CodecError

namespace RawCodec

/-- The reading buffer doubles from 32 bytes on. -/
def rooms (k : Nat) : Nat := 32 * Nat.pow 2 k

def ofRead : Except SystemError Bytes → Except CodecError Bytes
  | .error e => .error (.io e)
  | .ok [] => .error .emptyPayload
  | .ok bytes => .ok bytes

def extract (script : List ReadItem) : Except CodecError Bytes :=
  ofRead (ReadItem.readAll rooms script).1

end RawCodec

end TitleDock
