import TitleDock.Event.Throttle
import TitleDock.Event.Transfer

/-! Log records, and the records that events become. Progress of a download is logged at most twice
a second, and always when it is complete. A record names the part of the program that it comes from.
-/

namespace TitleDock

inductive LogLevel where
  | trace
  | debug
  | info
  | warn
  | error
deriving DecidableEq, Repr

namespace LogLevel

def name : LogLevel → String
  | trace => "TRACE"
  | debug => "DEBUG"
  | info => "INFO"
  | warn => "WARN"
  | error => "ERROR"

def severity : LogLevel → Nat
  | trace => 0
  | debug => 1
  | info => 2
  | warn => 3
  | error => 4

end LogLevel

inductive LogValue where
  | text (s : String)
  | number (n : Nat)
deriving DecidableEq, Repr

inductive LogSource where
  | registry
  | discovery
  | client
  | events
  | transfer
  | simulation
  | beacon
  | program
deriving DecidableEq, Repr

def LogSource.target : LogSource → String
  | registry => "nxlink::core::registry"
  | discovery => "nxlink::core::discovery"
  | client => "nxlink::adapters::http"
  | events => "nxlink::core::events"
  | transfer => "nxlink::core::orchestrator"
  | simulation => "nxlink::adapters::simulated"
  | beacon => "nxlink::adapters::beacon"
  | program => "nxlink"

structure LogRecord where
  source : LogSource
  level : LogLevel
  message : String
  fields : List (String × LogValue)
deriving DecidableEq, Repr

structure EventLogger where
  throttle : WordThrottle
deriving DecidableEq, Repr

namespace EventLogger

def new : EventLogger := { throttle := .new 500 }

def extractRecord (bytesTransferred totalBytes : UInt64) : LogRecord :=
  { source := .events, level := .debug, message := "Extraction progress"
    fields := [("percentage", .text (Tenths.text (Session.percentage bytesTransferred totalBytes))),
      ("bytes_transferred", .number bytesTransferred.toNat),
      ("total_bytes", .number totalBytes.toNat)] }

def downloadRecord (bytesRead totalBytes : Nat) : LogRecord :=
  { source := .events, level := .debug, message := "Download progress"
    fields := [("bytes_read", .number bytesRead), ("total_bytes", .number totalBytes)] }

/-- The record of an event that happens at the given time, if it is logged. The throttle is asked
with the time as a word. -/
def log (now : Nat) (l : EventLogger) : TransferEvent → Option LogRecord × EventLogger
  | .state (.failed kind message) =>
    (some { source := .events, level := .warn, message := "Transfer failed"
            fields := [("kind", .text kind.name), ("error", .text message)] }, l)
  | .state s =>
    (some { source := .events, level := .debug, message := "State changed"
            fields := [("state", .text s.name)] }, l)
  | .status line => (some { source := .events, level := .info, message := line, fields := [] }, l)
  | .extractProgress bytesTransferred totalBytes =>
    (some (extractRecord bytesTransferred totalBytes), l)
  | .downloadProgress bytesRead totalBytes =>
    let (due, throttle) := l.throttle.call now.toUInt64
    (if due ∨ (0 < totalBytes ∧ bytesRead = totalBytes) then
        some (downloadRecord bytesRead totalBytes)
      else none, { throttle })

end EventLogger

end TitleDock
