import TitleDock.Discovery.Beacon
import TitleDock.Settings.Value

/-! The settings of a run, by section, and what each of them is when nothing else is said. -/

namespace TitleDock

structure DiscoverySettings where
  bind : SocketAddress
  broadcast : SocketAddress
  probeIntervalSecs : Nat
  staleAfterSecs : Nat
  /-- How far an observer may fall behind before it misses events. -/
  eventCapacity : Nat
deriving DecidableEq, Repr

structure ClientSettings where
  requestTimeoutSecs : Nat
deriving DecidableEq, Repr

structure TransferSettings where
  pollIntervalMs : Nat
  /-- Where payloads are kept until they are processed. -/
  tempDir : String
  format : String
  includeUpdates : Bool
  includeDlc : Bool
deriving DecidableEq, Repr

structure Settings where
  simulation : Bool
  verbose : Bool
  jsonLogs : Bool
  discovery : DiscoverySettings
  client : ClientSettings
  transfer : TransferSettings
deriving DecidableEq, Repr

namespace SettingValue

def ofNat (n : Nat) : SettingValue := .integer n

def address? (v : SettingValue) : Option SocketAddress :=
  v.text?.bind fun s => SocketAddress.ofText? s.toList

end SettingValue

namespace DiscoverySettings

def fieldNames : List String :=
  ["bind", "broadcast", "probe_interval_secs", "stale_after_secs", "event_capacity"]

def standard : DiscoverySettings :=
  { bind := BeaconConfig.standard.bind, broadcast := BeaconConfig.standard.broadcast
    probeIntervalSecs := BeaconConfig.standard.probeSeconds
    staleAfterSecs := BeaconConfig.standard.staleSeconds
    eventCapacity := Presence.defaultCapacity }

def toValue (s : DiscoverySettings) : SettingValue :=
  .table [("bind", .text (toString s.bind)), ("broadcast", .text (toString s.broadcast)),
    ("probe_interval_secs", .ofNat s.probeIntervalSecs),
    ("stale_after_secs", .ofNat s.staleAfterSecs), ("event_capacity", .ofNat s.eventCapacity)]

def ofValue? (v : SettingValue) : Option DiscoverySettings := do
  match ← v.fields? fieldNames with
  | [bind, broadcast, probe, stale, capacity] =>
    let number := SettingValue.natural? Decimal.largest64
    some
      { bind := ← SettingValue.orElse standard.bind SettingValue.address? bind
        broadcast := ← SettingValue.orElse standard.broadcast SettingValue.address? broadcast
        probeIntervalSecs := ← SettingValue.orElse standard.probeIntervalSecs number probe
        staleAfterSecs := ← SettingValue.orElse standard.staleAfterSecs number stale
        eventCapacity := ← SettingValue.orElse standard.eventCapacity number capacity }
  | _ => none

def beaconConfig (s : DiscoverySettings) : BeaconConfig :=
  { bind := s.bind, broadcast := s.broadcast, probeSeconds := max s.probeIntervalSecs 1
    staleSeconds := max s.staleAfterSecs 1 }

end DiscoverySettings

namespace ClientSettings

def fieldNames : List String := ["request_timeout_secs"]

def standard : ClientSettings := { requestTimeoutSecs := 30 }

def toValue (s : ClientSettings) : SettingValue :=
  .table [("request_timeout_secs", .ofNat s.requestTimeoutSecs)]

def ofValue? (v : SettingValue) : Option ClientSettings := do
  match ← v.fields? fieldNames with
  | [timeout] =>
    some { requestTimeoutSecs := ← SettingValue.orElse standard.requestTimeoutSecs
             (SettingValue.natural? Decimal.largest64) timeout }
  | _ => none

def requestTimeout (s : ClientSettings) : Nat := max s.requestTimeoutSecs 1

end ClientSettings

namespace TransferSettings

def fieldNames : List String :=
  ["poll_interval_ms", "temp_dir", "format", "include_updates", "include_dlc"]

def standard (tempDir : String) : TransferSettings :=
  { pollIntervalMs := 2000, tempDir, format := "nsp", includeUpdates := true, includeDlc := false }

def toValue (s : TransferSettings) : SettingValue :=
  .table [("poll_interval_ms", .ofNat s.pollIntervalMs), ("temp_dir", .text s.tempDir),
    ("format", .text s.format), ("include_updates", .bool s.includeUpdates),
    ("include_dlc", .bool s.includeDlc)]

def ofValue? (tempDir : String) (v : SettingValue) : Option TransferSettings := do
  let standard := standard tempDir
  match ← v.fields? fieldNames with
  | [poll, dir, format, updates, dlc] =>
    some
      { pollIntervalMs := ← SettingValue.orElse standard.pollIntervalMs
          (SettingValue.natural? Decimal.largest64) poll
        tempDir := ← SettingValue.orElse standard.tempDir SettingValue.text? dir
        format := ← SettingValue.orElse standard.format SettingValue.text? format
        includeUpdates := ← SettingValue.orElse standard.includeUpdates SettingValue.bool? updates
        includeDlc := ← SettingValue.orElse standard.includeDlc SettingValue.bool? dlc }
  | _ => none

end TransferSettings

namespace Settings

def fieldNames : List String :=
  ["simulation", "verbose", "json_logs", "discovery", "client", "transfer"]

/-- The settings when nothing is said, with the folder that the system keeps for temporary files. -/
def standard (tempDir : String) : Settings :=
  { simulation := false, verbose := false, jsonLogs := false, discovery := .standard
    client := .standard, transfer := .standard tempDir }

def toValue (s : Settings) : SettingValue :=
  .table [("simulation", .bool s.simulation), ("verbose", .bool s.verbose),
    ("json_logs", .bool s.jsonLogs), ("discovery", s.discovery.toValue),
    ("client", s.client.toValue), ("transfer", s.transfer.toValue)]

def ofValue? (tempDir : String) (v : SettingValue) : Option Settings := do
  let standard := standard tempDir
  match ← v.fields? fieldNames with
  | [simulation, verbose, jsonLogs, discovery, client, transfer] =>
    some
      { simulation := ← SettingValue.orElse standard.simulation SettingValue.bool? simulation
        verbose := ← SettingValue.orElse standard.verbose SettingValue.bool? verbose
        jsonLogs := ← SettingValue.orElse standard.jsonLogs SettingValue.bool? jsonLogs
        discovery := ← SettingValue.orElse .standard DiscoverySettings.ofValue? discovery
        client := ← SettingValue.orElse .standard ClientSettings.ofValue? client
        transfer := ← SettingValue.orElse standard.transfer (TransferSettings.ofValue? tempDir)
          transfer }
  | _ => none

end Settings

end TitleDock
