import TitleDock.Command.Course
import TitleDock.Command.Watch
import TitleDock.Event.Filter
import TitleDock.Settings.Layers

/-! The program from its command line to its exit: the arguments are read, then the settings, then
the command runs. A fault ends it with the name of what failed and, below, the reason. -/

namespace TitleDock

structure Invocation where
  arguments : List String
  envVars : List (String × String)
  files : Files.Tree
  /-- How the disk behaves at a time. -/
  disk : Nat → Files.Disk
  /-- What can be read from standard input. -/
  input : String
  /-- The time at the start, and how times are shown. -/
  now : Nat
  clock : Nat → String
  /-- Whether an address can be bound for discovery. -/
  canBind : SocketAddress → Bool

structure ProgramFault where
  message : String
  causes : List String
deriving DecidableEq, Repr

inductive ProgramEnd where
  | usage (e : UsageError)
  | settings (e : SettingsError)
  | failed (f : ProgramFault)
  | panicked (message : String)
  | done
  /-- The run is not over: it waits for what never comes, or takes too many steps. -/
  | unfinished
deriving DecidableEq, Repr

structure ProgramRun where
  ending : ProgramEnd
  out : String
  /-- The records that the filter keeps. -/
  records : List LogRecord
  /-- Whether records are wanted as JSON. -/
  jsonLogs : Bool
  files : Files.Tree
  device : CannedDevice

inductive Task where
  | watch (duration : Option Nat)
  | errand (purpose : Purpose) (host : String) (port : Nat)
deriving DecidableEq, Repr

namespace ProgramEnd

def exitCode? : ProgramEnd → Option Nat
  | usage e => some e.exitCode
  | done => some 0
  | settings _ | failed _ => some 1
  | panicked _ => some 101
  | unfinished => none

def complaint : ProgramEnd → String
  | usage e => if e.exitCode = 0 then "" else "error: " ++ e.name ++ "\n"
  | settings e => "Error: " ++ e.message ++ "\n"
  | failed f =>
    "Error: " ++ f.message ++ "\n\nCaused by:\n" ++
      String.join (f.causes.map fun cause => "    " ++ cause ++ "\n")
  | panicked message => "panicked: " ++ message ++ "\n"
  | done | unfinished => ""

def ofResult : Except ProgramFault Unit → ProgramEnd
  | .ok () => done
  | .error f => failed f

end ProgramEnd

namespace Command

def failure : Command → String
  | discover _ => "Discovery failed"
  | info .. => "Failed to query device info"
  | titles .. => "Failed to list titles"
  | fetch .. => "Fetch failed"

def task : Command → Task
  | discover duration => .watch duration
  | info host port => .errand .info host port
  | titles host port json => .errand (.titles json) host port
  | fetch host port title platform output =>
    .errand (.fetch title { output, platform }) host port

end Command

namespace Program

def simulatedLatency : Nat := 150

def overrides (o : GlobalOptions) : SettingValue :=
  .table ([("simulation", o.simulation), ("verbose", o.verbose),
    ("json_logs", o.jsonLogs)].filterMap fun (name, value) => value.map fun b => (name, .bool b))

/-- A filter from the environment goes before the standard one, if it can be read. -/
def filterOf (envVars : List (String × String)) (s : Settings) : LogFilter :=
  ((envVars.lookup "RUST_LOG").bind LogFilter.parse?).getD (.standard s.verbose)

def bindRefused (bind : SocketAddress) : LogRecord :=
  { source := .beacon, level := .warn
    message := "Discovery unavailable, continuing with manual add only"
    fields := [("addr", .text (toString bind)),
      ("error", .text SystemError.addressNotAvailable.message)] }

def beaconStarted (s : DiscoverySettings) : LogRecord :=
  { source := .beacon, level := .info, message := "Beacon started"
    fields := [("addr", .text (toString s.bind)), ("broadcast", .text (toString s.broadcast))] }

def watch? (i : Invocation) (s : Settings) : Option Watch :=
  let capacity := s.discovery.eventCapacity
  if s.simulation then some (.simulated capacity i.now i.clock i.input)
  else if i.canBind s.discovery.bind then
    some { Watch.quiet capacity i.now i.clock with records := [beaconStarted s.discovery] }
  else none

/-- Watches for devices for a number of seconds, or else until everything that waits has been heard;
`around` is what happens to the registry besides, at its times. -/
def discover (i : Invocation) (s : Settings) (duration : Option Nat)
    (around : List (Nat × DiscoveryAction)) : Except ProgramFault Unit × String × List LogRecord :=
  match watch? i s with
  | some w =>
    let w := w.finishAt (i.now + (duration.map (· * 1000)).getD 1) around
    (.ok (), w.out, w.records)
  | none =>
    (.error { message := Command.failure (.discover duration), causes := [watchUnavailable] }, "",
      [bindRefused s.discovery.bind])

def peerOf (s : Settings) (device : CannedDevice) : Peer :=
  if s.simulation then .simulated { SimulatedDevice.demo with latency := simulatedLatency }
  else .network device

/-- The records of a run in order: those that the filter keeps, with the ends of spans only for
JSON. -/
def logged (i : Invocation) (s : Settings) (records : List LogRecord) : List LogRecord :=
  let filter := filterOf i.envVars s
  records.filter fun r => filter.keeps r && (s.jsonLogs || r ≠ Errand.spanRecord)

def runCommand (i : Invocation) (s : Settings) (command : Command) (device : CannedDevice) :
    ProgramRun :=
  match command.task with
  | .watch duration =>
    let (result, out, records) := discover i s duration []
    { ending := .ofResult result, out, records := logged i s records
      jsonLogs := s.jsonLogs, files := i.files, device }
  | .errand purpose host port =>
    let errand := Errand.start purpose s.transfer (.new s.discovery.eventCapacity) i.files i.disk
      host port i.now
    let c := Course.run Course.patience (.start i.now errand (peerOf s device))
    { ending := match c.errand.stage with
        | .ended (.error reason) => .failed { message := command.failure, causes := [reason] }
        | .ended (.ok ()) => .done
        | .crashed message => .panicked message
        | _ => .unfinished
      out := c.errand.out
      records := logged i s c.errand.records.reverse
      jsonLogs := s.jsonLogs, files := c.errand.files
      device := match c.peer with
        | .network d => d
        | .simulated _ => device }

def run (i : Invocation) (device : CannedDevice) : ProgramRun :=
  let idle : ProgramRun :=
    { ending := .done, out := "", records := [], jsonLogs := false, files := i.files, device }
  match CommandLine.parse i.arguments with
  | .error e => { idle with ending := .usage e }
  | .ok line =>
    match Settings.load i.files line.options.config i.envVars
        (some (overrides line.options)) with
    | .error e => { idle with ending := .settings e }
    | .ok s => runCommand i s line.command device

end Program

end TitleDock
