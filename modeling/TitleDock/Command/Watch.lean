import TitleDock.Discovery.Run
import TitleDock.Event.Log
import TitleDock.Text.Column

/-! Watching for devices: every device that appears or goes is printed, and in the end all that are
known. A watcher that falls behind prints the known devices at once. -/

namespace TitleDock

structure Watch where
  run : DiscoveryRun
  /-- How a time of the run is shown. -/
  clock : Nat → String
  next : Cursor
  out : String
  records : List LogRecord

def watchUnavailable : String :=
  "Discovery socket unavailable; add devices manually with `info <host>`"

namespace Watch

def timeOfDay (ms : Nat) : String :=
  let two := fun (n : Nat) => (if n < 10 then "0" else "") ++ toString n
  let seconds := ms / 1000
  two (seconds / 3600 % 24) ++ ":" ++ two (seconds / 60 % 60) ++ ":" ++ two (seconds % 60)

def greeting : String := "Listening for devices... (Ctrl-C to stop)\n"

def deviceLine (clock : Nat → String) (d : Device) : String :=
  "  " ++ Text.left 21 (toString d.address) ++ " " ++ d.name ++ " (v" ++ d.version ++
    ", last seen " ++ clock d.lastSeen ++ ")\n"

def deviceLines (clock : Nat → String) (ds : List Device) : String :=
  toString ds.length ++ " device(s) known:\n" ++ String.join (ds.map (deviceLine clock))

def simulated (capacity start : Nat) (clock : Nat → String) (instructions : String) : Watch :=
  let run := { DiscoveryRun.new capacity with now := start }
  let (feed, out) := simulationFeed start instructions
  { run := { run with feed := feed.start.2 }, clock, next := run.presence.channel.join
    out := greeting ++ out
    records := [{ source := .simulation, level := .info, message := "Simulated discovery started"
                  fields := [] }] }

def quiet (capacity start : Nat) (clock : Nat → String) : Watch :=
  let run := { DiscoveryRun.new capacity with now := start }
  { run, clock, next := run.presence.channel.join, out := greeting, records := [] }

def behind (missed : Nat) : LogRecord :=
  { source := .program, level := .warn, message := "Registry events dropped, resynchronising"
    fields := [("missed", .number missed)] }

def foundRecord (d : Device) : LogRecord :=
  { source := .registry, level := .info, message := "Device discovered"
    fields := [("addr", .text (toString d.address)), ("name", .text d.name),
      ("version", .text d.version)] }

def lostRecord (d : Device) : LogRecord :=
  { source := .registry, level := .info, message := "Device removed"
    fields := [("addr", .text (toString d.address)), ("name", .text d.name)] }

def tell (w : Watch) : Received RegistryEvent → Watch
  | .event (.discovered d) =>
    { w with out := w.out ++ ">> FOUND: " ++ d.name ++ " at " ++ toString d.address ++ " (v" ++
                      d.version ++ ")\n"
             records := w.records ++ [foundRecord d] }
  | .event (.lost d) =>
    { w with out := w.out ++ ">> LOST: " ++ d.name ++ " at " ++ toString d.address ++ "\n"
             records := w.records ++ [lostRecord d] }
  | .lagged missed =>
    { w with out := w.out ++ deviceLines w.clock w.run.presence.table
             records := w.records ++ [behind missed] }

def react (w : Watch) : Watch :=
  let (items, next) := w.run.presence.channel.drain w.next
  items.foldl tell { w with next }

def perform (w : Watch) (time : Nat) (a : DiscoveryAction) : Watch :=
  let run := if w.run.now < time then (w.run.step (.sleep (time - w.run.now))).2 else w.run
  { w with run := (run.step a).2 }

/-- What happens around the watcher, in order of time. It only looks between different times. -/
def follow (w : Watch) : List (Nat × DiscoveryAction) → Watch
  | [] => w
  | [(time, a)] => (w.perform time a).react
  | (time, a) :: (later, b) :: rest =>
    let w := w.perform time a
    follow (if time < later then w.react else w) ((later, b) :: rest)

/-- The whole watch: it ends at the given time with a list of the known devices. A watch that is
over as soon as it begins hears nothing. -/
def finishAt (w : Watch) (finish : Nat) (around : List (Nat × DiscoveryAction)) : Watch :=
  if finish ≤ w.run.now then { w with out := w.out ++ deviceLines w.clock w.run.presence.table }
  else
    let w := (w.perform w.run.now .settle).react
    let w := w.follow (around.filter (·.1 < finish))
    { w with out := w.out ++ deviceLines w.clock w.run.presence.table }

end Watch

end TitleDock
