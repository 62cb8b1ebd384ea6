import TitleDock.Command.Line
import TitleDock.Discovery.Presence
import TitleDock.Event.Console
import TitleDock.Json.Pretty
import TitleDock.Text.Column
import TitleDock.Transfer.Dock

/-! Commands that call on one device: to show its info, to list its titles, or to fetch one of them.
Each first adds the device by hand. An errand waits for one answer at a time, and the first fault
ends it. It crashes where the progress of a download cannot be printed. -/

namespace TitleDock

inductive Purpose where
  | info
  | titles (json : Bool)
  | fetch (titleId : String) (target : FetchTarget)
deriving DecidableEq, Repr

inductive ErrandStage where
  | probing (address : SocketAddress)
  | describing (d : Device)
  | listing (d : Device)
  /-- The dock connects. -/
  | docking (d : Device) (dock : Dock)
  /-- The titles are listed once more, to find the one that is asked for. -/
  | choosing (d : Device) (dock : Dock)
  | fetching (title : Title) (dock : Dock)
  | ended (r : Except String Unit)
  | crashed (message : String)

structure Errand where
  purpose : Purpose
  settings : TransferSettings
  presence : Presence
  files : Files.Tree
  /-- How the disk behaves at a time. -/
  disk : Nat → Files.Disk
  stage : ErrandStage
  /-- The calls that were made, last one first. -/
  calls : List Call
  out : String
  /-- What was logged, last record first. -/
  records : List LogRecord
  logger : EventLogger
  printer : ConsolePrinter

namespace ErrandStage

def await? (now : Nat) : ErrandStage → Option Await
  | .probing address => some (.answer (.info (.probe address now)))
  | .describing d => some (.answer (.info d))
  | .listing d => some (.answer (.titles d))
  | .docking _ dock => dock.flight.map Flight.await
  | .choosing d _ => some (.answer (.titles d))
  | .fetching _ dock => dock.flight.map Flight.await
  | .ended _ | .crashed _ => none

end ErrandStage

namespace Errand

/-- The token that the end of the program cancels, and nothing else. -/
def shutdown : String := "shutdown"

def record (e : Errand) (r : LogRecord) : Errand := { e with records := r :: e.records }

def print (e : Errand) (text : String) : Errand := { e with out := e.out ++ text }

def enter (e : Errand) (now : Nat) (stage : ErrandStage) : Errand :=
  let calls := match stage.await? now with
    | some (.answer c) => c :: e.calls
    | _ => e.calls
  { e with stage, calls }

def finish (e : Errand) (r : Except String Unit) : Errand := { e with stage := .ended r }

def stop (e : Errand) (f : Fault) : Errand := e.finish (.error (toString f))

def addressField (a : SocketAddress) : String × LogValue := ("addr", .text (toString a))

def verifying (a : SocketAddress) : LogRecord :=
  { source := .discovery, level := .debug, message := "Verifying manually added device"
    fields := [addressField a] }

def additions (isNew : Bool) (d : Device) : List LogRecord :=
  let known : LogRecord :=
    if isNew then
      { source := .registry, level := .info, message := "Device discovered"
        fields := [addressField d.address, ("name", .text d.name)] }
    else
      { source := .registry, level := .debug, message := "Device replaced"
        fields := [addressField d.address] }
  [known, { source := .discovery, level := .info, message := "Device added manually"
            fields := [addressField d.address, ("name", .text d.name)] }]

def start (purpose : Purpose) (settings : TransferSettings) (presence : Presence)
    (files : Files.Tree) (disk : Nat → Files.Disk) (host : String) (port now : Nat) : Errand :=
  let e : Errand :=
    { purpose, settings, presence, files, disk, stage := .ended (.ok ()), calls := [], out := ""
      records := [], logger := .new, printer := .new }
  match manualAddress host port with
  | .error f => e.stop f
  | .ok address => (e.record (verifying address)).enter now (.probing address)

def infoText (d : Device) (info : DeviceInfo) : String :=
  d.name ++ " at " ++ toString d.address ++ "\n" ++
    String.join (info.map fun (key, value) => "  " ++ Text.left 12 key ++ " " ++ value ++ "\n")

def titleLine (t : Title) : String :=
  "  " ++ t.titleId ++ " " ++ Text.left 32 t.name ++ " v" ++ Text.left 10 t.version ++ " " ++
    Text.right 12 (toString t.size.toNat) ++ " bytes" ++
    (if t.extractable then "" else "  (not extractable)") ++ "\n"

def titlesText (d : Device) (ts : List Title) : String :=
  toString ts.length ++ " titles on " ++ d.name ++ ":\n" ++ String.join (ts.map titleLine)

def titlesJson (ts : List Title) : String :=
  (((Title.listToJson ts).pretty 0).text?.getD "") ++ "\n"

def savedText (title : Title) (o : FetchOutcome) : String :=
  "Saved " ++ title.name ++ " (" ++ toString o.contentBytes ++ " bytes, blake3 " ++ o.digest ++
    ") to " ++ o.output ++ "\n"

def spanRecord : LogRecord :=
  { source := .transfer, level := .info, message := "close", fields := [] }

def tell (now : Nat) (e : Errand) : Note → Errand
  | .event event =>
    let (record, logger) := e.logger.log now event
    let e := { e with logger, records := record.toList ++ e.records }
    match e.printer.print event with
    | .ok (text, printer) => { e with printer, out := e.out ++ text }
    | .error message => { e with stage := .crashed message }
  | .record r => e.record r
  | .spanClosed => e.record spanRecord
  | .awaits (.answer c) => { e with calls := c :: e.calls }
  | _ => e

def reveal (now : Nat) (e : Errand) (n : Note) : Errand :=
  match e.stage with
  | .crashed _ => e
  | _ => e.tell now n

/-- Gives the dock an input and shows what it did. After a crash the call under way is dropped. -/
def drive (e : Errand) (now : Nat) (dock : Dock) (i : DockInput) : Errand × Dock :=
  let after := (dock.step (.disk (e.disk now))).step i
  let new := (after.journal.take (after.journal.length - dock.journal.length)).reverse
  let e := new.foldl (reveal now) e
  let after := match e.stage with
    | .crashed _ => after.drop
    | _ => after
  ({ e with files := after.files }, after)

def connectTicket : Nat := 0
def fetchTicket : Nat := 1

def docked (e : Errand) (now : Nat) (d : Device) (dock : Dock) : Errand :=
  match e.stage, dock.result? connectTicket with
  | .crashed _, _ => e
  | _, some (.connected (.error f)) => e.stop f
  | _, some _ => e.enter now (.choosing d dock)
  | _, none => { e with stage := .docking d dock }

def fetched (e : Errand) (title : Title) (dock : Dock) : Errand :=
  match e.stage, dock.result? fetchTicket with
  | .crashed _, _ => e
  | _, some (.fetched (.ok outcome)) => (e.print (savedText title outcome)).finish (.ok ())
  | _, some (.fetched (.error f)) => e.stop f
  | _, _ => { e with stage := .fetching title dock }

def probed (e : Errand) (now : Nat) (address : SocketAddress) (r : Except Fault DeviceInfo) :
    Errand :=
  let isNew := !e.presence.known.isKnown address
  let (added, presence) := e.presence.finishAdd now address r
  match added with
  | .error f => e.stop f
  | .ok d =>
    let e := (additions isNew d).foldl record { e with presence }
    match e.purpose with
    | .info => e.enter now (.describing d)
    | .titles _ => e.enter now (.listing d)
    | .fetch .. =>
      let (e, dock) := e.drive now (.new e.settings e.files) (.connect connectTicket d)
      e.docked now d dock

def listed (e : Errand) (d : Device) : Except Fault (List Title) → Errand
  | .error f => e.stop f
  | .ok ts =>
    let text := match e.purpose with
      | .titles true => titlesJson ts
      | _ => titlesText d ts
    (e.print text).finish (.ok ())

def chosen (e : Errand) (now : Nat) (d : Device) (dock : Dock) :
    Except Fault (List Title) → Errand
  | .error f => e.stop f
  | .ok ts =>
    match e.purpose with
    | .fetch titleId target =>
      match ts.find? (·.titleId = titleId) with
      | none => e.finish (.error ("Title " ++ titleId ++ " is not offered by " ++ d.name))
      | some title =>
        if title.extractable then
          let (e, dock) := e.drive now dock (.fetch fetchTicket title target shutdown)
          e.fetched title dock
        else
          e.finish (.error ("Title " ++ title.titleId ++ " (" ++ title.name ++
            ") is not extractable"))
    | _ => e

def resume (e : Errand) (now : Nat) (a : Arrival) : Errand :=
  match e.stage, a with
  | .probing address, .answer (.info r) => e.probed now address r
  | .describing d, .answer (.info r) =>
    match r with
    | .error f => e.stop f
    | .ok info => (e.print (infoText d info)).finish (.ok ())
  | .listing d, .answer (.titles r) => e.listed d r
  | .docking d dock, a =>
    let (e, dock) := e.drive now dock (.arrive a)
    e.docked now d dock
  | .choosing d dock, .answer (.titles r) => e.chosen now d dock r
  | .fetching title dock, a =>
    let (e, dock) := e.drive now dock (.arrive a)
    e.fetched title dock
  | _, _ => e

end Errand

end TitleDock
