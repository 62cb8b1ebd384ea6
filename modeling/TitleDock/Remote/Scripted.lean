import TitleDock.Remote.Simulated

/-! A device that answers from a script: for every kind of call how long it takes and what comes
back. The statuses are used up one by one, and the last one repeats. -/

namespace TitleDock

structure ScriptEntry (α : Type) where
  latency : Nat
  result : Except Fault α

/-- A status report; without an id of its own it carries the one that was asked for. -/
structure ReportEntry where
  operationId : Option String
  report : ScriptedStatus

structure ScriptedDevice where
  info : ScriptEntry DeviceInfo
  titles : ScriptEntry (List Title)
  extract : ScriptEntry String
  statuses : List (ScriptEntry ReportEntry)
  last : ScriptEntry ReportEntry
  download : ScriptEntry Download

namespace ReportEntry

def completed : ReportEntry := { operationId := none, report := .completed 0 }

def toSession (requested : String) (e : ReportEntry) : Session :=
  e.report.toSession (e.operationId.getD requested)

end ReportEntry

namespace ScriptedDevice

def answer (d : ScriptedDevice) : Call → Nat × Answer × ScriptedDevice
  | .info _ => (d.info.latency, .info d.info.result, d)
  | .titles _ => (d.titles.latency, .titles d.titles.result, d)
  | .extract .. => (d.extract.latency, .accepted d.extract.result, d)
  | .status _ operationId =>
    let (e, d) := match d.statuses with
      | e :: rest => (e, { d with statuses := rest, last := e })
      | [] => (d.last, d)
    (e.latency, .status (e.result.map (·.toSession operationId)), d)
  | .download .. => (d.download.latency, .download d.download.result, d)

end ScriptedDevice

end TitleDock
