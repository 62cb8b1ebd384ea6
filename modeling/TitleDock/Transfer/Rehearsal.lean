import TitleDock.Remote.Scripted
import TitleDock.Transfer.Dock

/-! A rehearsal runs a dock with a made-up device and a made-up codec, in a time that jumps from one
event to the next. Computing and writing files take no time. -/

namespace TitleDock

inductive RehearsedDevice where
  | scripted (d : ScriptedDevice)
  | simulated (d : SimulatedDevice)

inductive RehearsedCodec where
  | raw
  /-- The name of the platform, a colon, and the payload backwards. -/
  | tag
  | fixed (r : Except CodecError Bytes)
  | unsupported
  /-- Never gives an answer. -/
  | hang

/-- What is to come in for the flight of the dock. A simulated device makes up its answer only at
the end of its latency. -/
inductive Delivery where
  | ready (a : Arrival)
  | simulated (c : Call)
  | piece

structure Rehearsal where
  now : Nat
  dock : Dock
  device : RehearsedDevice
  codec : RehearsedCodec
  stream : PayloadStream
  /-- The next delivery and its time; none if the flight waits forever, or if there is none. -/
  due : Option (Nat × Delivery)

inductive RehearsalAction where
  | connect (device : Device)
  | fetch (title : Title) (target : FetchTarget) (token : String)
  | disconnect
  | cancel (token : String)
  | look

structure DockView where
  state : TransferState
  busy : Bool
  device : Option Device

inductive RehearsalResult where
  | returned (r : CallResult)
  | nothing
  | view (v : DockView)

/-- The results of the actions that are over: the place of the action, the time, and the result. -/
abbrev RehearsalResults := List (Nat × Nat × RehearsalResult)

def Dock.view (d : Dock) : DockView :=
  { state := d.state, busy := d.isBusy, device := d.device }

namespace RehearsedCodec

def decode (payload : Bytes) (p : Platform) : RehearsedCodec → Option (Except CodecError Bytes)
  | raw => some (RawCodec.ofRead (.ok payload))
  | tag => some (.ok (Bytes.ofString (p.name ++ ":") ++ payload.reverse))
  | fixed r => some r
  | unsupported => some (.error (.unsupported p))
  | hang => none

end RehearsedCodec

namespace Rehearsal

def silent : PayloadStream := { bytes := [], chunk := none, delay := 0, ending := .finished }

def new (dock : Dock) (device : RehearsedDevice) (codec : RehearsedCodec) : Rehearsal :=
  { now := 0, dock, device, codec, stream := silent, due := none }

def ask (r : Rehearsal) (c : Call) : Rehearsal :=
  match r.device with
  | .scripted d =>
    let (latency, answer, d) := d.answer c
    { r with device := .scripted d, due := some (r.now + latency, .ready (.answer answer)) }
  | .simulated d =>
    { r with device := .simulated d.start, due := some (r.now + d.latency, .simulated c) }

def schedule (r : Rehearsal) : Rehearsal :=
  match r.dock.flight.map Flight.await with
  | none => { r with due := none }
  | some (.answer c) => r.ask c
  | some .rest => { r with due := some (r.now + r.dock.settings.pollIntervalMs, .ready .rested) }
  | some .piece => { r with due := some (r.now + r.stream.delay, .piece) }
  | some (.content payload p) =>
    { r with due := (r.codec.decode payload p).map fun c => (r.now, .ready (.decoded c)) }
  | some .storage => { r with due := some (r.now, .ready .stored) }

def arrive (r : Rehearsal) (a : Arrival) : Rehearsal :=
  let stream := match a with
    | .answer (.download (.ok download)) => download.stream
    | _ => r.stream
  schedule { r with stream, dock := r.dock.step (.arrive a) }

def deliver (r : Rehearsal) : Delivery → Rehearsal
  | .ready a => r.arrive a
  | .simulated c =>
    match r.device with
    | .simulated d =>
      let (answer, d) := d.answer c
      { r with device := .simulated d }.arrive (.answer answer)
    | .scripted _ => { r with due := none }
  | .piece =>
    match r.stream.read with
    | (some p, stream) => { r with stream }.arrive (.piece p)
    | (none, _) => { r with due := none }

def settle : Nat → Rehearsal → Rehearsal
  | 0, r => r
  | fuel + 1, r =>
    match r.due with
    | some (time, delivery) => if time ≤ r.now then settle fuel (r.deliver delivery) else r
    | none => r

def offer (r : Rehearsal) (i : DockInput) : Rehearsal :=
  let started := { r with dock := r.dock.step i }
  if r.dock.isBusy then started else started.schedule

def viewResult (r : Rehearsal) (ticket : Nat) (result : RehearsalResult) : RehearsalResults :=
  [(ticket, r.now, result)]

def start (r : Rehearsal) (ticket : Nat) : RehearsalAction → Rehearsal × RehearsalResults
  | .connect device => (r.offer (.connect ticket { device with lastSeen := r.now }), [])
  | .fetch title target token => (r.offer (.fetch ticket title target token), [])
  | .disconnect =>
    let r := r.offer .disconnect
    (r, r.viewResult ticket .nothing)
  | .cancel token =>
    let r := r.offer (.cancel token)
    (r, r.viewResult ticket .nothing)
  | .look => (r, r.viewResult ticket (.view r.dock.view))

def returnedSince (r : Rehearsal) (noted : Nat) : RehearsalResults :=
  (r.dock.journal.take (r.dock.journal.length - noted)).reverse.filterMap fun n =>
    match n with
    | .returned ticket result => some (ticket, r.now, .returned result)
    | _ => none

/-- The flight is cancelled but does not know it yet. -/
def isRevoked (r : Rehearsal) : Bool :=
  match r.dock.flight with
  | some (.fetching job _) => r.dock.isCancelled job.token
  | _ => false

def isDueBefore (r : Rehearsal) (time : Nat) : Bool :=
  match r.due with
  | some (due, _) => decide (due < time)
  | none => false

/-- Runs actions, given with their tickets and times in order of time, until all of them are over or
nothing can come in any more. At one time actions go first, then a cancelled flight finds out, then
deliveries are made. -/
def perform : Nat → List (Nat × Nat × RehearsalAction) → RehearsalResults → Rehearsal →
    RehearsalResults × Rehearsal
  | 0, _, results, r => (results, r)
  | fuel + 1, actions, results, r =>
    let noted := r.dock.journal.length
    let next (r : Rehearsal) (more : RehearsalResults) (rest : List (Nat × Nat × RehearsalAction)) :=
      let r := r.settle fuel
      perform fuel rest (results ++ more ++ r.returnedSince noted) r
    match actions with
    | (ticket, time, action) :: rest =>
      if time ≤ r.now then
        let (r, more) := r.start ticket action
        next r more rest
      else if r.isRevoked then next (r.arrive .woken) [] actions
      else if r.isDueBefore time then
        next { r with now := (r.due.map (·.1)).getD r.now } [] actions
      else perform fuel actions results { r with now := time }
    | [] =>
      if r.isRevoked then next (r.arrive .woken) [] actions
      else match r.due with
        | some (time, _) => next { r with now := max r.now time } [] []
        | none => (results, r)

def patience : Nat := 1000000

def rehearse (r : Rehearsal) (actions : List (Nat × RehearsalAction)) :
    RehearsalResults × Rehearsal :=
  let numbered := (List.range actions.length).zip actions
  let timed := numbered.map fun (ticket, time, action) => (ticket, r.now + time, action)
  perform patience (timed.mergeSort fun a b => a.2.1 ≤ b.2.1) [] r

end Rehearsal

end TitleDock
