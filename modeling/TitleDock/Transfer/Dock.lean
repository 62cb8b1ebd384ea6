import TitleDock.Digest
import TitleDock.Settings.Fields
import TitleDock.Transfer.Flight
import TitleDock.Transfer.Spool
import TitleDock.Transfer.Verdict

/-! A dock connects to one device at a time and fetches titles from it, one after the other. It
moves in steps: a call comes in, or something arrives for the call under way, which then goes on
until it has to wait again. Connecting and disconnecting start a new generation, and a call of an
earlier one can no longer change the state. Everything observable is written down in the journal. -/

namespace TitleDock

structure Dock where
  settings : TransferSettings
  state : TransferState
  device : Option Device
  generation : Nat
  /-- The token of the fetch that a disconnection would cancel. -/
  active : Option Token
  /-- The call under way; there is at most one. -/
  flight : Option Flight
  cancelled : List Token
  /-- How many fetches were let in. -/
  serial : Nat
  files : Files.Tree
  disk : Files.Disk
  /-- What happened, last entry first. -/
  journal : List Note

inductive DockInput where
  | connect (ticket : Nat) (device : Device)
  | fetch (ticket : Nat) (title : Title) (target : FetchTarget) (token : String)
  | disconnect
  | cancel (token : String)
  /-- The disk behaves in another way from now on. -/
  | disk (disk : Files.Disk)
  | arrive (a : Arrival)

def Parcel.outcome (p : Parcel) (output : String) : FetchOutcome :=
  { operationId := p.session.operationId, output, payloadBytes := p.payload.length
    contentBytes := p.content.length, digest := Digest.hex p.content }

namespace Dock

def new (settings : TransferSettings) (files : Files.Tree) : Dock :=
  { settings, state := .idle, device := none, generation := 0, active := none, flight := none,
    cancelled := [], serial := 0, files, disk := .willing, journal := [] }

def isBusy (d : Dock) : Bool := d.flight.isSome

/-- A token is cancelled by itself or through its parent. -/
def isCancelled (d : Dock) (t : Token) : Bool :=
  t ∈ d.cancelled || match t with
    | .fetch _ parent => decide (.caller parent ∈ d.cancelled)
    | .caller _ => false

/-! ### The journal -/

def note (d : Dock) (n : Note) : Dock := { d with journal := n :: d.journal }

def emit (d : Dock) (e : TransferEvent) : Dock := d.note (.event e)

def say (d : Dock) (line : String) : Dock := d.emit (.status line)

def record (d : Dock) (level : LogLevel) (message : String) (fields : List (String × LogValue)) :
    Dock :=
  d.note (.record { source := .transfer, level, message, fields })

/-! ### Beginnings and ends of calls -/

/-- Moves to a state on behalf of a generation; a past one leaves the state alone. -/
def transition (d : Dock) (generation : Nat) (s : TransferState) : Dock :=
  if d.generation = generation then { d with state := s }.emit (.state s)
  else d.record .debug "Dropping state change from stale workflow" [("state", .text s.name)]

def fail (d : Dock) (generation : Nat) (f : Fault) : Dock :=
  (d.transition generation (.ofFault f)).say ("Error: " ++ f.message)

def release (d : Dock) (ticket : Nat) (r : CallResult) : Dock :=
  { d with flight := none }.note (.returned ticket r)

def wait (d : Dock) (f : Flight) : Dock :=
  { d with flight := some f }.note (.awaits f.await)

def clear (d : Dock) (stage : Stage) : Dock :=
  { d with files := stage.temporaries.foldl Files.Tree.erase d.files }

def retire (d : Dock) (generation : Nat) : Dock :=
  if d.generation = generation then { d with active := none } else d

def conclude (d : Dock) (job : Job) : Except Fault FetchOutcome → Dock
  | .ok outcome =>
    let d := d.record .info "Extraction complete" [("output", .text outcome.output),
      ("bytes", .number outcome.contentBytes), ("digest", .text outcome.digest)]
    let d := d.transition job.generation .succeeded
    d.say ("Saved " ++ job.title.name ++ " to " ++ outcome.output)
  | .error f => d.fail job.generation f

def finish (d : Dock) (job : Job) (stage : Stage) (r : Except Fault FetchOutcome) : Dock :=
  let d := ((d.clear stage).note .spanClosed).retire job.generation
  (d.conclude job r).release job.ticket (.fetched r)

def enter (d : Dock) (job : Job) (stage : Stage) : Dock :=
  if d.isCancelled job.token then d.finish job stage (.error .cancelled)
  else d.wait (.fetching job stage)

@[simp] theorem flight_release (d : Dock) (ticket : Nat) (r : CallResult) :
    (d.release ticket r).flight = none := rfl

@[simp] theorem flight_finish (d : Dock) (job : Job) (stage : Stage)
    (r : Except Fault FetchOutcome) : (d.finish job stage r).flight = none := rfl

@[simp] theorem flight_wait (d : Dock) (f : Flight) : (d.wait f).flight = some f := rfl

theorem isCancelled_of_mem {d : Dock} {t : Token} (h : t ∈ d.cancelled) :
    d.isCancelled t = true := by
  simp [isCancelled, h]

theorem enter_of_isCancelled {d : Dock} {job : Job} (h : d.isCancelled job.token = true)
    (stage : Stage) : d.enter job stage = d.finish job stage (.error .cancelled) := by
  rw [enter, if_pos h]

theorem enter_of_not_isCancelled {d : Dock} {job : Job} (h : d.isCancelled job.token = false)
    (stage : Stage) : d.enter job stage = d.wait (.fetching job stage) := by
  rw [enter, if_neg (by simp [h])]

theorem isCancelled_of_isBusy_enter {d : Dock} {job : Job} {stage : Stage}
    (h : (d.enter job stage).isBusy = false) : d.isCancelled job.token = true := by
  cases live : d.isCancelled job.token with
  | true => rfl
  | false =>
    rw [enter_of_not_isCancelled live] at h
    cases h

theorem transition_of_current {d : Dock} {generation : Nat} (h : d.generation = generation)
    (s : TransferState) :
    d.transition generation s = { d with state := s }.emit (.state s) := by
  rw [transition, if_pos h]

@[simp] theorem generation_transition (d : Dock) (generation : Nat) (s : TransferState) :
    (d.transition generation s).generation = d.generation := by
  rw [transition]
  split <;> rfl

/-! ### Connecting -/

def connect (d : Dock) (ticket : Nat) (device : Device) : Dock :=
  if d.isBusy then d.note (.returned ticket (.connected (.error .busy)))
  else
    let generation := d.generation + 1
    let d := { d with generation, device := none }
    let d := d.transition generation .connecting
    let d := d.say ("Connecting to " ++ toString device.address ++ "...")
    d.wait (.connecting ticket device generation)

def connectedLine (device : Device) (titleCount : Nat) : String :=
  "Connected to " ++ device.name ++ " at " ++ toString device.address ++ " (" ++
    toString titleCount ++ " titles available)"

def finishConnect (d : Dock) (ticket : Nat) (device : Device) (generation : Nat) :
    Except Fault (List Title) → Dock
  | .ok titles =>
    let d := if d.generation = generation then { d with device := some device } else d
    let d := d.transition generation (.connected titles.length)
    let d := d.say (connectedLine device titles.length)
    d.release ticket (.connected (.ok titles.length))
  | .error f =>
    let f := Fault.connection (toString f)
    (d.fail generation f).release ticket (.connected (.error f))

/-- Forgets the device and cancels the fetch under way, if there is one. -/
def disconnect (d : Dock) : Dock :=
  let d := { d with generation := d.generation + 1, device := none, state := .idle, active := none,
                    cancelled := d.active.toList ++ d.cancelled }
  (d.emit (.state .idle)).say "Disconnected from device"

/-! ### Fetching -/

def requestFor (s : TransferSettings) (title : Title) : ExtractionRequest :=
  { titleId := title.titleId, format := s.format, includeUpdates := s.includeUpdates
    includeDlc := s.includeDlc }

def fetch (d : Dock) (ticket : Nat) (title : Title) (target : FetchTarget) (token : String) :
    Dock :=
  if d.isBusy then d.note (.returned ticket (.fetched (.error .busy)))
  else match d.device with
    | none => d.note (.returned ticket (.fetched (.error .notConnected)))
    | some device =>
      let job : Job :=
        { ticket, token := .fetch d.serial token, device, generation := d.generation, title, target
          request := requestFor d.settings title }
      let d := { d with active := some job.token, serial := d.serial + 1 }
      let d := d.transition job.generation .requesting
      let d := d.say ("Requesting extraction of " ++ title.name ++ "...")
      d.enter job .requesting

def accepted (d : Dock) (job : Job) : Except Fault String → Dock
  | .error f => d.finish job .requesting (.error (.request (toString f)))
  | .ok operationId =>
    let d := d.record .info "Extraction accepted" [("operation_id", .text operationId)]
    let d := d.transition job.generation (.polling operationId)
    let d := d.say "Extraction started, waiting for completion..."
    d.enter job (.resting operationId .pending)

def polled (d : Dock) (job : Job) (operationId : String) (last : SessionStatus)
    (r : Except Fault Session) : Dock :=
  match Session.accept last r with
  | .error f => d.finish job (.polling operationId last) (.error f)
  | .ok session =>
    let d := d.record .debug "Polled extraction status" [("status", .text session.status.name)]
    match session.status with
    | .pending => d.enter job (.resting operationId .pending)
    | .inProgress =>
      let d := d.emit (.extractProgress session.bytesTransferred session.totalBytes)
      let d := d.say session.progressLine
      d.enter job (.resting operationId .inProgress)
    | .completed =>
      let d := d.transition job.generation (.downloading operationId)
      let d := d.say "Extraction completed, downloading file..."
      d.enter job (.opening session)
    | .failed => d.finish job (.polling operationId last) (.error session.failure)

/-- The download starts to come in. The folder for spools is made without a look at the token, so a
cancellation that comes meanwhile is met behind this step. -/
def opened (d : Dock) (job : Job) (session : Session) : Except Fault Download → Dock
  | .error f =>
    d.finish job (.opening session) (.error (.processing ("download failed: " ++ toString f)))
  | .ok download =>
    let made := d.files.openSpool d.disk d.settings.tempDir
    let d := { d with files := made.1 }
    match made.2 with
    | .error f => d.finish job (.opening session) (.error f)
    | .ok spool =>
      d.enter job (.receiving session
        (.start spool (session.payloadSize download.contentLength)))

def report (d : Dock) (total : Nat) : Option Nat → Dock
  | some n => d.emit (.downloadProgress n total)
  | none => d

/-- A piece of the payload came in; an empty one is its end. -/
def received (d : Dock) (job : Job) (session : Session) (r : Reception) :
    Except SystemError Bytes → Dock
  | .error e =>
    d.finish job (.receiving session r) (.error (.ofSystem "failed to download payload" e))
  | .ok bytes =>
    let (progress, count) := r.progress.count bytes.length
    let d := d.report r.total count
    if bytes.isEmpty then d.enter job (.flushing session { r with progress })
    else d.enter job (.receiving session { r with pieces := bytes :: r.pieces, progress })

def keepPayload (d : Dock) (r : Reception) : Dock :=
  let payload := r.payload
  let d := { d with files := d.files.put r.spool (.file payload) }
  let d := d.record .debug "Payload spooled" [("path", .text (Files.ofSteps true r.spool)),
    ("bytes", .number payload.length)]
  let d := if 0 < r.total ∧ payload.length ≠ r.total then
      d.record .warn "Payload size differs from declared total" [("expected", .number r.total),
        ("received", .number payload.length)]
    else d
  d.say "Processing extracted payload..."

def reopened (d : Dock) (job : Job) (session : Session) (r : Reception) : Dock :=
  match d.disk.allow d.files (.reopen r.spool) with
  | .error e => d.finish job (.flushing session r) (.error (.ofSystem "failed to reopen payload" e))
  | .ok () => d.enter job (.decoding session r.spool r.payload)

def flushed (d : Dock) (job : Job) (session : Session) (r : Reception) : Dock :=
  match d.disk.allow d.files (.flush r.spool) with
  | .error e =>
    d.finish job (.flushing session r) (.error (.ofSystem "failed to download payload" e))
  | .ok () => (d.keepPayload r).reopened job session r

/-- The content came back from the codec. Making the folders of its output is begun at once, and a
cancellation does not stop it. -/
def decoded (d : Dock) (job : Job) (session : Session) (spool : Files.Place) (payload : Bytes) :
    Except CodecError Bytes → Dock
  | .error e => d.finish job (.decoding session spool payload) (.error (.processing e.message))
  | .ok content =>
    let made := d.files.makeFolders d.disk (Files.Tree.partFolder job.target.output)
    let refused := match made.2 with
      | .error e => some e
      | .ok () => none
    { d with files := made.1 }.enter job (.placing { session, spool, payload, content } refused)

def unwritten (d : Dock) (job : Job) (stage : Stage) (e : SystemError) : Dock :=
  d.finish job stage (.error (.ofSystem "failed to write output" e))

def placed (d : Dock) (job : Job) (p : Parcel) : Option SystemError → Dock
  | some e => d.unwritten job (.placing p (some e)) e
  | none =>
    match d.files.openPart d.disk job.target.output with
    | .error e => d.unwritten job (.placing p none) e
    | .ok (part, files) => { d with files }.enter job (.filling p part)

/-- The part is filled and moved to the output, or that failed. After the move there is no part. -/
def filled (d : Dock) (job : Job) (p : Parcel) (part : Files.Place) : Dock :=
  match d.files.storePart d.disk part job.target.output p.content with
  | .error e => d.unwritten job (.filling p part) e
  | .ok files =>
    { d with files }.finish job (.placing p none) (.ok (p.outcome job.target.output))

/-- Something arrives for a fetch. Being cancelled goes before everything else, and what the stage
does not wait for is left aside. -/
def resume (d : Dock) (job : Job) (stage : Stage) (a : Arrival) : Dock :=
  if d.isCancelled job.token then d.finish job stage (.error .cancelled)
  else match stage, a with
    | .requesting, .answer (.accepted r) => d.accepted job r
    | .resting operationId last, .rested => d.enter job (.polling operationId last)
    | .polling operationId last, .answer (.status r) => d.polled job operationId last r
    | .opening session, .answer (.download r) => d.opened job session r
    | .receiving session r, .piece p => d.received job session r p
    | .flushing session r, .stored => d.flushed job session r
    | .decoding session spool payload, .decoded r => d.decoded job session spool payload r
    | .placing p refused, .stored => d.placed job p refused
    | .filling p part, .stored => d.filled job p part
    | _, _ => d

def arrive (d : Dock) (a : Arrival) : Dock :=
  match d.flight, a with
  | some (.connecting ticket device generation), .answer (.titles r) =>
    d.finishConnect ticket device generation r
  | some (.fetching job stage), a => d.resume job stage a
  | _, _ => d

/-- The call under way is dropped by its caller: it is over without a result, and its temporary
files are gone. -/
def drop (d : Dock) : Dock :=
  match d.flight with
  | some (.connecting ..) => { d with flight := none }
  | some (.fetching _ stage) => { (d.clear stage).note .spanClosed with flight := none }
  | none => d

theorem resume_of_isCancelled {d : Dock} {job : Job} (h : d.isCancelled job.token = true)
    (stage : Stage) (a : Arrival) : d.resume job stage a = d.finish job stage (.error .cancelled) := by
  unfold resume
  exact if_pos h

theorem connect_of_isBusy {d : Dock} (h : d.isBusy = true) (ticket : Nat) (device : Device) :
    d.connect ticket device = d.note (.returned ticket (.connected (.error .busy))) := by
  rw [connect, if_pos h]

theorem fetch_of_isBusy {d : Dock} (h : d.isBusy = true) (ticket : Nat) (title : Title)
    (target : FetchTarget) (token : String) :
    d.fetch ticket title target token = d.note (.returned ticket (.fetched (.error .busy))) := by
  rw [fetch, if_pos h]

def step (d : Dock) : DockInput → Dock
  | .connect ticket device => d.connect ticket device
  | .fetch ticket title target token => d.fetch ticket title target token
  | .disconnect => d.disconnect
  | .cancel token => { d with cancelled := .caller token :: d.cancelled }
  | .disk disk => { d with disk }
  | .arrive a => d.arrive a

def run (d : Dock) (inputs : List DockInput) : Dock := inputs.foldl step d

def result? (d : Dock) (ticket : Nat) : Option CallResult :=
  d.journal.findSome? fun n =>
    match n with
    | .returned t r => if t = ticket then some r else none
    | _ => none

end Dock

end TitleDock
