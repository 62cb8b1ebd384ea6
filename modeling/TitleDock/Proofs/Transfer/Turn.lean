import TitleDock.Proofs.Transfer.Spared

/-! What an arrival makes of a fetch. A stage hears only what it waits for. What it hears leads it
to the next stage or closes the fetch, and the relations `Leads` and `Closes` say so without a dock:
which answers, which moves are told, which result. A fetch that is not cancelled takes no other
turn. -/

namespace TitleDock

/-! ### Moves and waits in a journal -/

/-- What a note tells of a transfer, but for lines for people and the return to `idle`. -/
def Note.move? : Note → Option TransferEvent
  | .event (.status _) | .event (.state .idle) => none
  | .event e => some e
  | _ => none

def Note.await? : Note → Option Await
  | .awaits a => some a
  | _ => none

def Await.isMetBy : Await → Arrival → Bool
  | .answer (.titles _), .answer (.titles _) => true
  | .answer (.extract ..), .answer (.accepted _) => true
  | .answer (.status ..), .answer (.status _) => true
  | .answer (.download ..), .answer (.download _) => true
  | .rest, .rested => true
  | .piece, .piece _ => true
  | .content .., .decoded _ => true
  | .storage, .stored => true
  | _, _ => false

theorem TransferState.idle_not_mem_of_isChain {states : List TransferState}
    (chain : states.IsChain TransferState.MayBecome) (last : states.getLast? ≠ some .idle)
    (apart : .connecting ∉ states) : .idle ∉ states := by
  induction states with
  | nil => simp
  | cons s rest ih =>
    cases rest with
    | nil => simpa [eq_comm] using last
    | cons next later =>
      obtain ⟨becomes, chain'⟩ := List.isChain_cons_cons.1 chain
      have further := ih chain' (by simpa using last) fun member =>
        apart (List.mem_cons_of_mem _ member)
      intro member
      obtain rfl | member := List.mem_cons.1 member
      · cases next with
        | idle => exact further (List.mem_cons_self ..)
        | connecting => simp at apart
        | _ => exact becomes
      · exact further member

namespace Dock

/-- The journal goes on with notes of these moves and these waits, each in order. -/
def Adds (d e : Dock) (moves : List TransferEvent) (waits : List Await) : Prop :=
  ∃ notes, e.journal = notes ++ d.journal ∧ notes.reverse.filterMap Note.move? = moves ∧
    notes.reverse.filterMap Note.await? = waits

section Adds

variable {d e f : Dock} {moves moves' : List TransferEvent} {waits waits' : List Await}

theorem adds_of_eq (h : e.journal = d.journal) : Adds d e [] [] := ⟨[], h, rfl, rfl⟩

theorem Adds.trans (h : Adds d e moves waits) (h' : Adds e f moves' waits') :
    Adds d f (moves ++ moves') (waits ++ waits') := by
  obtain ⟨notes, split, told, waited⟩ := h
  obtain ⟨notes', split', told', waited'⟩ := h'
  refine ⟨notes' ++ notes, by simp [split, split'], ?_, ?_⟩
  · simp [← told, ← told']
  · simp [← waited, ← waited']

theorem adds_of_note {n : Note} (h : e.journal = n :: d.journal) :
    Adds d e n.move?.toList n.await?.toList := by
  refine ⟨[n], h, ?_, ?_⟩
  · cases told : n.move? <;> simp [told]
  · cases waited : n.await? <;> simp [waited]

theorem filter_states (notes : List Note) :
    ((notes.filterMap Note.event?).filterMap TransferEvent.state?).filter (· ≠ .idle) =
      (notes.filterMap Note.move?).filterMap TransferEvent.state? := by
  have single (n : Note) : ((n.event?.bind TransferEvent.state?).filter (· ≠ .idle)) =
      n.move?.bind TransferEvent.state? := by
    rcases n with (s | _ | _ | _) | _ | _ | _ | _
    case event.state => cases s <;> rfl
    all_goals rfl
  rw [List.filterMap_filterMap, List.filterMap_filterMap, List.filter_filterMap]
  exact congrArg (List.filterMap · notes) (funext single)

theorem Adds.states (h : Adds d e moves waits) (sound : e.Sound) (busy : e.state ≠ .idle)
    (apart : .state .connecting ∉ moves) :
    e.states = d.states ++ moves.filterMap TransferEvent.state? := by
  obtain ⟨notes, split, told, -⟩ := h
  let states := (notes.reverse.filterMap Note.event?).filterMap TransferEvent.state?
  have all : e.states = d.states ++ states := by
    simp [Dock.states, events, split, states]
  have filtered : states.filter (· ≠ .idle) = moves.filterMap TransferEvent.state? := by
    rw [← told]
    exact filter_states notes.reverse
  have chain : states.IsChain TransferState.MayBecome := by
    have path : (TransferState.idle :: e.states).IsChain TransferState.MayBecome :=
      sound.lawful.isChain
    rw [all, ← List.cons_append] at path
    exact (List.isChain_append.1 path).2.1
  have last : states.getLast? ≠ some .idle := by
    intro idle
    have same := sound.announced
    rw [announced, show e.events.filterMap TransferEvent.state? = e.states from rfl, all,
      List.getLastD_eq_getLast?, List.getLast?_append, idle] at same
    exact busy same
  have silent : .connecting ∉ states := by
    intro member
    have kept : TransferState.connecting ∈ states.filter (· ≠ .idle) := by simpa using member
    rw [filtered] at kept
    exact apart (TransferEvent.mem_states.1 kept)
  rw [all, ← filtered, List.filter_eq_self.2]
  intro s member
  have other : s ≠ .idle := fun idle =>
    TransferState.idle_not_mem_of_isChain chain last silent (idle ▸ member)
  simpa using other

end Adds

end Dock

theorem Session.advances_of_accept {last : SessionStatus} {r : Except Fault Session} {s : Session}
    (h : accept last r = .ok s) : r = .ok s ∧ last.canAdvanceTo s.status = true := by
  cases r with
  | error f => cases h
  | ok t =>
    rw [accept] at h
    split at h
    case isTrue advances =>
      obtain rfl := Except.ok.inj h
      exact ⟨rfl, advances⟩
    case isFalse => cases h

/-! ### Turns without a dock -/

namespace Stage

/-- What a stage hears leads it to the next one, and the moves are told. -/
inductive Leads : Stage → Arrival → List TransferEvent → Stage → Prop
  | accepted (id : String) :
      Leads .requesting (.answer (.accepted (.ok id))) [.state (.polling id)] (.resting id .pending)
  | rested (id : String) (last : SessionStatus) :
      Leads (.resting id last) .rested [] (.polling id last)
  | pending {id : String} {last : SessionStatus} {session : Session}
      (advances : last.canAdvanceTo session.status = true) (status : session.status = .pending) :
      Leads (.polling id last) (.answer (.status (.ok session))) [] (.resting id .pending)
  | inProgress {id : String} {last : SessionStatus} {session : Session}
      (advances : last.canAdvanceTo session.status = true) (status : session.status = .inProgress) :
      Leads (.polling id last) (.answer (.status (.ok session)))
        [.extractProgress session.bytesTransferred session.totalBytes] (.resting id .inProgress)
  | completed {id : String} {last : SessionStatus} {session : Session}
      (advances : last.canAdvanceTo session.status = true) (status : session.status = .completed) :
      Leads (.polling id last) (.answer (.status (.ok session))) [.state (.downloading id)]
        (.opening session)
  | opened (session : Session) (download : Download) (spool : Files.Place) :
      Leads (.opening session) (.answer (.download (.ok download))) []
        (.receiving session (.start spool (session.payloadSize download.contentLength)))
  | received (session : Session) (r : Reception) {bytes : Bytes} (more : bytes ≠ []) :
      Leads (.receiving session r) (.piece (.ok bytes))
        ((r.progress.count bytes.length).2.toList.map (.downloadProgress · r.total))
        (.receiving session
          { r with pieces := bytes :: r.pieces, progress := (r.progress.count bytes.length).1 })
  | ended (session : Session) (r : Reception) :
      Leads (.receiving session r) (.piece (.ok []))
        ((r.progress.count 0).2.toList.map (.downloadProgress · r.total))
        (.flushing session { r with progress := (r.progress.count 0).1 })
  | flushed (session : Session) (r : Reception) :
      Leads (.flushing session r) .stored [] (.decoding session r.spool r.payload)
  | decoded (session : Session) (spool : Files.Place) (payload content : Bytes)
      (refused : Option SystemError) :
      Leads (.decoding session spool payload) (.decoded (.ok content)) []
        (.placing { session, spool, payload, content } refused)
  | placed (p : Parcel) (part : Files.Place) : Leads (.placing p none) .stored [] (.filling p part)

/-- The disk does not do for a dock what a stage needs next. A refusal to make the folders of the
output is told when they would be there. -/
inductive Denied (d : Dock) (output : String) : Stage → Arrival → Fault → Prop
  | spool (session : Session) (download : Download) {context : String} {e : SystemError}
      (denied : d.files.SpoolDenied d.disk d.settings.tempDir context e) :
      Denied d output (.opening session) (.answer (.download (.ok download))) (.ofSystem context e)
  | flush (session : Session) {r : Reception} {e : SystemError}
      (denied : d.disk.allow d.files (.flush r.spool) = .error e) :
      Denied d output (.flushing session r) .stored (.ofSystem "failed to download payload" e)
  | reopen (session : Session) {r : Reception} {e : SystemError}
      (flushed : d.disk.allow d.files (.flush r.spool) = .ok ())
      (denied : d.disk.allow (d.files.put r.spool (.file r.payload)) (.reopen r.spool) = .error e) :
      Denied d output (.flushing session r) .stored (.ofSystem "failed to reopen payload" e)
  | folders (p : Parcel) (e : SystemError) :
      Denied d output (.placing p (some e)) .stored (.ofSystem "failed to write output" e)
  | part (p : Parcel) {e : SystemError} (denied : d.files.openPart d.disk output = .error e) :
      Denied d output (.placing p none) .stored (.ofSystem "failed to write output" e)
  | content {p : Parcel} {part : Files.Place} {e : SystemError}
      (denied : d.files.storePart d.disk part output p.content = .error e) :
      Denied d output (.filling p part) .stored (.ofSystem "failed to write output" e)

/-- What a stage of a dock hears closes the fetch with a result. -/
inductive Closes (d : Dock) (job : Job) : Stage → Arrival → Except Fault FetchOutcome → Prop
  | refused (f : Fault) :
      Closes d job .requesting (.answer (.accepted (.error f))) (.error (.request (toString f)))
  | unaccepted (id : String) {last : SessionStatus} {r : Except Fault Session} {f : Fault}
      (why : Session.accept last r = .error f) :
      Closes d job (.polling id last) (.answer (.status r)) (.error f)
  | failed {id : String} {last : SessionStatus} {session : Session}
      (advances : last.canAdvanceTo session.status = true) (status : session.status = .failed) :
      Closes d job (.polling id last) (.answer (.status (.ok session))) (.error session.failure)
  | unopened (session : Session) (f : Fault) :
      Closes d job (.opening session) (.answer (.download (.error f)))
        (.error (.processing ("download failed: " ++ toString f)))
  | broken (session : Session) (r : Reception) (e : SystemError) :
      Closes d job (.receiving session r) (.piece (.error e))
        (.error (.ofSystem "failed to download payload" e))
  | undecoded (session : Session) (spool : Files.Place) (payload : Bytes) (e : CodecError) :
      Closes d job (.decoding session spool payload) (.decoded (.error e))
        (.error (.processing e.message))
  | denied {stage : Stage} {a : Arrival} {f : Fault}
      (denied : stage.Denied d job.target.output a f) : Closes d job stage a (.error f)
  | saved {p : Parcel} {part : Files.Place} {files : Files.Tree}
      (stored : d.files.storePart d.disk part job.target.output p.content = .ok files) :
      Closes d job (.filling p part) .stored (.ok (p.outcome job.target.output))

variable {d : Dock} {stage next : Stage} {a : Arrival} {told : List TransferEvent} {job : Job}
  {f : Fault} {r : Except Fault FetchOutcome}

theorem Leads.isMetBy (h : stage.Leads a told next) (job : Job) :
    (stage.await job).isMetBy a = true := by
  cases h <;> rfl

theorem Denied.isMetBy {output : String} (h : stage.Denied d output a f) (job : Job) :
    (stage.await job).isMetBy a = true := by
  cases h <;> rfl

theorem Denied.kind {output : String} (h : stage.Denied d output a f) : f.kind = .processing := by
  cases h <;> rfl

theorem Closes.isMetBy (h : stage.Closes d job a r) : (stage.await job).isMetBy a = true := by
  cases h with
  | denied denied => exact denied.isMetBy job
  | _ => rfl

end Stage

/-! ### The turn that a dock takes -/

namespace Dock

inductive Turn (d : Dock) (job : Job) (stage : Stage) (a : Arrival) (e : Dock) : Prop
  | aside (deaf : (stage.await job).isMetBy a = false) (same : e = d)
  | leads {told : List TransferEvent} {next : Stage} (leads : stage.Leads a told next)
      (flight : e.flight = some (.fetching job next)) (adds : Adds d e told [next.await job])
  | closes {r : Except Fault FetchOutcome} (closes : stage.Closes d job a r)
      (flight : e.flight = none)
      (returned : e.journal.head? = some (.returned job.ticket (.fetched r)))
      (adds : Adds d e [.state (.closing r)] [])

structure Voices (d e : Dock) (moves : List TransferEvent) : Prop where
  generation : e.generation = d.generation
  cancelled : e.cancelled = d.cancelled
  adds : Adds d e moves []

section Turns

variable {d e f : Dock} {job : Job} {stage next : Stage} {a : Arrival}
  {moves moves' : List TransferEvent} {r : Except Fault FetchOutcome}

theorem Voices.trans (h : Voices d e moves) (h' : Voices e f moves') :
    Voices d f (moves ++ moves') :=
  ⟨h'.generation.trans h.generation, h'.cancelled.trans h.cancelled, h.adds.trans h'.adds⟩

theorem Voices.quiet (h : Voices d e moves) (h' : Voices e f []) : Voices d f moves := by
  simpa using h.trans h'

theorem Voices.isCancelled (h : Voices d e moves) (t : Token) :
    e.isCancelled t = d.isCancelled t := by
  simp only [Dock.isCancelled, h.cancelled]

theorem voices_files (d : Dock) (files : Files.Tree) : Voices d { d with files } [] :=
  ⟨rfl, rfl, adds_of_eq rfl⟩

theorem voices_note (d : Dock) {n : Note} (silent : n.await? = none) :
    Voices d (d.note n) n.move?.toList := by
  refine ⟨rfl, rfl, ?_⟩
  simpa [silent] using adds_of_note (d := d) (e := d.note n) rfl

theorem voices_say (d : Dock) (line : String) : Voices d (d.say line) [] :=
  voices_note d (n := .event (.status line)) rfl

theorem voices_record (d : Dock) (level : LogLevel) (message : String)
    (fields : List (String × LogValue)) : Voices d (d.record level message fields) [] :=
  voices_note d (n := .record _) rfl

theorem voices_transition {generation : Nat} (current : d.generation = generation)
    {s : TransferState} (busy : s ≠ .idle) :
    Voices d (d.transition generation s) [.state s] := by
  have told : (Note.event (.state s)).move? = some (.state s) := by
    cases s <;> first | rfl | exact absurd rfl busy
  rw [transition_of_current current]
  refine ⟨rfl, rfl, ?_⟩
  simpa [told, Note.await?] using
    adds_of_note (d := d) (e := Dock.emit { d with state := s } (.state s)) rfl

theorem voices_report (d : Dock) (total : Nat) (count : Option Nat) :
    Voices d (d.report total count) (count.toList.map (.downloadProgress · total)) := by
  cases count with
  | none => exact ⟨rfl, rfl, adds_of_eq rfl⟩
  | some n => exact voices_note d (n := .event (.downloadProgress n total)) rfl

theorem voices_conclude (current : d.generation = job.generation) (r : Except Fault FetchOutcome) :
    Voices d (d.conclude job r) [.state (.closing r)] := by
  cases r with
  | ok outcome =>
    have moved := voices_transition (d := d.record .info "Extraction complete"
      [("output", .text outcome.output), ("bytes", .number outcome.contentBytes),
        ("digest", .text outcome.digest)]) (by exact current) (s := .succeeded) (by simp)
    exact (voices_record d _ _ _).trans (moved.trans (voices_say _ _))
  | error f =>
    have moved := voices_transition current (s := .ofFault f) (by simp [TransferState.ofFault])
    exact moved.trans (voices_say _ _)

theorem adds_finish (current : d.generation = job.generation) (stage : Stage)
    (r : Except Fault FetchOutcome) : Adds d (d.finish job stage r) [.state (.closing r)] [] := by
  rw [finish_of_current current]
  let closed : Dock := { d with files := (d.clear stage).files, active := none,
                                journal := .spanClosed :: d.journal }
  have noted : Adds d closed [] [] := adds_of_note (n := .spanClosed) rfl
  have told : Adds closed (closed.conclude job r) [.state (.closing r)] [] :=
    (voices_conclude (d := closed) current r).adds
  exact (noted.trans told).trans (adds_of_note (n := .returned _ _) rfl)

theorem turn_finish (current : d.generation = job.generation) (closes : stage.Closes d job a r)
    (voiced : Voices d e []) (last : Stage) : Turn d job stage a (e.finish job last r) := by
  have ended := adds_finish (voiced.generation.trans current) last r
  exact .closes closes rfl rfl (voiced.adds.trans ended)

theorem turn_enter (live : d.isCancelled job.token = false) (leads : stage.Leads a moves next)
    (voiced : Voices d e moves) : Turn d job stage a (e.enter job next) := by
  have waits := adds_of_note (d := e) (e := e.wait (.fetching job next))
    (n := .awaits (next.await job)) rfl
  rw [enter_of_not_isCancelled ((voiced.isCancelled _).trans live)]
  refine .leads leads rfl ?_
  simpa [Note.move?, Note.await?] using voiced.adds.trans waits

theorem turn_accepted (current : d.generation = job.generation)
    (live : d.isCancelled job.token = false) (r : Except Fault String) :
    Turn d job .requesting (.answer (.accepted r)) (d.accepted job r) := by
  cases r with
  | error f => exact turn_finish current (.refused f) (voices_files d _) _
  | ok id =>
    rw [accepted]
    refine turn_enter live (.accepted id) ?_
    have moved := voices_transition (d := d.record .info "Extraction accepted"
      [("operation_id", .text id)]) (by exact current) (s := .polling id) (by simp)
    exact (voices_record d _ _ _).trans (moved.trans (voices_say _ _))

theorem turn_polled (current : d.generation = job.generation)
    (live : d.isCancelled job.token = false) (id : String) (last : SessionStatus)
    (r : Except Fault Session) :
    Turn d job (.polling id last) (.answer (.status r)) (d.polled job id last r) := by
  rw [polled]
  split
  case h_1 f refused => exact turn_finish current (.unaccepted id refused) (voices_files d _) _
  case h_2 session taken =>
    obtain ⟨rfl, advances⟩ := Session.advances_of_accept taken
    have noted := voices_record d .debug "Polled extraction status"
      [("status", .text session.status.name)]
    dsimp only
    split
    case h_1 status => exact turn_enter live (.pending advances status) noted
    case h_2 status =>
      refine turn_enter live (.inProgress advances status) ?_
      have moved := voices_note (d.record .debug "Polled extraction status"
        [("status", .text session.status.name)])
        (n := .event (.extractProgress session.bytesTransferred session.totalBytes)) rfl
      exact noted.trans (moved.trans (voices_say _ _))
    case h_3 status =>
      refine turn_enter live (.completed advances status) ?_
      have moved := voices_transition (d := d.record .debug "Polled extraction status"
        [("status", .text session.status.name)]) (by exact current) (s := .downloading id) (by simp)
      exact noted.trans (moved.trans (voices_say _ _))
    case h_4 status => exact turn_finish current (.failed advances status) noted _

theorem turn_opened (current : d.generation = job.generation)
    (live : d.isCancelled job.token = false) (session : Session) (r : Except Fault Download) :
    Turn d job (.opening session) (.answer (.download r)) (d.opened job session r) := by
  cases r with
  | error f => exact turn_finish current (.unopened session f) (voices_files d _) _
  | ok download =>
    obtain ⟨g, -, ⟨context, e, failed, denied⟩ | ⟨spool, n, made, -⟩⟩ :=
      d.files.openSpool_cases d.disk d.settings.tempDir
    · rw [opened, failed]
      exact turn_finish current (.denied (.spool session download denied)) (voices_files d g) _
    · rw [opened, made]
      exact turn_enter live (.opened session download spool) (voices_files d _)

theorem turn_received (current : d.generation = job.generation)
    (live : d.isCancelled job.token = false) (session : Session) (r : Reception)
    (p : Except SystemError Bytes) :
    Turn d job (.receiving session r) (.piece p) (d.received job session r p) := by
  cases p with
  | error e => exact turn_finish current (.broken session r e) (voices_files d _) _
  | ok bytes =>
    have told := voices_report d r.total (r.progress.count bytes.length).2
    rw [received]
    dsimp only
    split
    case isTrue ended =>
      obtain rfl := List.isEmpty_iff.1 ended
      exact turn_enter live (.ended session r) told
    case isFalse more => exact turn_enter live (.received session r (by simpa using more)) told

theorem voices_keepPayload (d : Dock) (r : Reception) : Voices d (d.keepPayload r) [] := by
  have stored := voices_files d (d.files.put r.spool (.file r.payload))
  rw [keepPayload]
  split
  · exact stored.quiet ((voices_record _ _ _ _).trans ((voices_record _ _ _ _).trans
      (voices_say _ _)))
  · exact stored.quiet ((voices_record _ _ _ _).trans (voices_say _ _))

theorem turn_flushed (current : d.generation = job.generation)
    (live : d.isCancelled job.token = false) (session : Session) (r : Reception) :
    Turn d job (.flushing session r) .stored (d.flushed job session r) := by
  have kept := voices_keepPayload d r
  rw [flushed]
  split
  case h_1 e denied =>
    exact turn_finish current (.denied (.flush session denied)) (voices_files d _) _
  case h_2 flushed =>
    rw [reopened, (tells_keepPayload d r).disk, (tells_keepPayload d r).files]
    split
    case h_1 e denied =>
      exact turn_finish current (.denied (.reopen session flushed denied)) kept _
    case h_2 => exact turn_enter live (.flushed session r) kept

theorem turn_decoded (current : d.generation = job.generation)
    (live : d.isCancelled job.token = false) (session : Session) (spool : Files.Place)
    (payload : Bytes) (r : Except CodecError Bytes) :
    Turn d job (.decoding session spool payload) (.decoded r)
      (d.decoded job session spool payload r) := by
  cases r with
  | error e => exact turn_finish current (.undecoded session spool payload e) (voices_files d _) _
  | ok content =>
    exact turn_enter live (.decoded session spool payload content _) (voices_files d _)

theorem turn_placed (current : d.generation = job.generation)
    (live : d.isCancelled job.token = false) (p : Parcel) (refused : Option SystemError) :
    Turn d job (.placing p refused) .stored (d.placed job p refused) := by
  cases refused with
  | some e => exact turn_finish current (.denied (.folders p e)) (voices_files d _) _
  | none =>
    rw [placed]
    split
    case h_1 e denied =>
      exact turn_finish current (.denied (.part p denied)) (voices_files d _) _
    case h_2 part files _ => exact turn_enter live (.placed p part) (voices_files d files)

theorem turn_filled (current : d.generation = job.generation) (p : Parcel) (part : Files.Place) :
    Turn d job (.filling p part) .stored (d.filled job p part) := by
  rw [filled]
  split
  case h_1 e denied =>
    exact turn_finish current (.denied (.content denied)) (voices_files d _) _
  case h_2 files stored => exact turn_finish current (.saved stored) (voices_files d files) _

theorem turn_resume (current : d.generation = job.generation)
    (live : d.isCancelled job.token = false) (stage : Stage) (a : Arrival) :
    Turn d job stage a (d.resume job stage a) := by
  unfold resume
  rw [if_neg (by simp [live])]
  split
  case h_1 r => exact turn_accepted current live r
  case h_2 id last => exact turn_enter live (.rested id last) (voices_files d _)
  case h_3 id last r => exact turn_polled current live id last r
  case h_4 session r => exact turn_opened current live session r
  case h_5 session r p => exact turn_received current live session r p
  case h_6 session r => exact turn_flushed current live session r
  case h_7 session spool payload r => exact turn_decoded current live session spool payload r
  case h_8 p refused => exact turn_placed current live p refused
  case h_9 p part => exact turn_filled current p part
  case h_10 accepted rested status download piece flushed decoded placed filled =>
    -- all that would meet the wait has been dealt with
    refine .aside ?_ rfl
    cases stage with
    | requesting =>
      rcases a with (_ | _ | r | _ | _) | _ | _ | _ | _ | _ <;>
        first | rfl | exact (accepted r rfl rfl).elim
    | resting id last => cases a <;> first | rfl | exact (rested id last rfl rfl).elim
    | polling id last =>
      rcases a with (_ | _ | _ | r | _) | _ | _ | _ | _ | _ <;>
        first | rfl | exact (status id last r rfl rfl).elim
    | opening session =>
      rcases a with (_ | _ | _ | _ | r) | _ | _ | _ | _ | _ <;>
        first | rfl | exact (download session r rfl rfl).elim
    | receiving session r => cases a <;> first | rfl | exact (piece session r _ rfl rfl).elim
    | flushing session r => cases a <;> first | rfl | exact (flushed session r rfl rfl).elim
    | decoding session spool payload =>
      cases a <;> first | rfl | exact (decoded session spool payload _ rfl rfl).elim
    | placing p refused => cases a <;> first | rfl | exact (placed p refused rfl rfl).elim
    | filling p part => cases a <;> first | rfl | exact (filled p part rfl rfl).elim

theorem Sound.serves (h : d.Sound) (flight : d.flight = some (.fetching job stage))
    (live : d.isCancelled job.token = false) : d.Serves job ∧ stage.Suits d.state := by
  have posture := h.posture
  rw [Posture, flight] at posture
  obtain present | cut := posture
  · exact present
  · have revoked := cut.cancelled
    rw [live] at revoked
    cases revoked

end Turns

/-! ### The first turn -/

def jobFor (d : Dock) (ticket : Nat) (title : Title) (target : FetchTarget) (token : String)
    (device : Device) : Job :=
  { ticket, token := .fetch d.serial token, device, generation := d.generation, title, target
    request := requestFor d.settings title }

section Beginning

variable {d : Dock} {device : Device}

theorem fetch_of_bare (free : d.isBusy = false) (bare : d.device = none) (ticket : Nat)
    (title : Title) (target : FetchTarget) (token : String) :
    d.fetch ticket title target token =
      d.note (.returned ticket (.fetched (.error .notConnected))) := by
  rw [fetch, if_neg (by simp [free])]
  split
  case h_1 => rfl
  case h_2 device held => simp [bare] at held

theorem fetch_of_free (free : d.isBusy = false) (connected : d.device = some device) (ticket : Nat)
    (title : Title) (target : FetchTarget) (token : String) :
    ∃ e, d.fetch ticket title target token =
        e.enter (d.jobFor ticket title target token device) .requesting ∧
      Voices d e [.state .requesting] ∧ e.files = d.files ∧ e.settings = d.settings ∧
        e.device = d.device ∧ e.serial = d.serial + 1 ∧ e.disk = d.disk := by
  let job := d.jobFor ticket title target token device
  let taken : Dock := { d with active := some job.token, serial := d.serial + 1 }
  let line := "Requesting extraction of " ++ title.name ++ "..."
  have moved : Voices taken (taken.transition d.generation .requesting) [.state .requesting] :=
    voices_transition rfl (by simp)
  have same := (tells_transition taken d.generation .requesting).trans (tells_say _ line)
  refine ⟨(taken.transition d.generation .requesting).say line, ?_, ?_, same.files,
    same.stays.settings, same.device, same.stays.serial, same.disk⟩
  · rw [fetch, if_neg (by simp [free])]
    split
    case h_1 none => simp [connected] at none
    case h_2 other held =>
      obtain rfl : other = device := by simpa [connected] using held.symm
      rfl
  · have begun := moved.quiet (voices_say _ line)
    exact ⟨begun.generation, begun.cancelled, begun.adds⟩

theorem works_fetch (free : d.isBusy = false) (connected : d.device = some device) (ticket : Nat)
    (title : Title) (target : FetchTarget) (token : String) :
    ∃ e, Works { d with active := some (.fetch d.serial token), serial := d.serial + 1 } e ∧
      d.fetch ticket title target token =
        e.enter (d.jobFor ticket title target token device) .requesting := by
  let line := "Requesting extraction of " ++ title.name ++ "..."
  refine ⟨_, (works_transition _ d.generation .requesting).trans (works_say _ line), ?_⟩
  rw [fetch, if_neg (by simp [free]), connected]
  rfl

theorem fetch_cases (d : Dock) (ticket : Nat) (title : Title) (target : FetchTarget)
    (token : String) :
    (∃ fault, d.fetch ticket title target token =
        d.note (.returned ticket (.fetched (.error fault)))) ∨
      ∃ device e, d.fetch ticket title target token =
          e.enter (d.jobFor ticket title target token device) .requesting ∧
        Voices d e [.state .requesting] ∧ e.device = d.device ∧ e.serial = d.serial + 1 ∧
          e.disk = d.disk := by
  cases busy : d.isBusy with
  | true => exact .inl ⟨_, fetch_of_isBusy busy ticket title target token⟩
  | false =>
    cases connected : d.device with
    | none => exact .inl ⟨_, fetch_of_bare busy connected ticket title target token⟩
    | some device =>
      obtain ⟨e, begins, voiced, -, -, held, counted, disk⟩ :=
        fetch_of_free busy connected ticket title target token
      exact .inr ⟨device, e, begins, voiced, held.trans connected, counted, disk⟩

end Beginning

end Dock

end TitleDock
