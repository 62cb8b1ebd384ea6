import TitleDock.Proofs.Transfer.Lifecycle

/-! What a call under way leaves alone. Whatever arrives for it, the settings, the disk, the
cancelled tokens and the count of fetches stay as they are, and the active token stays or is given
up. What arrives for a fetch makes it work a little and then enter a stage or end, which leaves the
connection alone as well. What does not arrive for a call leaves it waiting. -/

namespace TitleDock

/-- The spool, which is the last of the temporary files, is not named as the path ends. -/
def Stage.Apart (path : String) (stage : Stage) : Prop :=
  ∀ p ∈ stage.temporaries.getLast?, p.getLast? ≠ (Files.names path).getLast?

def Note.IsWord : Note → Prop
  | .event _ | .record _ => True
  | .awaits _ | .spanClosed | .returned .. => False

namespace Dock

structure Spares (d e : Dock) : Prop where
  settings : e.settings = d.settings
  disk : e.disk = d.disk
  cancelled : e.cancelled = d.cancelled
  serial : e.serial = d.serial
  active : e.active = d.active ∨ e.active = none

structure Stays (d e : Dock) : Prop extends Spares d e where
  device : e.device = d.device
  generation : e.generation = d.generation

section Stays

variable {d e f : Dock}

theorem Spares.trans (h : Spares d e) (h' : Spares e f) : Spares d f := by
  refine ⟨h'.settings.trans h.settings, h'.disk.trans h.disk, h'.cancelled.trans h.cancelled,
    h'.serial.trans h.serial, ?_⟩
  obtain same | none := h'.active
  · rw [same]
    exact h.active
  · exact .inr none

theorem Stays.refl (d : Dock) : Stays d d := ⟨⟨rfl, rfl, rfl, rfl, .inl rfl⟩, rfl, rfl⟩

theorem Stays.trans (h : Stays d e) (h' : Stays e f) : Stays d f :=
  ⟨h.toSpares.trans h'.toSpares, h'.device.trans h.device, h'.generation.trans h.generation⟩

theorem Tells.stays (h : Tells d e) : Stays d e := by
  rw [show e = _ from h]
  exact ⟨⟨rfl, rfl, rfl, rfl, .inl rfl⟩, rfl, rfl⟩

theorem stays_files (d : Dock) (files : Files.Tree) : Stays d { d with files } :=
  ⟨⟨rfl, rfl, rfl, rfl, .inl rfl⟩, rfl, rfl⟩

theorem stays_retire (d : Dock) (generation : Nat) : Stays d (d.retire generation) := by
  rw [retire]
  split
  · exact ⟨⟨rfl, rfl, rfl, rfl, .inr rfl⟩, rfl, rfl⟩
  · exact .refl d

theorem stays_release (d : Dock) (ticket : Nat) (r : CallResult) : Stays d (d.release ticket r) :=
  ⟨⟨rfl, rfl, rfl, rfl, .inl rfl⟩, rfl, rfl⟩

theorem stays_finish (d : Dock) (job : Job) (stage : Stage) (r : Except Fault FetchOutcome) :
    Stays d (d.finish job stage r) := by
  have dropped : Stays d (d.clear stage) := stays_files d _
  have closed := dropped.trans (tells_note _ .spanClosed).stays
  have retired := closed.trans (stays_retire _ job.generation)
  exact (retired.trans (tells_conclude _ job r).stays).trans (stays_release _ _ _)

theorem stays_enter (d : Dock) (job : Job) (stage : Stage) : Stays d (d.enter job stage) := by
  rw [enter]
  split
  · exact stays_finish d job stage _
  · exact ⟨⟨rfl, rfl, rfl, rfl, .inl rfl⟩, rfl, rfl⟩

end Stays

/-- Working on a fetch changes the files, the state and, by words alone, the journal. -/
structure Works (d e : Dock) : Prop where
  frame : e = { d with files := e.files, state := e.state, journal := e.journal }
  words : ∃ told, e.journal = told ++ d.journal ∧ ∀ n ∈ told, n.IsWord

/-- What an arrival makes of a fetch: nothing, or after some work the fetch enters a stage or ends.
A new spool has a name that the disk drew. -/
inductive Proceeds (d : Dock) (job : Job) (stage : Stage) (f : Dock) : Prop
  | aside (same : f = d)
  | enters {e : Dock} (works : Works d e) (next : Stage) (same : f = e.enter job next)
      (apart : ∀ path, d.disk.Avoids path → stage.Apart path → next.Apart path)
  | finishes {e : Dock} (works : Works d e) (last : Stage) (r : Except Fault FetchOutcome)
      (same : f = e.finish job last r)

section Works

variable {d e f : Dock}

theorem Works.stays (h : Works d e) : Stays d e := by
  rw [h.frame]
  exact ⟨⟨rfl, rfl, rfl, rfl, .inl rfl⟩, rfl, rfl⟩

theorem Works.trans (h : Works d e) (h' : Works e f) : Works d f := by
  obtain ⟨told, split, words⟩ := h.words
  obtain ⟨told', split', words'⟩ := h'.words
  refine ⟨by rw [h'.frame, h.frame], told' ++ told, by simp [split', split], ?_⟩
  intro n member
  obtain later | earlier := List.mem_append.1 member
  · exact words' n later
  · exact words n earlier

theorem works_files (d : Dock) (files : Files.Tree) : Works d { d with files } :=
  ⟨rfl, [], rfl, List.forall_mem_nil _⟩

theorem Works.refl (d : Dock) : Works d d := works_files d d.files

theorem works_note (d : Dock) {n : Note} (word : n.IsWord) : Works d (d.note n) :=
  ⟨rfl, [n], rfl, by simpa using word⟩

theorem works_say (d : Dock) (line : String) : Works d (d.say line) :=
  works_note d (n := .event (.status line)) trivial

theorem works_record (d : Dock) (level : LogLevel) (message : String)
    (fields : List (String × LogValue)) : Works d (d.record level message fields) :=
  works_note d (n := .record _) trivial

theorem works_transition (d : Dock) (generation : Nat) (s : TransferState) :
    Works d (d.transition generation s) := by
  rw [transition]
  split
  · exact ⟨rfl, [.event (.state s)], rfl, by simp [Note.IsWord]⟩
  · exact works_record d _ _ _

theorem works_report (d : Dock) (total : Nat) (count : Option Nat) :
    Works d (d.report total count) := by
  cases count with
  | none => exact .refl d
  | some n => exact works_note d (n := .event (.downloadProgress n total)) trivial

theorem works_conclude (d : Dock) (job : Job) (r : Except Fault FetchOutcome) :
    Works d (d.conclude job r) := by
  cases r with
  | ok outcome =>
    exact (works_record d _ _ _).trans ((works_transition _ _ _).trans (works_say _ _))
  | error f => exact (works_transition d _ _).trans (works_say _ _)

end Works

section Proceeds

variable (d : Dock) (job : Job)

theorem proceeds_accepted (r : Except Fault String) :
    Proceeds d job .requesting (d.accepted job r) := by
  cases r with
  | error f => exact .finishes (.refl d) _ _ rfl
  | ok id =>
    refine .enters ?_ _ rfl fun _ _ h => h
    exact (works_record d _ _ _).trans ((works_transition _ _ _).trans (works_say _ _))

theorem proceeds_polled (id : String) (last : SessionStatus) (r : Except Fault Session) :
    Proceeds d job (.polling id last) (d.polled job id last r) := by
  rw [polled]
  split
  case h_1 => exact .finishes (.refl d) _ _ rfl
  case h_2 session _ =>
    have noted := works_record d .debug "Polled extraction status"
      [("status", .text session.status.name)]
    dsimp only
    split
    · exact .enters noted _ rfl fun _ _ h => h
    · refine .enters (noted.trans ?_) _ rfl fun _ _ h => h
      exact (works_note _ (n := .event (.extractProgress ..)) trivial).trans (works_say _ _)
    · exact .enters (noted.trans ((works_transition _ _ _).trans (works_say _ _))) _ rfl
        fun _ _ h => h
    · exact .finishes noted _ _ rfl

theorem proceeds_opened (session : Session) (r : Except Fault Download) :
    Proceeds d job (.opening session) (d.opened job session r) := by
  cases r with
  | error f => exact .finishes (.refl d) _ _ rfl
  | ok download =>
    obtain ⟨g, -, ⟨context, e, denied, -⟩ | ⟨p, n, made, -, drawn⟩⟩ :=
      d.files.openSpool_cases d.disk d.settings.tempDir
    · rw [opened, denied]
      exact .finishes (works_files d g) _ _ rfl
    · rw [opened, made]
      refine .enters (works_files d (g.put p (.file []))) _ rfl fun path avoids _ q last => ?_
      obtain rfl : p = q := Option.some.inj last
      rw [drawn]
      exact (avoids n).symm

theorem works_keepPayload (r : Reception) : Works d (d.keepPayload r) := by
  have stored := works_files d (d.files.put r.spool (.file r.payload))
  rw [keepPayload]
  split
  · exact stored.trans ((works_record _ _ _ _).trans
      ((works_record _ _ _ _).trans (works_say _ _)))
  · exact stored.trans ((works_record _ _ _ _).trans (works_say _ _))

theorem proceeds_received (session : Session) (r : Reception) (p : Except SystemError Bytes) :
    Proceeds d job (.receiving session r) (d.received job session r p) := by
  cases p with
  | error e => exact .finishes (.refl d) _ _ rfl
  | ok bytes =>
    have told := works_report d r.total (r.progress.count bytes.length).2
    rw [received]
    dsimp only
    split
    · exact .enters told _ rfl fun _ _ h => h
    · exact .enters told _ rfl fun _ _ h => h

theorem proceeds_flushed (session : Session) (r : Reception) :
    Proceeds d job (.flushing session r) (d.flushed job session r) := by
  rw [flushed]
  split
  · exact .finishes (.refl d) _ _ rfl
  · rw [reopened]
    split
    · exact .finishes (works_keepPayload d r) _ _ rfl
    · exact .enters (works_keepPayload d r) _ rfl fun _ _ h => h

theorem proceeds_decoded (session : Session) (spool : Files.Place) (payload : Bytes)
    (r : Except CodecError Bytes) :
    Proceeds d job (.decoding session spool payload) (d.decoded job session spool payload r) := by
  cases r with
  | error e => exact .finishes (.refl d) _ _ rfl
  | ok content => exact .enters (works_files d _) _ rfl fun _ _ h => h

theorem proceeds_placed (p : Parcel) (refused : Option SystemError) :
    Proceeds d job (.placing p refused) (d.placed job p refused) := by
  cases refused with
  | some e => exact .finishes (.refl d) _ _ rfl
  | none =>
    rw [placed]
    split
    · exact .finishes (.refl d) _ _ rfl
    · exact .enters (works_files d _) _ rfl fun _ _ h => h

theorem proceeds_filled (p : Parcel) (part : Files.Place) :
    Proceeds d job (.filling p part) (d.filled job p part) := by
  rw [filled]
  split
  · exact .finishes (.refl d) _ _ rfl
  · exact .finishes (works_files d _) _ _ rfl

theorem proceeds_resume (stage : Stage) (a : Arrival) :
    Proceeds d job stage (d.resume job stage a) := by
  unfold resume
  split
  · exact .finishes (.refl d) _ _ rfl
  · split
    · exact proceeds_accepted d job _
    · exact .enters (.refl d) _ rfl fun _ _ h => h
    · exact proceeds_polled d job _ _ _
    · exact proceeds_opened d job _ _
    · exact proceeds_received d job _ _ _
    · exact proceeds_flushed d job _ _
    · exact proceeds_decoded d job _ _ _ _
    · exact proceeds_placed d job _ _
    · exact proceeds_filled d job _ _
    · exact .aside rfl

theorem stays_resume (stage : Stage) (a : Arrival) : Stays d (d.resume job stage a) := by
  cases proceeds_resume d job stage a with
  | aside same =>
    rw [same]
    exact .refl d
  | enters works next same =>
    rw [same]
    exact works.stays.trans (stays_enter _ job next)
  | finishes works last r same =>
    rw [same]
    exact works.stays.trans (stays_finish _ job last r)

end Proceeds

section Arrivals

theorem spares_finishConnect (d : Dock) (ticket : Nat) (device : Device) (generation : Nat)
    (r : Except Fault (List Title)) : Spares d (d.finishConnect ticket device generation r) := by
  cases r with
  | ok titles =>
    have told (d : Dock) : Spares d (((d.transition generation (.connected titles.length)).say
        (connectedLine device titles.length)).release ticket
          (.connected (.ok titles.length))) :=
      (((tells_transition _ _ _).trans (tells_say _ _)).stays.trans (stays_release _ _ _)).toSpares
    rw [finishConnect]
    split
    · exact (⟨rfl, rfl, rfl, rfl, .inl rfl⟩ : Spares d { d with device := some device }).trans (told _)
    · exact told d
  | error f => exact ((tells_fail d generation _).stays.trans (stays_release _ _ _)).toSpares

theorem spares_arrive (d : Dock) (a : Arrival) : Spares d (d.arrive a) := by
  unfold arrive
  split
  · exact spares_finishConnect d _ _ _ _
  · exact (stays_resume d _ _ _).toSpares
  · exact (Stays.refl d).toSpares

end Arrivals

section Suffix

theorem Works.suffix {d e : Dock} (h : Works d e) : d.journal <:+ e.journal := by
  obtain ⟨told, split, -⟩ := h.words
  exact ⟨told, split.symm⟩

theorem suffix_finish (d : Dock) (job : Job) (stage : Stage) (r : Except Fault FetchOutcome) :
    d.journal <:+ (d.finish job stage r).journal := by
  let closed := ((d.clear stage).note .spanClosed).retire job.generation
  have same : closed.journal = .spanClosed :: d.journal := by
    simp only [closed]
    rw [retire]
    split <;> rfl
  have noted : d.journal <:+ closed.journal := same ▸ List.suffix_cons _ _
  exact (noted.trans (works_conclude closed job r).suffix).trans (List.suffix_cons _ _)

theorem suffix_enter (d : Dock) (job : Job) (stage : Stage) :
    d.journal <:+ (d.enter job stage).journal := by
  rw [enter]
  split
  · exact suffix_finish d job stage _
  · exact List.suffix_cons _ _

theorem suffix_arrive (d : Dock) (a : Arrival) : d.journal <:+ (d.arrive a).journal := by
  unfold arrive
  split
  case h_1 ticket device generation r _ =>
    cases r with
    | ok titles =>
      have told (e : Dock) := ((works_transition e generation (.connected titles.length)).trans
        (works_say _ (connectedLine device titles.length))).suffix
      rw [finishConnect]
      split
      · exact (told { d with device := some device }).trans (List.suffix_cons _ _)
      · exact (told d).trans (List.suffix_cons _ _)
    | error f =>
      exact ((works_transition d _ _).trans (works_say _ _)).suffix.trans (List.suffix_cons _ _)
  case h_2 job stage _ =>
    cases proceeds_resume d job stage _ with
    | aside same => exact ⟨[], congrArg journal same.symm⟩
    | enters works next same =>
      rw [same]
      exact works.suffix.trans (suffix_enter _ job next)
    | finishes works last r same =>
      rw [same]
      exact works.suffix.trans (suffix_finish _ job last r)
  case h_3 => exact List.suffix_rfl

theorem suffix_step (d : Dock) (i : DockInput) : d.journal <:+ (d.step i).journal := by
  cases i with
  | connect ticket device =>
    rw [step, connect]
    split
    · exact List.suffix_cons _ _
    · have told := (works_transition { d with generation := d.generation + 1, device := none }
        (d.generation + 1) .connecting).trans
        (works_say _ ("Connecting to " ++ toString device.address ++ "..."))
      exact told.suffix.trans (List.suffix_cons _ _)
  | fetch ticket title target token =>
    rw [step, fetch]
    split
    · exact List.suffix_cons _ _
    · split
      · exact List.suffix_cons _ _
      · have told := (works_transition { d with active := some (.fetch d.serial token),
                                                serial := d.serial + 1 } d.generation
          .requesting).trans (works_say _ ("Requesting extraction of " ++ title.name ++ "..."))
        exact told.suffix.trans (suffix_enter _ _ .requesting)
  | disconnect => exact List.suffix_append [_, _] _
  | cancel token => exact List.suffix_rfl
  | disk disk => exact List.suffix_rfl
  | arrive a => exact suffix_arrive d a

theorem suffix_run (d : Dock) (inputs : List DockInput) : d.journal <:+ (d.run inputs).journal := by
  induction inputs generalizing d with
  | nil => exact List.suffix_rfl
  | cons i inputs ih => exact (suffix_step d i).trans (ih (d.step i))

end Suffix

theorem run_append (d : Dock) (inputs more : List DockInput) :
    d.run (inputs ++ more) = (d.run inputs).run more :=
  List.foldl_append ..

theorem run_concat (d : Dock) (inputs : List DockInput) (i : DockInput) :
    d.run (inputs ++ [i]) = (d.run inputs).step i :=
  List.foldl_concat ..

theorem arrive_of_fetching {d : Dock} {job : Job} {stage : Stage}
    (flight : d.flight = some (.fetching job stage)) (a : Arrival) :
    d.arrive a = d.resume job stage a := by
  rw [arrive.eq_def]
  split
  case h_1 other => simp [flight] at other
  case h_2 same =>
    obtain ⟨rfl, rfl⟩ : job = _ ∧ stage = _ := by simpa [flight] using same
    rfl
  case h_3 other _ => exact (other job stage flight).elim

theorem isBusy_of_flight {d : Dock} {f : Flight} (flight : d.flight = some f) :
    d.isBusy = true := by
  rw [isBusy, flight]
  rfl

theorem step_of_isBusy {d : Dock} (busy : d.isBusy = true) {i : DockInput}
    (still : ∀ a, i ≠ .arrive a) :
    (d.step i).flight = d.flight ∧ (d.step i).files = d.files ∧
      (d.step i).settings = d.settings := by
  cases i with
  | connect ticket device =>
    rw [step, connect_of_isBusy busy]
    exact ⟨rfl, rfl, rfl⟩
  | fetch ticket title target token =>
    rw [step, fetch_of_isBusy busy]
    exact ⟨rfl, rfl, rfl⟩
  | disconnect => exact ⟨rfl, rfl, rfl⟩
  | cancel token => exact ⟨rfl, rfl, rfl⟩
  | disk disk => exact ⟨rfl, rfl, rfl⟩
  | arrive a => exact absurd rfl (still a)

end Dock

end TitleDock
