import TitleDock.Proofs.Files.Stored
import TitleDock.Proofs.Transfer.Journal

/-! How the parts of a dock belong together. A dock is steady if its state is the one it announced
last and every event was permitted where it was emitted. Its posture says what the state, the
device, the active token and the flight have to do with each other: a fetch either belongs to the
present connection, or was cut off by a disconnection, and then it is cancelled and of a past
generation. -/

namespace TitleDock

namespace TransferState

def HoldsDevice : TransferState → Prop
  | .connected _ | .requesting | .polling _ | .downloading _ | .succeeded => True
  | .failed kind _ => kind ≠ .connection
  | .idle | .connecting => False

def IsSettled : TransferState → Prop
  | .idle | .connected _ | .succeeded | .failed .. => True
  | .connecting | .requesting | .polling _ | .downloading _ => False

def closing : Except Fault FetchOutcome → TransferState
  | .ok _ => .succeeded
  | .error f => .ofFault f

theorem isSettled_closing (r : Except Fault FetchOutcome) : (closing r).IsSettled := by
  cases r <;> trivial

@[simp] theorem closing_ne_idle (r : Except Fault FetchOutcome) : closing r ≠ .idle := by
  cases r <;> simp [closing, ofFault]

@[simp] theorem connecting_ne_closing (r : Except Fault FetchOutcome) : .connecting ≠ closing r := by
  cases r <;> simp [closing, ofFault]

theorem IsSettled.mayBecome_connecting {s : TransferState} (h : s.IsSettled) :
    s.MayBecome .connecting := by
  cases s <;> first | exact h.elim | trivial

theorem IsSettled.mayBecome_requesting {s : TransferState} (h : s.IsSettled) (held : s.HoldsDevice) :
    s.MayBecome .requesting := by
  cases s <;> first | exact h.elim | exact held.elim | trivial

end TransferState

/-- The states in which a fetch waits at a stage. -/
def Stage.Suits (s : TransferState) : Stage → Prop
  | .requesting => s = .requesting
  | .resting id _ | .polling id _ => s = .polling id
  | .opening _ | .receiving .. | .flushing .. | .decoding .. | .placing .. | .filling .. =>
    ∃ id, s = .downloading id

theorem Stage.Suits.mayBecome_failed {stage : Stage} {s : TransferState} (h : stage.Suits s)
    (kind : FailureKind) (message : String) : s.MayBecome (.failed kind message) := by
  cases stage with
  | requesting | resting | polling => cases h; trivial
  | opening | receiving | flushing | decoding | placing | filling => obtain ⟨id, rfl⟩ := h; trivial

theorem Session.kind_of_accept_error {last : SessionStatus} {r : Except Fault Session} {f : Fault}
    (h : accept last r = .error f) : f.kind = .request := by
  cases r with
  | error g => cases h; rfl
  | ok s =>
    rw [accept] at h
    split at h
    · cases h
    · cases h; rfl

theorem Files.Tree.kind_of_openSpool_error {t : Tree} {disk : Disk} {folder : String} {f : Fault}
    (h : (t.openSpool disk folder).2 = .error f) : f.kind = .processing := by
  obtain ⟨g, -, ⟨context, e, denied, -⟩ | ⟨p, n, opened, -⟩⟩ := t.openSpool_cases disk folder
  · rw [denied] at h
    cases h
    rfl
  · rw [opened] at h
    cases h

namespace Dock

structure Steady (d : Dock) : Prop where
  announced : d.state = TitleDock.announced d.events
  lawful : Lawful d.events

/-- The fetch belongs to the present connection. -/
structure Serves (d : Dock) (job : Job) : Prop where
  generation : d.generation = job.generation
  device : d.device = some job.device
  active : d.active = some job.token

structure Bare (d : Dock) : Prop where
  state : d.state = .idle
  device : d.device = none
  active : d.active = none

/-- The connection that the fetch belongs to is over. -/
structure CutOff (d : Dock) (job : Job) : Prop extends Bare d where
  generation : job.generation < d.generation
  cancelled : d.isCancelled job.token = true

def Posture (d : Dock) : Prop :=
  match d.flight with
  | none => d.active = none ∧ d.state.IsSettled ∧ (d.device.isSome ↔ d.state.HoldsDevice)
  | some (.connecting _ _ generation) =>
    d.active = none ∧ d.device = none ∧
      (generation = d.generation ∧ d.state = .connecting ∨
        generation < d.generation ∧ d.state = .idle)
  | some (.fetching job stage) => d.Serves job ∧ stage.Suits d.state ∨ d.CutOff job

structure Sound (d : Dock) : Prop extends Steady d where
  posture : d.Posture

theorem Steady.emit {d : Dock} (h : d.Steady) {e : TransferEvent} (plain : e.state? = none)
    (permitted : d.state.Permits e) : (d.emit e).Steady := by
  refine ⟨?_, ?_⟩
  · rw [events_emit, announced_concat plain]
    exact h.announced
  · rw [events_emit]
    exact h.lawful.concat (h.announced ▸ permitted)

theorem Steady.say {d : Dock} (h : d.Steady) (line : String) : (d.say line).Steady :=
  h.emit rfl trivial

theorem Steady.record {d : Dock} (h : d.Steady) (level : LogLevel) (message : String)
    (fields : List (String × LogValue)) : (d.record level message fields).Steady := by
  refine ⟨?_, ?_⟩ <;> rw [events_record]
  · exact h.announced
  · exact h.lawful

theorem Steady.announce {d : Dock} (h : d.Steady) {s : TransferState}
    (may : d.state.MayBecome s) : (Dock.emit { d with state := s } (.state s)).Steady := by
  refine ⟨?_, ?_⟩
  · rw [events_emit, announced_concat_state]
    rfl
  · rw [events_emit]
    exact h.lawful.concat (h.announced ▸ may)

theorem Steady.transition {d : Dock} (h : d.Steady) {generation : Nat}
    (current : d.generation = generation) {s : TransferState} (may : d.state.MayBecome s) :
    (d.transition generation s).Steady := by
  rw [transition_of_current current]
  exact h.announce may

theorem transition_of_past {d : Dock} {generation : Nat} (h : d.generation ≠ generation)
    (s : TransferState) :
    d.transition generation s =
      d.record .debug "Dropping state change from stale workflow" [("state", .text s.name)] := by
  rw [Dock.transition, if_neg h]

theorem Steady.wait {d : Dock} (h : d.Steady) (f : Flight) : (d.wait f).Steady := by
  refine ⟨?_, ?_⟩ <;> rw [events_wait]
  · exact h.announced
  · exact h.lawful

theorem Steady.release {d : Dock} (h : d.Steady) (ticket : Nat) (r : CallResult) :
    (d.release ticket r).Steady := by
  refine ⟨?_, ?_⟩ <;> rw [events_release]
  · exact h.announced
  · exact h.lawful

theorem Steady.of_eq {d e : Dock} (h : d.Steady) (state : e.state = d.state)
    (events : e.events = d.events) : e.Steady :=
  ⟨by rw [state, events]; exact h.announced, by rw [events]; exact h.lawful⟩

theorem Serves.tells {d e : Dock} {job : Job} (h : d.Serves job) (t : Tells d e) : e.Serves job :=
  ⟨t.generation.trans h.generation, t.device.trans h.device, t.active.trans h.active⟩

section Finish

variable {d : Dock} {job : Job} {stage : Stage} {r : Except Fault FetchOutcome}

theorem retire_of_current {generation : Nat} (h : d.generation = generation) :
    d.retire generation = { d with active := none } := by
  rw [retire, if_pos h]

theorem retire_of_past {generation : Nat} (h : d.generation ≠ generation) :
    d.retire generation = d := by
  rw [retire, if_neg h]

theorem finish_of_current (current : d.generation = job.generation) :
    d.finish job stage r =
      (Dock.conclude { d with files := (d.clear stage).files, active := none,
                              journal := .spanClosed :: d.journal } job r).release
        job.ticket (.fetched r) := by
  rw [finish, retire_of_current (by exact current)]
  rfl

theorem finish_of_past (past : d.generation ≠ job.generation) :
    d.finish job stage r =
      (Dock.conclude { d with files := (d.clear stage).files,
                              journal := .spanClosed :: d.journal } job r).release
        job.ticket (.fetched r) := by
  rw [finish, retire_of_past (by exact past)]
  rfl

theorem state_conclude (current : d.generation = job.generation) :
    (d.conclude job r).state = .closing r := by
  cases r with
  | ok outcome =>
    rw [conclude, transition_of_current (by exact current)]
    rfl
  | error f =>
    rw [conclude, fail, transition_of_current current]
    rfl

theorem state_conclude_of_past (past : d.generation ≠ job.generation) :
    (d.conclude job r).state = d.state := by
  cases r with
  | ok outcome =>
    rw [conclude, transition_of_past (by exact past)]
    rfl
  | error f =>
    rw [conclude, fail, transition_of_past past]
    rfl

theorem Steady.conclude (h : d.Steady) (current : d.generation = job.generation)
    (may : d.state.MayBecome (.closing r)) : (d.conclude job r).Steady := by
  cases r with
  | ok outcome => exact ((h.record _ _ _).transition current may).say _
  | error f => exact (h.transition current may).say _

theorem Steady.conclude_of_past (h : d.Steady) (past : d.generation ≠ job.generation) :
    (d.conclude job r).Steady := by
  cases r with
  | ok outcome =>
    rw [Dock.conclude, transition_of_past (by exact past)]
    exact ((h.record _ _ _).record _ _ _).say _
  | error f =>
    rw [Dock.conclude, fail, transition_of_past past]
    exact (h.record _ _ _).say _

theorem Sound.release {ticket : Nat} {result : CallResult} {s : TransferState} {o : Option Device}
    (h : d.Steady) (active : d.active = none) (state : d.state = s) (device : d.device = o)
    (settled : s.IsSettled) (held : o.isSome ↔ s.HoldsDevice) :
    (d.release ticket result).Sound := by
  subst state device
  exact ⟨h.release _ _, active, settled, held⟩

theorem Sound.finish (h : d.Steady) (serves : d.Serves job) (may : d.state.MayBecome (.closing r))
    (held : (TransferState.closing r).HoldsDevice) : (d.finish job stage r).Sound := by
  rw [finish_of_current serves.generation]
  refine Sound.release ?_ (tells_conclude _ _ _).active (state_conclude serves.generation)
    ((tells_conclude _ _ _).device.trans serves.device) (TransferState.isSettled_closing r)
    (iff_of_true rfl held)
  refine Steady.conclude (h.of_eq rfl ?_) serves.generation may
  simp [events, Note.event?]

theorem Sound.finish_of_cutOff (h : d.Steady) (cut : d.CutOff job) :
    (d.finish job stage r).Sound := by
  have past : d.generation ≠ job.generation := cut.generation.ne'
  rw [finish_of_past past]
  refine Sound.release ?_ ((tells_conclude _ _ _).active.trans cut.active) (s := .idle) ?_
    ((tells_conclude _ _ _).device.trans cut.device) trivial (iff_of_false Bool.false_ne_true id)
  · refine Steady.conclude_of_past (h.of_eq rfl ?_) past
    simp [events, Note.event?]
  · rw [state_conclude_of_past (by exact past)]
    exact cut.state

theorem Sound.finish_error {f : Fault} (h : d.Steady) (serves : d.Serves job)
    (suits : stage.Suits d.state) (kind : f.kind ≠ .connection) :
    (d.finish job stage (.error f)).Sound :=
  Sound.finish h serves (suits.mayBecome_failed _ _) kind

theorem Sound.wait (h : d.Steady) (serves : d.Serves job) (suits : stage.Suits d.state) :
    (d.wait (.fetching job stage)).Sound :=
  ⟨h.wait _, .inl ⟨⟨serves.generation, serves.device, serves.active⟩, suits⟩⟩

theorem Sound.enter (h : d.Steady) (serves : d.Serves job) (suits : stage.Suits d.state) :
    (d.enter job stage).Sound := by
  rw [Dock.enter]
  split
  · exact Sound.finish_error h serves suits (by rintro ⟨⟩)
  · exact Sound.wait h serves suits

end Finish

end Dock

end TitleDock
