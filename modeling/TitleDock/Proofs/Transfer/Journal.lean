import Mathlib.Data.List.Chain
import TitleDock.Transfer.Dock

/-! What the observers of a dock are told, in the order in which they are told it, and which events
may follow which. A row of events is lawful if every event is permitted by the state announced last
before it; announced states then form a path of the automaton `MayBecome`. -/

namespace TitleDock

namespace TransferState

/-- The states that may be announced next after a state. -/
def MayBecome : TransferState → TransferState → Prop
  | .idle, .idle | .idle, .connecting => True
  | .connecting, .connected _ | .connecting, .failed .. | .connecting, .idle => True
  | .connected _, .requesting | .connected _, .connecting | .connected _, .idle => True
  | .requesting, .polling _ | .requesting, .failed .. | .requesting, .idle => True
  | .polling a, .downloading b => a = b
  | .polling _, .failed .. | .polling _, .idle => True
  | .downloading _, .succeeded | .downloading _, .failed .. | .downloading _, .idle => True
  | .succeeded, .requesting | .succeeded, .connecting | .succeeded, .idle => True
  | .failed kind _, .requesting => kind ≠ .connection
  | .failed .., .connecting | .failed .., .idle => True
  | _, _ => False

/-- The events that may be emitted while a state is the last one announced. -/
def Permits (s : TransferState) : TransferEvent → Prop
  | .state t => s.MayBecome t
  | .status _ => True
  | .extractProgress .. => ∃ id, s = .polling id
  | .downloadProgress .. => ∃ id, s = .downloading id

theorem mayBecome_idle (s : TransferState) : s.MayBecome .idle := by
  cases s <;> trivial

end TransferState

def TransferEvent.state? : TransferEvent → Option TransferState
  | .state s => some s
  | _ => none

theorem TransferEvent.mem_states {es : List TransferEvent} {s : TransferState} :
    s ∈ es.filterMap state? ↔ .state s ∈ es := by
  rw [List.mem_filterMap]
  constructor
  · rintro ⟨e, member, named⟩
    cases e with
    | state t =>
      obtain rfl : t = s := Option.some.inj named
      exact member
    | _ => cases named
  · exact fun member => ⟨_, member, rfl⟩

def Note.event? : Note → Option TransferEvent
  | .event e => some e
  | _ => none

def Note.result? : Note → Option (Nat × CallResult)
  | .returned ticket r => some (ticket, r)
  | _ => none

theorem Note.eq_returned {n : Note} {ticket : Nat} {r : CallResult}
    (h : n.result? = some (ticket, r)) : n = .returned ticket r := by
  cases n <;> simp_all [result?]

def CallResult.fault? : CallResult → Option Fault
  | .connected (.error f) | .fetched (.error f) => some f
  | .connected (.ok _) | .fetched (.ok _) => none

/-- The last state among events, where every row of events starts from `idle`. -/
def announced (es : List TransferEvent) : TransferState :=
  (es.filterMap TransferEvent.state?).getLastD .idle

def Lawful (es : List TransferEvent) : Prop :=
  ∀ earlier e later, es = earlier ++ e :: later → (announced earlier).Permits e

@[simp] theorem announced_nil : announced [] = .idle := rfl

@[simp] theorem announced_concat_state (es : List TransferEvent) (s : TransferState) :
    announced (es ++ [.state s]) = s := by
  simp [announced, TransferEvent.state?]

theorem announced_concat {e : TransferEvent} (h : e.state? = none) (es : List TransferEvent) :
    announced (es ++ [e]) = announced es := by
  simp [announced, h]

theorem lawful_nil : Lawful [] := by
  intro earlier e later h
  simp at h

theorem Lawful.concat {es : List TransferEvent} (h : Lawful es) {e : TransferEvent}
    (permitted : (announced es).Permits e) : Lawful (es ++ [e]) := by
  intro earlier x later split
  rcases List.eq_nil_or_concat later with rfl | ⟨later, y, rfl⟩
  · obtain ⟨rfl, last⟩ := List.append_inj' split rfl
    obtain rfl : e = x := by simpa using last
    exact permitted
  · rw [List.concat_eq_append, ← List.cons_append, ← List.append_assoc] at split
    exact h earlier x later (List.append_inj_left' split rfl)

theorem Lawful.of_concat {es : List TransferEvent} {e : TransferEvent} (h : Lawful (es ++ [e])) :
    Lawful es ∧ (announced es).Permits e := by
  refine ⟨fun earlier x later split => ?_, h es e [] rfl⟩
  exact h earlier x (later ++ [e]) (by simp [split])

theorem Lawful.isChain {es : List TransferEvent} (h : Lawful es) :
    (TransferState.idle :: es.filterMap TransferEvent.state?).IsChain TransferState.MayBecome := by
  induction es using List.reverseRecOn with
  | nil => exact .singleton _
  | append_singleton es e ih =>
    obtain ⟨lawful, permitted⟩ := h.of_concat
    have chain := ih lawful
    cases e with
    | state s =>
      have next : (announced es).MayBecome s := permitted
      have last : (TransferState.idle :: es.filterMap TransferEvent.state?).getLast? =
          some (announced es) := by
        rw [List.getLast?_cons, announced, List.getLastD_eq_getLast?]
      rw [List.filterMap_append, ← List.cons_append]
      refine List.isChain_append.2 ⟨chain, .singleton _, fun x hx y hy => ?_⟩
      obtain rfl : announced es = x := by simpa [last] using hx
      obtain rfl : s = y := by simpa [TransferEvent.state?] using hy
      exact next
    | status | extractProgress | downloadProgress =>
      rw [List.filterMap_append, List.filterMap_cons_none rfl, List.filterMap_nil, List.append_nil]
      exact chain

namespace Dock

def Tells (d e : Dock) : Prop := e = { d with state := e.state, journal := e.journal }

section Tells

variable {d e f : Dock}

theorem Tells.trans (h : Tells d e) (h' : Tells e f) : Tells d f := by
  rw [Tells, h', h]

theorem Tells.generation (h : Tells d e) : e.generation = d.generation := by
  rw [show e = _ from h]

theorem Tells.device (h : Tells d e) : e.device = d.device := by
  rw [show e = _ from h]

theorem Tells.active (h : Tells d e) : e.active = d.active := by
  rw [show e = _ from h]

theorem Tells.flight (h : Tells d e) : e.flight = d.flight := by
  rw [show e = _ from h]

theorem Tells.cancelled (h : Tells d e) : e.cancelled = d.cancelled := by
  rw [show e = _ from h]

theorem Tells.files (h : Tells d e) : e.files = d.files := by
  rw [show e = _ from h]

theorem Tells.disk (h : Tells d e) : e.disk = d.disk := by
  rw [show e = _ from h]

theorem tells_note (d : Dock) (n : Note) : Tells d (d.note n) := rfl

theorem tells_emit (d : Dock) (e : TransferEvent) : Tells d (d.emit e) := rfl

theorem tells_say (d : Dock) (line : String) : Tells d (d.say line) := rfl

theorem tells_record (d : Dock) (level : LogLevel) (message : String)
    (fields : List (String × LogValue)) : Tells d (d.record level message fields) := rfl

theorem tells_report (d : Dock) (total : Nat) (count : Option Nat) :
    Tells d (d.report total count) := by
  cases count <;> rfl

theorem tells_keepPayload (d : Dock) (r : Reception) :
    Tells { d with files := d.files.put r.spool (.file r.payload) } (d.keepPayload r) := by
  rw [keepPayload]
  split <;> rfl

theorem tells_transition (d : Dock) (generation : Nat) (s : TransferState) :
    Tells d (d.transition generation s) := by
  rw [transition]
  split <;> rfl

theorem tells_fail (d : Dock) (generation : Nat) (f : Fault) : Tells d (d.fail generation f) :=
  (tells_transition d generation _).trans (tells_say _ _)

theorem tells_conclude (d : Dock) (job : Job) (r : Except Fault FetchOutcome) :
    Tells d (d.conclude job r) := by
  cases r with
  | ok outcome =>
    exact (tells_record d _ _ _).trans ((tells_transition _ _ _).trans (tells_say _ _))
  | error f => exact tells_fail d job.generation f

end Tells

def events (d : Dock) : List TransferEvent := d.journal.reverse.filterMap Note.event?

def states (d : Dock) : List TransferState := d.events.filterMap TransferEvent.state?

def results (d : Dock) : List (Nat × CallResult) := d.journal.filterMap Note.result?

@[simp] theorem events_emit (d : Dock) (e : TransferEvent) :
    (d.emit e).events = d.events ++ [e] := by
  simp [events, emit, note, Note.event?]

@[simp] theorem events_record (d : Dock) (level : LogLevel) (message : String)
    (fields : List (String × LogValue)) : (d.record level message fields).events = d.events := by
  simp [events, record, note, Note.event?]

@[simp] theorem events_wait (d : Dock) (f : Flight) : (d.wait f).events = d.events := by
  simp [events, wait, note, Note.event?]

@[simp] theorem events_release (d : Dock) (ticket : Nat) (r : CallResult) :
    (d.release ticket r).events = d.events := by
  simp [events, release, note, Note.event?]

end Dock

end TitleDock
