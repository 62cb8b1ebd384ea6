import TitleDock.Proofs.Transfer.Cancelled
import TitleDock.Proofs.Transfer.Refusals

/-! How a fetch tells its outcome. It announces as its last state what it returns, and the line
after that says the same. The state before decides what can have gone wrong: a request in
`requesting`, also the extraction itself in `polling`, the processing in `downloading`. What came in
as a fault is told in full, under the heading of the call that it answers. -/

namespace TitleDock

def Session.reason (s : Session) : String :=
  (s.errorMessage.filter (· ≠ "")).getD "device reported failure without a message"

theorem Session.failure_eq (s : Session) : s.failure = .remoteExtraction s.reason := by
  unfold failure reason
  cases s.errorMessage with
  | none => rfl
  | some m => by_cases empty : m = "" <;> simp [empty, Option.filter]

def Title.lastLine (title : Title) : Except Fault FetchOutcome → String
  | .ok outcome => "Saved " ++ title.name ++ " to " ++ outcome.output
  | .error f => "Error: " ++ f.message

/-- What a fault that comes in is told as. -/
def Arrival.fault? : Arrival → Option Fault
  | .answer (.accepted (.error f)) => some (.request (toString f))
  | .answer (.status (.error f)) => some (.request ("status poll failed: " ++ toString f))
  | .answer (.download (.error f)) => some (.processing ("download failed: " ++ toString f))
  | .piece (.error e) => some (.ofSystem "failed to download payload" e)
  | .decoded (.error e) => some (.processing e.message)
  | _ => none

namespace Stage

variable {d : Dock} {stage next : Stage} {s : TransferState} {a : Arrival}
  {moves : List TransferEvent} {job : Job} {f : Fault} {r : Except Fault FetchOutcome}

end Stage

namespace Passage

variable {heard : List Arrival} {told : List TransferEvent} {passed : List Stage} {stage : Stage}

theorem suits (h : Passage heard told passed stage) : stage.Suits (announced told) := by
  induction h with
  | start => rfl
  | @step heard told moves passed stage next a passage leads ih =>
    have counted (count : Option Nat) (total : Nat) :
        announced (told ++ count.toList.map (.downloadProgress · total)) = announced told := by
      cases count with
      | none => simp
      | some n => exact announced_concat rfl told
    cases leads with
    | accepted id =>
      rw [announced_concat_state]
      rfl
    | @completed id =>
      rw [announced_concat_state]
      exact ⟨id, rfl⟩
    | inProgress =>
      rw [announced_concat rfl]
      exact ih
    | received | ended =>
      rw [counted]
      exact ih
    | rested | pending | opened | flushed | decoded | placed =>
      rw [List.append_nil]
      exact ih

end Passage

namespace Dock

section Concludes

variable {d e m w : Dock} {job : Job} {stage last : Stage} {heard : List Arrival}
  {told : List TransferEvent} {passed : List Stage} {waits : List Await}
  {r : Except Fault FetchOutcome}

theorem events_of_split {notes : List Note} (split : e.journal = notes ++ d.journal) :
    e.events = d.events ++ notes.reverse.filterMap Note.event? := by
  simp [events, split]

theorem Adds.exists_events (h : Adds d e told waits) (sound : e.Sound) (busy : e.state ≠ .idle)
    (apart : .state .connecting ∉ told) :
    ∃ new, e.events = d.events ++ new ∧
      new.filterMap TransferEvent.state? = told.filterMap TransferEvent.state? := by
  have states := h.states sound busy apart
  obtain ⟨notes, split, -⟩ := h
  rw [Dock.states, events_of_split split, List.filterMap_append] at states
  exact ⟨_, events_of_split split, List.append_cancel_left states⟩

theorem events_conclude (current : d.generation = job.generation) (r : Except Fault FetchOutcome) :
    (d.conclude job r).events =
      d.events ++ [.state (.closing r), .status (job.title.lastLine r)] := by
  cases r with
  | ok outcome =>
    rw [conclude, transition_of_current (by exact current), say, events_emit, events_emit,
      List.append_assoc]
    exact congrArg (· ++ _) (events_record d _ _ _)
  | error f =>
    rw [conclude, fail, transition_of_current current, say, events_emit, events_emit,
      List.append_assoc]
    rfl

theorem events_of_spanClosed (d : Dock) (files : Files.Tree) :
    Dock.events { d with files, active := none, journal := .spanClosed :: d.journal } =
      d.events := by
  simp [events, Note.event?]

theorem events_finish (current : d.generation = job.generation) (stage : Stage)
    (r : Except Fault FetchOutcome) :
    (d.finish job stage r).events =
      d.events ++ [.state (.closing r), .status (job.title.lastLine r)] := by
  rw [finish_of_current current, events_release, events_conclude (by exact current)]
  exact congrArg (· ++ _) (events_of_spanClosed d (d.clear stage).files)

theorem OnTheWay.tells (h : OnTheWay d job heard stage e)
    (current : e.generation = job.generation) :
    ∃ told, e.events = d.events ++ told ∧ ∀ s, .state s ∈ told → s.IsFetching := by
  obtain ⟨moves, passed, passage, adds⟩ := h.passage
  have busy : e.state ≠ .idle := by
    intro idle
    have fetching := (h.sound.serves_of_current h.flight current).2.isFetching.1
    rw [idle] at fetching
    exact fetching
  obtain ⟨told, all, named⟩ :=
    adds.exists_events h.sound busy fun member => passage.isFetching member
  refine ⟨told, all, fun s member => ?_⟩
  rw [← TransferEvent.mem_states, named, TransferEvent.mem_states] at member
  exact passage.isFetching member

end Concludes

section Tokens

variable {d : Dock} {serial : Nat} {parent : String}

end Tokens

section EndedBy

variable {f : Dock} {job : Job} {token : String} {inputs : List DockInput}
  {r : Except Fault FetchOutcome}

end EndedBy

section Call

variable {d : Dock} {device : Device} {ticket : Nat} {title : Title} {target : FetchTarget}
  {token : String} {inputs : List DockInput}

end Call

end Dock

end TitleDock
