import TitleDock.Proofs.Transfer.Passage

/-! The ids under which a fetch knows its operation. There are two: the one that the device gave
when it accepted the request, and the one in its report that the operation is completed. The fetch
announces the first and asks for the status under it, but downloads under the second and returns it.
They are the same as long as the device repeats in its report what it was asked for. -/

namespace TitleDock

def Arrival.acceptedId? : Arrival → Option String
  | .answer (.accepted (.ok id)) => some id
  | _ => none

def Arrival.completedId? : Arrival → Option String
  | .answer (.status (.ok session)) =>
    if session.status = .completed then some session.operationId else none
  | _ => none

/-- The id that a fetch announces. -/
def TransferEvent.operation? : TransferEvent → Option String
  | .state (.polling id) | .state (.downloading id) => some id
  | _ => none

theorem TransferEvent.move_of_operation (e : TransferEvent) {id : String}
    (h : e.operation? = some id) : (Note.event e).move? = some e := by
  rcases e with (_ | _ | _ | _ | _ | _ | _) | _ | _ | _ <;> first | rfl | cases h

namespace Stage

def operation? : Stage → Option String
  | .resting id _ | .polling id _ => some id
  | _ => none

def session? : Stage → Option Session
  | .opening session | .receiving session _ | .flushing session _ | .decoding session _ _ =>
    some session
  | .placing p _ | .filling p _ => some p.session
  | .requesting | .resting .. | .polling .. => none

variable {stage next : Stage} {a : Arrival} {moves : List TransferEvent}

theorem Leads.operation (h : stage.Leads a moves next) {id : String}
    (named : id ∈ moves.filterMap TransferEvent.operation? ∨ next.operation? = some id) :
    stage = .requesting ∧ a.acceptedId? = some id ∨ stage.operation? = some id := by
  have counted (count : Option Nat) (total : Nat) :
      (count.toList.map (TransferEvent.downloadProgress · total)).filterMap
        TransferEvent.operation? = [] := by
    cases count <;> rfl
  cases h with
  | accepted other =>
    obtain rfl : other = id := by
      simpa [TransferEvent.operation?, operation?, eq_comm] using named
    exact .inl ⟨rfl, rfl⟩
  | _ => simp_all [operation?, TransferEvent.operation?]

theorem Leads.session (h : stage.Leads a moves next) {session : Session}
    (relied : next.session? = some session) :
    stage.session? = none ∧ a.completedId? = some session.operationId ∨
      stage.session? = some session := by
  cases h <;> simp_all [session?, Arrival.completedId?]

theorem Leads.session_eq_none (h : stage.Leads a moves next) (none : next.session? = none) :
    stage.session? = .none ∧ a.completedId? = .none := by
  cases h <;> simp_all [session?, Arrival.completedId?]

end Stage

namespace Passage

variable {heard : List Arrival} {told : List TransferEvent} {passed : List Stage} {stage : Stage}

theorem operation (h : Passage heard told passed stage) {id : String}
    (named : id ∈ told.filterMap TransferEvent.operation? ∨
      ∃ s ∈ passed ++ [stage], s.operation? = some id) :
    heard.findSome? Arrival.acceptedId? = some id := by
  induction h with
  | start =>
    obtain told | ⟨s, member, asks⟩ := named
    · cases told
    · obtain rfl := List.mem_singleton.1 member
      cases asks
  | @step heard told moves passed stage next a passage leads ih =>
    have before (earlier : heard.findSome? Arrival.acceptedId? = some id) :
        (heard ++ [a]).findSome? Arrival.acceptedId? = some id := by
      simp [List.findSome?_append, earlier]
    have now (named : id ∈ moves.filterMap TransferEvent.operation? ∨ next.operation? = some id) :
        (heard ++ [a]).findSome? Arrival.acceptedId? = some id := by
      obtain ⟨rfl, accepted⟩ | asks := leads.operation named
      · rw [passage.heard_of_requesting]
        simp [accepted]
      · exact before (ih (.inr ⟨stage, by simp, asks⟩))
    rw [List.filterMap_append] at named
    obtain told | ⟨s, member, asks⟩ := named
    · obtain earlier | moved := List.mem_append.1 told
      · exact before (ih (.inl earlier))
      · exact now (.inl moved)
    · obtain earlier | last := List.mem_append.1 member
      · exact before (ih (.inr ⟨s, earlier, asks⟩))
      · obtain rfl := List.mem_singleton.1 last
        exact now (.inr asks)

theorem session (h : Passage heard told passed stage) :
    (stage.session? = none → heard.findSome? Arrival.completedId? = none) ∧
      ∀ s ∈ passed ++ [stage], ∀ session, s.session? = some session →
        heard.findSome? Arrival.completedId? = some session.operationId := by
  induction h with
  | start => simp [Stage.session?]
  | @step heard told moves passed stage next a passage leads ih =>
    obtain ⟨silent, relied⟩ := ih
    constructor
    · intro none
      obtain ⟨before, now⟩ := leads.session_eq_none none
      simp [List.findSome?_append, silent before, now]
    · intro s member session relies
      obtain earlier | last := List.mem_append.1 member
      · simp [List.findSome?_append, relied s earlier session relies]
      · obtain rfl := List.mem_singleton.1 last
        obtain ⟨none, now⟩ | before := leads.session relies
        · simp [List.findSome?_append, silent none, now]
        · simp [List.findSome?_append, relied stage (by simp) session before]

end Passage

namespace Dock

/-- The call belongs to a fetch of the title from the device, and asks under the id that the request
was accepted with, but downloads under the one that the operation was completed with. -/
def CallOf (settings : TransferSettings) (title : Title) (device? : Option Device)
    (accepted? completed? : Option String) : Call → Prop
  | .extract device request => device? = some device ∧ request = requestFor settings title
  | .status device id => device? = some device ∧ accepted? = some id
  | .download device id => device? = some device ∧ completed? = some id
  | .info _ | .titles _ => False

section Calls

variable {d : Dock} {device : Device} {ticket : Nat} {title : Title} {target : FetchTarget}
  {token : String} {inputs : List DockInput}

theorem callOf_of_passage {heard rest : List Arrival} {told : List TransferEvent}
    {passed : List Stage} {stage : Stage} (h : Passage heard told passed stage)
    (connected : d.device = some device) {call : Call}
    (made : Await.answer call ∈ (passed ++ [stage]).map
      (Stage.await (d.jobFor ticket title target token device))) :
    CallOf d.settings title d.device ((heard ++ rest).findSome? Arrival.acceptedId?)
      ((heard ++ rest).findSome? Arrival.completedId?) call := by
  obtain ⟨s, member, waits⟩ := List.mem_map.1 made
  rw [List.findSome?_append, List.findSome?_append]
  cases s with
  | requesting =>
    obtain rfl : _ = call := by simpa [Stage.await] using waits
    exact ⟨connected, rfl⟩
  | polling id last =>
    obtain rfl : _ = call := by simpa [Stage.await] using waits
    have named := h.operation (.inr ⟨_, member, rfl⟩)
    exact ⟨connected, by rw [named, Option.some_or]⟩
  | opening session =>
    obtain rfl : _ = call := by simpa [Stage.await] using waits
    have named := h.session.2 _ member session rfl
    exact ⟨connected, by rw [named, Option.some_or]⟩
  | resting | receiving | flushing | decoding | placing | filling => cases waits

theorem Fetched.operationId {job : Job} {f : Dock} (h : Fetched d job f inputs)
    (gone : (f.run inputs).isBusy = false) {ticket : Nat} {outcome : FetchOutcome}
    (returned : (f.run inputs).journal.head? = some (.returned ticket (.fetched (.ok outcome)))) :
    (f.heard inputs).findSome? Arrival.completedId? = some outcome.operationId := by
  obtain ⟨earlier, p, part, -, way, heard, -, rfl, -⟩ := h.saved gone returned
  obtain ⟨told, passed, passage, -⟩ := way.passage
  have named := passage.session.2 (.filling p part) (by simp) p.session rfl
  rw [heard, List.findSome?_append, named]
  rfl

end Calls

/-- At every moment of a fetch, every call was made to the connected device: the request for the
title, calls for the status under the id that the request was accepted with, and a download under
the id in the report of completion. The states announce the first id, and the outcome has the
second. -/
theorem fetch_knows_two_ids (settings : TransferSettings) (files : Files.Tree)
    (before : List DockInput) (ticket : Nat) (title : Title) (target : FetchTarget)
    (token : String) (inputs : List DockInput) :
    let d := (new settings files).run before
    let f := d.fetch ticket title target token
    let e := f.run inputs
    let accepted? := (f.heard inputs).findSome? Arrival.acceptedId?
    let completed? := (f.heard inputs).findSome? Arrival.completedId?
    d.isBusy = false → f.Lasts inputs →
      ∃ notes, e.journal = notes ++ d.journal ∧
        (∀ call, .awaits (.answer call) ∈ notes →
          CallOf d.settings title d.device accepted? completed? call) ∧
        (∀ event id, .event event ∈ notes → event.operation? = some id → accepted? = some id) ∧
        ∀ outcome, e.isBusy = false →
          e.journal.head? = some (.returned ticket (.fetched (.ok outcome))) →
            completed? = some outcome.operationId := by
  intro d f e accepted? completed? free lasts
  have sound : d.Sound := (sound_new settings files).run before
  cases connected : d.device with
  | none =>
    obtain ⟨rfl, refused⟩ := lasts_of_bare free connected lasts
    refine ⟨[_], congrArg journal refused, by simp, by simp, fun outcome _ returned => ?_⟩
    rw [show e = _ from refused] at returned
    cases returned
  | some device =>
    have fetched := fetched_run sound free connected lasts
    obtain ⟨heard, rest, told, passed, stage, last, waits, passage, split,
      ⟨notes, added, moves, awaits⟩, sub, closing⟩ := fetched.adds
    rw [← connected]
    refine ⟨notes, added, ?_, ?_, fun outcome gone returned => fetched.operationId gone returned⟩
    · intro call made
      have waited : .answer call ∈ waits := by
        rw [← awaits]
        exact List.mem_filterMap.2 ⟨_, List.mem_reverse.2 made, rfl⟩
      simp only [accepted?, completed?, f, split]
      exact callOf_of_passage passage connected (sub waited)
    · intro event id noted named
      have moved : event ∈ told ++ last := by
        rw [← moves]
        exact List.mem_filterMap.2 ⟨_, List.mem_reverse.2 noted, event.move_of_operation named⟩
      obtain earlier | ended := List.mem_append.1 moved
      · have known := passage.operation (.inl (List.mem_filterMap.2 ⟨event, earlier, named⟩))
        simp only [accepted?, f, split, List.findSome?_append, known, Option.some_or]
      · obtain ⟨r, rfl⟩ := closing event ended
        cases r <;> cases named

def renamedArrivals : List DockInput :=
  sampleArrivals.set 2 (.arrive (.answer (.status (.ok
    { operationId := "op-2", status := .completed, bytesTransferred := 0, totalBytes := 0
      errorMessage := none }))))

theorem renamed_fetch_knows_two_ids :
    let f := sampleFetch "spool" "games/one"
    let e := f.run renamedArrivals
    f.Lasts renamedArrivals ∧
      ∃ notes, e.journal = notes ++ (sample "spool").journal ∧
        ∀ call, .awaits (.answer call) ∈ notes →
          CallOf (sample "spool").settings
            { titleId := "0100", name := "Game", version := "", size := 0, kind := .other
              extractable := true }
            (sample "spool").device (some "op-1") (some "op-2") call := by
  intro f e
  have lasts : f.Lasts renamedArrivals := by decide +kernel
  obtain ⟨notes, added, calls, -⟩ := fetch_knows_two_ids _ (.empty []) _ 2
    { titleId := "0100", name := "Game", version := "", size := 0, kind := .other
      extractable := true } ⟨"games/one", .n64⟩ "caller" renamedArrivals rfl lasts
  exact ⟨lasts, notes, added, calls⟩

/-- Where the report of completion has another id than the request was accepted with, the fetch asks
under the one and announces it, but downloads under the other and returns it. -/
theorem download_under_other_id :
    let f := sampleFetch "spool" "games/one"
    let e := f.run renamedArrivals
    let device : Device :=
      { address := .v4 ⟨10, 0, 0, 5⟩ 8080, name := "Dock", version := "1.0", lastSeen := 0 }
    f.ReturnsAfter renamedArrivals ∧
      (.answer (.status device "op-1") ∈ e.journal.filterMap Note.await? ∧
        .polling "op-1" ∈ e.states ∧ .downloading "op-1" ∈ e.states) ∧
      .answer (.download device "op-2") ∈ e.journal.filterMap Note.await? ∧
      (match e.result? 2 with
        | some (.fetched (.ok outcome)) => some outcome.operationId
        | _ => none) = some "op-2" := by
  decide +kernel

end Dock

end TitleDock
