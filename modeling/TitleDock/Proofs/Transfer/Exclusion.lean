import Mathlib.Algebra.Order.Group.Multiset
import TitleDock.Proofs.Transfer.Atomic
import TitleDock.Proofs.Transfer.Turn

/-! One call at a time. Whatever comes in, and whether callers wait for their calls or drop them,
every call that came in has returned or was dropped, but for the one under way. So at most one is
past its entry, and the dock is busy as long as there is one. A call that meets a busy dock, or a
fetch without a device, is turned away: it returns at once, and nothing else happens. -/

namespace TitleDock

/-- What befalls a dock: an input, or that the call under way is dropped by its caller. -/
inductive Incident where
  | input (i : DockInput)
  | drop

def DockInput.ticket? : DockInput → Option Nat
  | .connect ticket _ | .fetch ticket .. => some ticket
  | .disconnect | .cancel _ | .disk _ | .arrive _ => none

def Incident.ticket? : Incident → Option Nat
  | .input i => i.ticket?
  | .drop => none

def Flight.ticket : Flight → Nat
  | .connecting ticket .. => ticket
  | .fetching job _ => job.ticket

namespace Dock

def undergo (d : Dock) : Incident → Dock
  | .input i => d.step i
  | .drop => d.drop

def history (d : Dock) (incidents : List Incident) : Dock := incidents.foldl undergo d

def returned (d : Dock) : Multiset Nat := d.results.map Prod.fst

def underWay (d : Dock) : Multiset Nat := (d.flight.map Flight.ticket).toList

/-- The tickets of the calls that were dropped along a history. -/
def dropped (d : Dock) : List Incident → Multiset Nat
  | [] => 0
  | .input i :: later => (d.step i).dropped later
  | .drop :: later => d.underWay + d.drop.dropped later

/-- The call returned at once, and nothing else happened: it told nothing and called no device. -/
structure TurnedAway (d e : Dock) (ticket : Nat) (r : CallResult) : Prop where
  returned : e.journal = .returned ticket r :: d.journal
  rest : e = { d with journal := e.journal }
  events : e.events = d.events
  waits : e.journal.filterMap Note.await? = d.journal.filterMap Note.await?

/-- The calls that a dock answers for. -/
def accounted (d : Dock) : Multiset Nat := d.returned + d.underWay

section Accounted

variable {d e : Dock}

theorem accounted_of_flight {f : Flight} (flight : d.flight = some f) :
    d.accounted = f.ticket ::ₘ d.returned := by
  simp [accounted, underWay, flight, Multiset.add_comm _ {_}, Multiset.singleton_add]

theorem accounted_of_free (free : d.flight = none) : d.accounted = d.returned := by
  simp [accounted, underWay, free]

theorem returned_of_results {ticket : Nat} {r : CallResult}
    (h : e.results = (ticket, r) :: d.results) : e.returned = ticket ::ₘ d.returned := by
  rw [returned, h]
  rfl

theorem Works.results (h : Works d e) : e.results = d.results := by
  obtain ⟨told, split, words⟩ := h.words
  have silent : told.filterMap Note.result? = [] := by
    rw [List.filterMap_eq_nil_iff]
    intro n member
    have word := words n member
    cases n <;> first | rfl | exact word.elim
  simp [Dock.results, split, silent]

theorem Works.returned (h : Works d e) : e.returned = d.returned := by
  rw [Dock.returned, h.results]
  rfl

theorem results_finish (d : Dock) (job : Job) (stage : Stage) (r : Except Fault FetchOutcome) :
    (d.finish job stage r).results = (job.ticket, .fetched r) :: d.results := by
  let closed := ((d.clear stage).note .spanClosed).retire job.generation
  have same : closed.results = d.results := by
    simp only [closed]
    rw [retire]
    split <;> rfl
  calc
    (d.finish job stage r).results =
        (job.ticket, .fetched r) :: (closed.conclude job r).results := rfl
    _ = (job.ticket, .fetched r) :: d.results := by rw [(works_conclude closed job r).results, same]

theorem accounted_note (d : Dock) (ticket : Nat) (r : CallResult) :
    (d.note (.returned ticket r)).accounted = ticket ::ₘ d.accounted := by
  rw [accounted, returned_of_results (d := d) rfl, Multiset.cons_add]
  rfl

theorem accounted_finish (d : Dock) (job : Job) (stage : Stage) (r : Except Fault FetchOutcome) :
    (d.finish job stage r).accounted = job.ticket ::ₘ d.returned := by
  rw [accounted_of_free rfl, returned_of_results (results_finish d job stage r)]

theorem accounted_wait (d : Dock) (f : Flight) :
    (d.wait f).accounted = f.ticket ::ₘ d.returned := by
  rw [accounted_of_flight (flight_wait d f)]
  rfl

theorem accounted_enter (d : Dock) (job : Job) (stage : Stage) :
    (d.enter job stage).accounted = job.ticket ::ₘ d.returned := by
  rw [enter]
  split
  · exact accounted_finish d job stage _
  · exact accounted_wait d _

theorem accounted_resume {job : Job} {stage : Stage}
    (flight : d.flight = some (.fetching job stage)) (a : Arrival) :
    (d.resume job stage a).accounted = d.accounted := by
  have held : d.accounted = job.ticket ::ₘ d.returned := accounted_of_flight flight
  cases proceeds_resume d job stage a with
  | aside same => rw [same]
  | enters works next same => rw [same, accounted_enter, works.returned, held]
  | finishes works last r same => rw [same, accounted_finish, works.returned, held]

theorem accounted_finishConnect (d : Dock) (ticket : Nat) (device : Device) (generation : Nat)
    (r : Except Fault (List Title)) :
    (d.finishConnect ticket device generation r).accounted = ticket ::ₘ d.returned := by
  have told (e : Dock) (s : TransferState) (line : String) (result : CallResult)
      (same : e.returned = d.returned) :
      (((e.transition generation s).say line).release ticket result).accounted =
        ticket ::ₘ d.returned := by
    have works := (works_transition e generation s).trans (works_say _ line)
    rw [accounted_of_free rfl, ← same, ← works.returned]
    rfl
  cases r with
  | ok titles =>
    rw [finishConnect]
    split <;> exact told _ _ _ _ rfl
  | error f => exact told d _ _ _ rfl

theorem accounted_arrive (d : Dock) (a : Arrival) : (d.arrive a).accounted = d.accounted := by
  unfold arrive
  split
  case h_1 ticket device generation r flight =>
    rw [accounted_finishConnect, accounted_of_flight flight]
    rfl
  case h_2 flight => exact accounted_resume flight _
  case h_3 => rfl

theorem connect_of_free (free : d.isBusy = false) (ticket : Nat) (device : Device) :
    ∃ e, Works { d with generation := d.generation + 1, device := none } e ∧
      d.connect ticket device = e.wait (.connecting ticket device (d.generation + 1)) := by
  let line := "Connecting to " ++ toString device.address ++ "..."
  refine ⟨_, (works_transition _ (d.generation + 1) .connecting).trans (works_say _ line), ?_⟩
  rw [connect, if_neg (by simp [free])]

theorem accounted_connect (d : Dock) (ticket : Nat) (device : Device) :
    (d.connect ticket device).accounted = ticket ::ₘ d.accounted := by
  cases busy : d.isBusy with
  | true =>
    rw [connect_of_isBusy busy]
    exact accounted_note d ticket _
  | false =>
    obtain ⟨e, works, waits⟩ := connect_of_free busy ticket device
    rw [waits, accounted_wait, works.returned,
      accounted_of_free (flight_of_not_isBusy (by simp [busy]))]
    rfl

theorem accounted_fetch (d : Dock) (ticket : Nat) (title : Title) (target : FetchTarget)
    (token : String) :
    (d.fetch ticket title target token).accounted = ticket ::ₘ d.accounted := by
  cases busy : d.isBusy with
  | true =>
    rw [fetch_of_isBusy busy]
    exact accounted_note d ticket _
  | false =>
    cases connected : d.device with
    | none =>
      rw [fetch_of_bare busy connected]
      exact accounted_note d ticket _
    | some device =>
      obtain ⟨e, works, begins⟩ := works_fetch busy connected ticket title target token
      rw [begins, accounted_enter, works.returned,
        accounted_of_free (flight_of_not_isBusy (by simp [busy]))]
      rfl

theorem accounted_step (d : Dock) (i : DockInput) :
    (d.step i).accounted = i.ticket?.toList + d.accounted := by
  cases i with
  | connect ticket device => exact accounted_connect d ticket device
  | fetch ticket title target token => exact accounted_fetch d ticket title target token
  | disconnect => exact (zero_add _).symm
  | cancel token => exact (zero_add _).symm
  | disk disk => exact (zero_add _).symm
  | arrive a => exact (accounted_arrive d a).trans (zero_add _).symm

theorem accounted_drop (d : Dock) : d.underWay + d.drop.accounted = d.accounted := by
  have kept : d.drop.returned = d.returned ∧ d.drop.flight = none := by
    unfold drop
    split
    case h_1 => exact ⟨rfl, rfl⟩
    case h_2 => exact ⟨rfl, rfl⟩
    case h_3 free => exact ⟨rfl, free⟩
  rw [accounted_of_free kept.2, kept.1, accounted, add_comm]

theorem accounted_history (d : Dock) (incidents : List Incident) :
    (incidents.filterMap Incident.ticket? : Multiset Nat) + d.accounted =
      d.dropped incidents + (d.history incidents).accounted := by
  induction incidents generalizing d with
  | nil => rfl
  | cons incident later ih =>
    cases incident with
    | input i =>
      have split : ((Incident.input i :: later).filterMap Incident.ticket? : Multiset Nat) =
          i.ticket?.toList + later.filterMap Incident.ticket? := by
        cases called : i.ticket? <;> simp [Incident.ticket?, called]
      calc
        _ = later.filterMap Incident.ticket? + (d.step i).accounted := by
          rw [split, accounted_step, add_assoc, add_left_comm]
        _ = _ := ih (d.step i)
    | drop =>
      calc
        _ = d.underWay + (later.filterMap Incident.ticket? + d.drop.accounted) := by
          rw [add_left_comm, accounted_drop]
          rfl
        _ = _ := by
          rw [ih d.drop, ← add_assoc]
          rfl

end Accounted

section Results

variable {d : Dock} {i : DockInput} {told : List (Nat × CallResult)} {ticket : Nat} {r : CallResult}

theorem turnedAway_note (d : Dock) (ticket : Nat) (r : CallResult) :
    TurnedAway d (d.note (.returned ticket r)) ticket r :=
  ⟨rfl, rfl, by simp [events, note, Note.event?], rfl⟩

theorem turnedAway_connect (busy : d.isBusy = true) (ticket : Nat) (device : Device) :
    TurnedAway d (d.connect ticket device) ticket (.connected (.error .busy)) := by
  rw [connect_of_isBusy busy]
  exact turnedAway_note d ticket _

theorem turnedAway_fetch (busy : d.isBusy = true) (ticket : Nat) (title : Title)
    (target : FetchTarget) (token : String) :
    TurnedAway d (d.fetch ticket title target token) ticket (.fetched (.error .busy)) := by
  rw [fetch_of_isBusy busy]
  exact turnedAway_note d ticket _

theorem turnedAway_of_bare (free : d.isBusy = false) (bare : d.device = none) (ticket : Nat)
    (title : Title) (target : FetchTarget) (token : String) :
    TurnedAway d (d.fetch ticket title target token) ticket (.fetched (.error .notConnected)) := by
  rw [fetch_of_bare free bare]
  exact turnedAway_note d ticket _

theorem card_underWay_le (d : Dock) : d.underWay.card ≤ 1 := by
  cases flight : d.flight <;> simp [underWay, flight]

theorem card_underWay_eq_zero : d.underWay.card = 0 ↔ d.isBusy = false := by
  cases flight : d.flight <;> simp [underWay, isBusy, flight]

theorem settle_step (split : (d.step i).results = told ++ d.results) :
    told.length + (d.step i).underWay.card = i.ticket?.toList.length + d.underWay.card := by
  have answered := congrArg Multiset.card (accounted_step d i)
  simp only [accounted, returned, split, Multiset.card_add, Multiset.coe_card, List.length_map,
    List.length_append] at answered
  omega

theorem told_of_results (split : (d.step i).results = told ++ d.results)
    (same : (d.step i).results = (ticket, r) :: d.results) : told = [(ticket, r)] :=
  List.append_cancel_right (split.symm.trans same)

theorem fault_of_call (busy : d.isBusy = true) (called : i.ticket? ≠ none)
    (split : (d.step i).results = told ++ d.results) (member : (ticket, r) ∈ told) :
    r.fault? = some .busy := by
  have away {own : Nat} {result : CallResult} (same : d.step i = d.note (.returned own result)) :
      r = result := by
    rw [told_of_results split (congrArg results same), List.mem_singleton] at member
    exact congrArg Prod.snd member
  cases i with
  | connect own device =>
    rw [away (connect_of_isBusy busy own device)]
    rfl
  | fetch own title target token =>
    rw [away (fetch_of_isBusy busy own title target token)]
    rfl
  | disconnect | cancel | disk | arrive => exact absurd rfl called

theorem free_of_returns (split : (d.step i).results = told ++ d.results)
    (member : (ticket, r) ∈ told) (other : r.fault? ≠ some .busy) :
    (d.step i).isBusy = false := by
  have settled := settle_step split
  have some := List.length_pos_of_mem member
  have held := card_underWay_le d
  rw [← card_underWay_eq_zero]
  cases called : i.ticket? with
  | none =>
    simp only [called, Option.toList_none, List.length_nil] at settled
    omega
  | some own =>
    cases busy : d.isBusy with
    | true => exact absurd (fault_of_call busy (by simp [called]) split member) other
    | false =>
      rw [called, card_underWay_eq_zero.2 busy, Option.toList_some, List.length_singleton] at settled
      omega

theorem results_enter (d : Dock) (job : Job) (stage : Stage) :
    (d.enter job stage).results = d.results ∨
      (d.enter job stage).results = (job.ticket, .fetched (.error .cancelled)) :: d.results := by
  rw [enter]
  split
  · exact .inr (results_finish d job stage _)
  · exact .inl rfl

theorem results_of_free (free : d.isBusy = false) (i : DockInput) :
    (d.step i).results = d.results ∨
      ∃ ticket r, (d.step i).results = (ticket, r) :: d.results ∧ r.fault? ≠ some .busy := by
  cases i with
  | connect ticket device =>
    obtain ⟨e, works, waits⟩ := connect_of_free free ticket device
    exact .inl ((congrArg results waits).trans works.results)
  | fetch ticket title target token =>
    cases connected : d.device with
    | none =>
      have away := turnedAway_of_bare free connected ticket title target token
      exact .inr ⟨ticket, _, by rw [step, results, away.returned]; rfl, by simp [CallResult.fault?]⟩
    | some device =>
      obtain ⟨e, works, begins⟩ := works_fetch free connected ticket title target token
      have same : e.results = d.results := works.results
      rw [step, begins, ← same]
      obtain still | back := results_enter e (d.jobFor ticket title target token device) .requesting
      · exact .inl still
      · exact .inr ⟨_, _, back, by simp [CallResult.fault?]⟩
  | disconnect => exact .inl rfl
  | cancel token => exact .inl rfl
  | disk disk => exact .inl rfl
  | arrive a =>
    have still : d.arrive a = d := by
      rw [arrive.eq_def, flight_of_not_isBusy (by simp [free])]
    exact .inl (congrArg results still)

theorem busy_of_fault (split : (d.step i).results = told ++ d.results)
    (member : (ticket, r) ∈ told) (fault : r.fault? = some .busy) : d.isBusy = true := by
  by_contra free
  obtain still | ⟨own, result, back, other⟩ := results_of_free (by simpa using free) i
  · rw [still] at split
    simp [List.self_eq_append_left.1 split] at member
  · rw [told_of_results split back, List.mem_singleton] at member
    obtain rfl : r = result := congrArg Prod.snd member
    exact other fault

theorem isBusy_drop (d : Dock) : d.drop.isBusy = false := by
  unfold drop
  split
  case h_1 | h_2 => rfl
  case h_3 free => rw [isBusy, free]; rfl

end Results

/-- Whatever befell a dock, all calls that came in have returned or were dropped, but for one at
most, and the dock is busy while there is one. As long as it is busy all calls are turned away, and
a fetch is turned away that finds no device. A call that returns with anything else, and one that is
dropped, leaves the dock free, and a free dock tells no call that it is busy. -/
theorem calls_exclude_each_other (settings : TransferSettings) (files : Files.Tree)
    (incidents : List Incident) :
    let start := new settings files
    let d := start.history incidents
    (∃ pending : Multiset Nat,
      incidents.filterMap Incident.ticket? = pending + (d.returned + start.dropped incidents) ∧
        pending.card ≤ 1 ∧ (d.isBusy = true ↔ pending ≠ 0)) ∧
      (d.isBusy = true →
        (∀ ticket device,
          TurnedAway d (d.connect ticket device) ticket (.connected (.error .busy))) ∧
        ∀ ticket title target token,
          TurnedAway d (d.fetch ticket title target token) ticket (.fetched (.error .busy))) ∧
      (d.isBusy = false → d.device = none → ∀ ticket title target token,
        TurnedAway d (d.fetch ticket title target token) ticket
          (.fetched (.error .notConnected))) ∧
      (∀ i told ticket r, (d.step i).results = told ++ d.results → (ticket, r) ∈ told →
        (r.fault? ≠ some .busy → (d.step i).isBusy = false) ∧
          (r.fault? = some .busy → d.isBusy = true)) ∧
      d.drop.isBusy = false := by
  intro start d
  refine ⟨⟨d.underWay, ?_, card_underWay_le d, ?_⟩, fun busy => ?_, ?_, ?_, isBusy_drop d⟩
  · have all := accounted_history start incidents
    rw [show start.accounted = 0 from rfl, add_zero, accounted] at all
    rw [all, ← add_assoc, add_comm _ d.underWay, add_comm d.returned]
  · rw [Ne, ← Multiset.card_eq_zero, card_underWay_eq_zero, Bool.not_eq_false]
  · exact ⟨turnedAway_connect busy, turnedAway_fetch busy⟩
  · exact turnedAway_of_bare
  · intro i told ticket r split member
    exact ⟨free_of_returns split member, busy_of_fault split member⟩

/-- A dock turns away a fetch before it connects and a call while it does, and is free when the
titles are there. -/
theorem connecting_excludes :
    let start := new (sample "spool").settings (.empty [])
    let device : Device :=
      { address := .v4 ⟨10, 0, 0, 5⟩ 8080, name := "Dock", version := "1.0", lastSeen := 0 }
    let title : Title :=
      { titleId := "0100", name := "Game", version := "", size := 0, kind := .other
        extractable := true }
    let d := start.history [.input (.connect 1 device)]
    TurnedAway start (start.fetch 2 title ⟨"games/one", .n64⟩ "caller") 2
        (.fetched (.error .notConnected)) ∧
      TurnedAway d (d.connect 3 device) 3 (.connected (.error .busy)) ∧
      (d.step (.arrive (.answer (.titles (.ok []))))).isBusy = false := by
  intro start device title d
  obtain ⟨-, -, bare, -, -⟩ := calls_exclude_each_other (sample "spool").settings (.empty []) []
  obtain ⟨-, busy, -, returns, -⟩ := calls_exclude_each_other (sample "spool").settings (.empty [])
    [.input (.connect 1 device)]
  have back := returns (.arrive (.answer (.titles (.ok [])))) [(1, .connected (.ok 0))] 1
    (.connected (.ok 0)) rfl (by simp)
  exact ⟨bare rfl rfl 2 title ⟨"games/one", .n64⟩ "caller", (busy rfl).1 3 device,
    back.1 (by simp [CallResult.fault?])⟩

end Dock

end TitleDock
