import TitleDock.Proofs.Command.Discipline
import TitleDock.Proofs.Transfer.Exclusion
import TitleDock.Proofs.Transfer.Traces

/-! How a dock serves a fetch that nobody cancels. Each stage stands for a phase of the calls: what
leads to the next stage leads to its phase as well, and what closes the fetch closes the calls. The
fetch returns an outcome if and only if its content was written. -/

namespace TitleDock

open Files Files.Tree

def Answer.isFor : Answer → Call → Bool
  | .info _, .info _ => true
  | .titles _, .titles _ => true
  | .accepted _, .extract .. => true
  | .status _, .status .. => true
  | .download _, .download .. => true
  | _, _ => false

namespace Await

def call? : Await → Option Call
  | .answer c => some c
  | _ => none

def answer? : Await → Arrival → Option Answer
  | .answer c, .answer r => if r.isFor c then some r else none
  | _, _ => none

theorem answer?_info (d : Device) (a : Arrival) :
    (∃ r, a = .answer (.info r) ∧ (answer (.info d)).answer? a = some (.info r)) ∨
      (∀ r, a ≠ .answer (.info r)) ∧ (answer (.info d)).answer? a = none := by
  rcases a with (r | _ | _ | _ | _) | _ | _ | _ | _ | _
  case answer.info => exact .inl ⟨r, rfl, rfl⟩
  all_goals exact .inr ⟨by simp, rfl⟩

theorem answer?_titles (d : Device) (a : Arrival) :
    (∃ r, a = .answer (.titles r) ∧ (answer (.titles d)).answer? a = some (.titles r)) ∨
      (∀ r, a ≠ .answer (.titles r)) ∧ (answer (.titles d)).answer? a = none := by
  rcases a with (_ | r | _ | _ | _) | _ | _ | _ | _ | _
  case answer.titles => exact .inl ⟨r, rfl, rfl⟩
  all_goals exact .inr ⟨by simp, rfl⟩

end Await

namespace Stage

def phase (job : Job) : Stage → Phase
  | .requesting => .waits (.extract job.device job.request)
  | .resting id _ => .rests (.status job.device id)
  | .polling id _ => .waits (.status job.device id)
  | .opening session => .waits (.download job.device session.operationId)
  | .receiving session _ | .flushing session _ | .decoding session .. =>
    .answered (.download job.device session.operationId)
  | .placing p _ | .filling p _ => .answered (.download job.device p.session.operationId)

section Phases

variable {d : Dock} {settings : TransferSettings} {titleId : String} {calls : List Call}
  {answers : List Answer} {job : Job} {stage next : Stage} {a : Arrival}
  {moves : List TransferEvent} {r : Except Fault FetchOutcome}

theorem answer?_of_deaf (deaf : (stage.await job).isMetBy a = false) :
    (stage.await job).answer? a = none := by
  cases stage <;> rcases a with (_ | _ | _ | _ | _) | _ | _ | _ | _ | _ <;>
    first | rfl | cases deaf

theorem Leads.phase (h : stage.Leads a moves next)
    (follows : (stage.phase job).Follows settings titleId calls answers) :
    (next.phase job).Follows settings titleId (calls ++ (next.await job).call?.toList)
      (answers ++ ((stage.await job).answer? a).toList) := by
  cases h with
  | accepted id =>
    have rests := follows.goesOn (r := .accepted (.ok id)) fun before asked => .polls id asked
    simpa [Stage.phase, await, Await.call?, Await.answer?, Answer.isFor] using rests
  | rested id last =>
    have waits := follows.made
    simpa [Stage.phase, await, Await.call?, Await.answer?] using waits
  | @pending id last session advances status | @inProgress id last session advances status =>
    have unfinished : session.status ≠ .completed := by simp [status]
    have rests := follows.goesOn fun before asked => .pollsAgain unfinished asked
    simpa [Stage.phase, await, Await.call?, Await.answer?, Answer.isFor] using rests
  | completed advances status =>
    have rests := follows.goesOn fun before asked => .downloads status asked
    exact rests.made
  | opened session download spool =>
    have answered := follows.answered (.download (.ok download))
    simpa [Stage.phase, await, Await.call?, Await.answer?, Answer.isFor] using answered
  | received | ended | flushed | decoded | placed =>
    simpa [Stage.phase, await, Await.call?, Await.answer?] using follows

theorem Leads.phase_of_progress (h : stage.Leads a moves next) (job : Job) {count total : Nat}
    (told : .downloadProgress count total ∈ moves) :
    (∃ last, stage.phase job = .answered last) ∧ (next.await job).call? = none ∧
      (stage.await job).answer? a = none := by
  cases h with
  | received | ended => exact ⟨⟨_, rfl⟩, rfl, rfl⟩
  | _ => simp at told

theorem Closes.phase (h : stage.Closes d job a r)
    (follows : (stage.phase job).Follows settings titleId calls answers) :
    ∃ last, (Phase.answered last).Follows settings titleId calls
        (answers ++ ((stage.await job).answer? a).toList) ∧
      ∀ outcome, r = .ok outcome → ∃ d id, last = .download d id := by
  have silent {last : Call} (phase : stage.phase job = .answered last)
      (unanswered : (stage.await job).answer? a = none) :
      (Phase.answered last).Follows settings titleId calls
        (answers ++ ((stage.await job).answer? a).toList) := by
    rw [phase] at follows
    simpa [unanswered] using follows
  cases h with
  | refused | unaccepted | failed | unopened => exact ⟨_, follows.answered _, nofun⟩
  | denied denied =>
    cases denied with
    | spool => exact ⟨_, follows.answered _, nofun⟩
    | flush | reopen | folders | part | content => exact ⟨_, silent rfl rfl, nofun⟩
  | broken | undecoded | saved => exact ⟨_, silent rfl rfl, fun _ _ => ⟨_, _, rfl⟩⟩

end Phases

end Stage

namespace Dock

def written? (d : Dock) (a : Arrival) : Option Bytes :=
  match d.flight, a with
  | some (.fetching job (.filling p part)), .stored =>
    match d.isCancelled job.token, d.files.storePart d.disk part job.target.output p.content with
    | false, .ok _ => some p.content
    | _, _ => none
  | _, _ => none

/-- A fetch under way that was called at a moment and that nobody cancels. -/
structure Carries (called : Dock) (job : Job) (stage : Stage) (d : Dock) : Prop where
  way : ∃ heard, OnTheWay called job heard stage d
  cancelled : d.cancelled = []
  fresh : job.ticket ∉ d.returned

/-- What an arrival makes of a fetch that nobody cancels. -/
inductive Carried (called : Dock) (job : Job) (stage : Stage) (a : Arrival) (d e : Dock) : Prop
  | aside (deaf : (stage.await job).isMetBy a = false) (silent : d.written? a = none) (same : e = d)
  | leads {moves : List TransferEvent} {next : Stage} (leads : stage.Leads a moves next)
      (adds : Adds d e moves [next.await job]) (silent : d.written? a = none)
      (carries : Carries called job next e)
  | fails (f : Fault) (closes : stage.Closes d job a (.error f))
      (adds : Adds d e [.state (.closing (.error f))] [])
      (returned : e.result? job.ticket = some (.fetched (.error f)))
      (silent : d.written? a = none)
      (grown : Grown (job.target.folders called.settings) called.files e.files)
  | saves (outcome : FetchOutcome) (closes : stage.Closes d job a (.ok outcome))
      (adds : Adds d e [.state .succeeded] [])
      (returned : e.result? job.ticket = some (.fetched (.ok outcome)))
      (content : Bytes) (written : d.written? a = some content)
      (stored : (∃ p, StoredAt (job.target.folders called.settings) job.target.output content
          called.files e.files p) ∨
        ¬ stage.Apart job.target.output ∧
          Grown (job.target.folders called.settings) called.files e.files)

section Results

variable {d : Dock} {ticket : Nat} {r : CallResult}

theorem result?_of_head (h : d.journal.head? = some (.returned ticket r)) :
    d.result? ticket = some r := by
  obtain ⟨later, split⟩ := List.head?_eq_some_iff.1 h
  simp [result?, split]

theorem result?_of_fresh (h : ticket ∉ d.returned) : d.result? ticket = none := by
  rw [result?, List.findSome?_eq_none_iff]
  intro n member
  cases n with
  | returned own r =>
    have other : own ≠ ticket := by
      rintro rfl
      refine h ?_
      rw [returned, Multiset.mem_coe, List.mem_map]
      exact ⟨(own, r), List.mem_filterMap.2 ⟨_, member, rfl⟩, rfl⟩
    simp [other]
  | event | record | awaits | spanClosed => rfl

theorem live_of_cancelled (h : d.cancelled = []) (t : Token) : d.isCancelled t = false := by
  cases t <;> simp [isCancelled, h]

end Results

section Carries

variable {called d : Dock} {job : Job} {stage next : Stage} {a : Arrival}
  {moves : List TransferEvent} {r : Except Fault FetchOutcome}

theorem written?_of_leads (leads : stage.Leads a moves next)
    (flight : d.flight = some (.fetching job stage)) : d.written? a = none := by
  cases leads <;> simp [written?, flight]

theorem written?_of_deaf (deaf : (stage.await job).isMetBy a = false)
    (flight : d.flight = some (.fetching job stage)) : d.written? a = none := by
  unfold written?
  rw [flight]
  split
  case h_1 same => cases same; cases deaf
  case h_2 => rfl

theorem written?_of_closes (flight : d.flight = some (.fetching job stage))
    (live : d.isCancelled job.token = false) (closes : stage.Closes d job a r) :
    match r with
    | .error _ => d.written? a = none
    | .ok _ => ∃ p part, stage = .filling p part ∧ d.written? a = some p.content := by
  cases closes with
  | refused | unaccepted | failed | unopened | broken | undecoded => simp [written?, flight]
  | denied denied =>
    cases denied with
    | content denied => simp [written?, flight, live, denied]
    | _ => simp [written?, flight]
  | saved stored => exact ⟨_, _, rfl, by simp [written?, flight, live, stored]⟩

theorem returned_of_flight (flight : d.flight = some (.fetching job stage)) {e : Dock}
    (balance : e.accounted = d.accounted) (flight' : e.flight = some (.fetching job next)) :
    e.returned = d.returned := by
  rw [accounted_of_flight flight, accounted_of_flight flight'] at balance
  exact (Multiset.cons_inj_right _).1 balance

theorem Carries.disk (h : Carries called job stage d) (disk : Disk) :
    Carries called job stage (d.step (.disk disk)) := by
  obtain ⟨heard, way⟩ := h.way
  exact ⟨⟨heard, way.aside (by simp)⟩, h.cancelled, h.fresh⟩

theorem Carries.apart (h : Carries called job stage d)
    (h' : Carries called job next (d.step (.arrive a))) {path : String} (avoids : d.disk.Avoids path)
    (apart : stage.Apart path) : next.Apart path := by
  obtain ⟨heard, way⟩ := h.way
  obtain ⟨heard', way'⟩ := h'.way
  have before : d.SpoolApart path := by
    refine ⟨avoids, fun job' stage' flight => ?_⟩
    obtain ⟨-, rfl⟩ : job = job' ∧ stage = stage' := by simpa using way.flight.symm.trans flight
    exact apart
  exact (before.arrive a).stage job next way'.flight

theorem Carries.step (h : Carries called job stage d) (a : Arrival) :
    Carried called job stage a d (d.step (.arrive a)) := by
  obtain ⟨heard, way⟩ := h.way
  have live := live_of_cancelled h.cancelled job.token
  have resumed : d.step (.arrive a) = d.resume job stage a := arrive_of_fetching way.flight a
  have cancelled : (d.step (.arrive a)).cancelled = [] :=
    (spares_arrive d a).cancelled.trans h.cancelled
  have turn := turn_resume (way.sound.serves way.flight live).1.generation live stage a
  rw [← resumed] at turn
  cases turn with
  | aside deaf same => exact .aside deaf (written?_of_deaf deaf way.flight) same
  | leads leads flight adds =>
    obtain ⟨next, way'⟩ := way.arrive (a := a) (isBusy_of_flight flight)
    obtain rfl : _ = next := by simpa [flight] using way'.flight
    refine .leads leads adds (written?_of_leads leads way.flight) ⟨⟨_, way'⟩, cancelled, ?_⟩
    have same := returned_of_flight way.flight (e := d.step (.arrive a)) (accounted_arrive d a) flight
    rw [same]
    exact h.fresh
  | @closes r closes flight returned adds =>
    -- the turn knows what closes the fetch, the fare what becomes of the files: they return the same
    have fares := way.fares a
    have written := written?_of_closes way.flight live closes
    rw [← resumed] at fares
    cases fares with
    | waits other flight' => simp [flight] at flight'
    | fails f ended returned' grown =>
      obtain rfl : r = .error f := by simpa [returned] using returned'
      exact .fails f closes adds (result?_of_head returned) written grown
    | saves p part filling ended returned' stored =>
      obtain rfl : r = .ok _ := by simpa [returned] using returned'
      obtain ⟨p', part', filling', written⟩ := written
      obtain ⟨rfl, -⟩ : p = p' ∧ part = part' := by simpa using filling.symm.trans filling'
      refine .saves _ closes adds (result?_of_head returned) p.content written ?_
      refine stored.imp_right fun ⟨same, grown⟩ => ⟨fun apart => ?_, grown⟩
      subst filling
      exact apart p.spool rfl same

end Carries

structure AtHand (d : Dock) (device : Device) : Prop where
  sound : d.Sound
  free : d.flight = none
  held : d.device = some device
  cancelled : d.cancelled = []

theorem AtHand.disk {d : Dock} {device : Device} (h : d.AtHand device) (disk : Disk) :
    (d.step (.disk disk)).AtHand device :=
  ⟨h.sound.step (.disk disk), h.free, h.held, h.cancelled⟩

def connecting (settings : TransferSettings) (files : Tree) (ticket : Nat) (device : Device)
    (disk : Disk) : Dock :=
  { (new settings files).connect ticket device with disk }

section Opening

variable (settings : TransferSettings) (files : Tree) (ticket : Nat) (device : Device) (disk : Disk)

theorem adds_connect_new :
    let d := (new settings files).step (.disk disk)
    d.step (.connect ticket device) = connecting settings files ticket device disk ∧
      Adds d (connecting settings files ticket device disk) [.state .connecting]
        [.answer (.titles device)] :=
  ⟨rfl, [_, _, _], rfl, rfl, rfl⟩

theorem connecting_disk (present : Disk) :
    (connecting settings files ticket device disk).step (.disk present) =
      connecting settings files ticket device present :=
  rfl

theorem connecting_titles (ts : List Title) :
    let d := connecting settings files ticket device disk
    let e := d.step (.arrive (.answer (.titles (.ok ts))))
    e.AtHand device ∧ e.result? ticket = some (.connected (.ok ts.length)) ∧
      Adds d e [.state (.connected ts.length)] [] := by
  intro d e
  have sound : d.Sound := ((sound_new settings files).connect ticket device).step (.disk disk)
  exact ⟨⟨sound.step _, rfl, rfl, rfl⟩, result?_of_head rfl, [_, _, _], rfl, rfl, rfl⟩

theorem connecting_fault (f : Fault) :
    let d := connecting settings files ticket device disk
    let e := d.step (.arrive (.answer (.titles (.error f))))
    e.result? ticket = some (.connected (.error (.connection (toString f)))) ∧
      Adds d e [.state (.ofFault (.connection (toString f)))] [] := by
  intro d e
  exact ⟨result?_of_head rfl, [_, _, _], rfl, rfl, rfl⟩

theorem connecting_deaf {a : Arrival} (deaf : ∀ r, a ≠ .answer (.titles r)) :
    (connecting settings files ticket device disk).step (.arrive a) =
      connecting settings files ticket device disk := by
  rcases a with (_ | r | _ | _ | _) | _ | _ | _ | _ | _
  case answer.titles => exact absurd rfl (deaf r)
  all_goals rfl

variable {device ticket} {d : Dock}

theorem AtHand.fetch (h : d.AtHand device) (fresh : ticket ∉ d.returned) (title : Title)
    (target : FetchTarget) (token : String) :
    let job := d.jobFor ticket title target token device
    let e := d.step (.fetch ticket title target token)
    Carries d job .requesting e ∧
      Adds d e [.state .requesting] [.answer (.extract device (requestFor d.settings title))] := by
  intro job e
  have free : d.isBusy = false := by rw [isBusy, h.free]; rfl
  obtain ⟨m, begins, voiced, -⟩ := fetch_of_free free h.held ticket title target token
  have live := live_of_cancelled (voiced.cancelled.trans h.cancelled) job.token
  have waits : e = m.wait (.fetching job .requesting) :=
    begins.trans (enter_of_not_isCancelled live .requesting)
  have flight : e.flight = some (.fetching job .requesting) := by rw [waits]; rfl
  have balance : e.accounted = ticket ::ₘ d.accounted := accounted_fetch d ticket title target token
  rw [accounted_of_flight flight, accounted_of_free h.free] at balance
  refine ⟨⟨⟨[], onTheWay_fetch h.sound free h.held (isBusy_of_flight flight)⟩, ?_, ?_⟩, ?_⟩
  · rw [waits]
    exact voiced.cancelled.trans h.cancelled
  · rw [(Multiset.cons_inj_right _).1 balance]
    exact fresh
  · have noted := adds_of_note (d := m) (n := .awaits (.answer (.extract device job.request)))
      (e := e) (by rw [waits]; rfl)
    exact voiced.adds.trans noted

end Opening

end Dock

end TitleDock
