import TitleDock.Proofs.Remote.Serving
import TitleDock.Proofs.Transfer.Polling

/-! How long a fetch polls a made-up device. The polling has no bound of its own, and the script of
the device may be used up. It ends as soon as the statuses that are due stop being pending at first
and in progress then; whether they ever do is decided by the rest of the script, or by its last
entry once nothing is left of it. -/

namespace TitleDock

namespace ScriptedStatus

/-- The reports for so many calls in a row, after a number of earlier ones. -/
def upcoming (script : List ScriptedStatus) (asked : Nat) (id : String) (n : Nat) : List Session :=
  (List.range n).map fun k => (due script (asked + k)).toSession id

section Upcoming

variable {script : List ScriptedStatus} {asked n horizon : Nat} {id : String}

theorem upcoming_succ (script : List ScriptedStatus) (asked : Nat) (id : String) (n : Nat) :
    upcoming script asked id (n + 1) =
      upcoming script asked id n ++ [(due script (asked + n)).toSession id] := by
  simp [upcoming, List.range_succ]

@[simp] theorem length_upcoming (script : List ScriptedStatus) (asked : Nat) (id : String)
    (n : Nat) : (upcoming script asked id n).length = n := by
  simp [upcoming]

theorem goOn_upcoming_of_le {k : Nat} (le : k ≤ n)
    (h : Session.GoOn ((upcoming script asked id n).map .ok)) :
    Session.GoOn ((upcoming script asked id k).map .ok) := by
  obtain ⟨m, rfl⟩ := Nat.exists_eq_add_of_le le
  rw [upcoming, List.range_add, List.map_append, List.map_append] at h
  exact Session.goOn_append h

theorem due_of_used_up (h : script.length ≤ n + 1) :
    due script n = script.getLast?.getD (.completed 0) := by
  obtain le | same : script.length ≤ n ∨ script.length = n + 1 := by omega
  · exact due_of_le le
  · rw [due, List.getLast?_eq_getElem?, same, Nat.add_sub_cancel, Option.or_self]

theorem status_upcoming_rest (script : List ScriptedStatus) (asked : Nat) (id : String) :
    (upcoming script asked id (script.drop asked).length).map (·.status) =
      (script.drop asked).map (·.status) := by
  refine List.ext_getElem (by simp [upcoming]) fun k _ lt => ?_
  have more : asked + k < script.length := by simp at lt; omega
  simp [upcoming, toSession, due_of_lt more]

theorem goOn_upcoming_rest (script : List ScriptedStatus) (asked : Nat) (id : String) :
    Session.GoOn ((upcoming script asked id (script.drop asked).length).map .ok) ↔
      SessionStatus.IsRising ((script.drop asked).map (·.status)) := by
  rw [Session.goOn_map_ok, status_upcoming_rest]

theorem goOn_upcoming_one (all : script.length ≤ asked) :
    Session.GoOn ((upcoming script asked id 1).map .ok) ↔
      (script.getLast?.getD (.completed 0)).status.isTerminal = false := by
  have one : (upcoming script asked id 1).map (·.status) =
      [] ++ [(script.getLast?.getD (.completed 0)).status] := by
    simp [upcoming, toSession, due_of_le all]
  rw [Session.goOn_map_ok, one, SessionStatus.isRising_concat,
    and_iff_right SessionStatus.isRising_nil]
  cases (script.getLast?.getD (.completed 0)).status <;> simp [SessionStatus.isTerminal]

theorem goOn_upcoming (pos : 0 < horizon) (all : script.length ≤ asked + horizon)
    (h : Session.GoOn ((upcoming script asked id horizon).map .ok)) (n : Nat) :
    Session.GoOn ((upcoming script asked id n).map .ok) := by
  have later : ∀ m, SessionStatus.IsRising
      ((upcoming script asked id (horizon + m)).map (·.status)) := by
    intro m
    induction m with
    | zero => exact (Session.goOn_map_ok _).1 h
    | succ m ih =>
      obtain ⟨k, last⟩ : ∃ k, horizon + m = k + 1 := ⟨horizon + m - 1, by omega⟩
      have same : due script (asked + (k + 1)) = due script (asked + k) :=
        (due_of_used_up (by omega)).trans (due_of_used_up (by omega)).symm
      rw [last] at ih
      rw [← Nat.add_assoc, last, upcoming_succ, List.map_append]
      refine ih.concat_last ?_
      rw [upcoming_succ, same]
      simp
  exact goOn_upcoming_of_le (Nat.le_add_left n horizon) ((Session.goOn_map_ok _).2 (later n))

theorem exists_ending (h : ¬ Session.GoOn ((upcoming script asked id horizon).map .ok)) :
    ∃ n < horizon, Session.GoOn ((upcoming script asked id n).map .ok) ∧
      ¬ Session.GoOn ((upcoming script asked id (n + 1)).map .ok) := by
  induction horizon with
  | zero => exact absurd Session.goOn_nil h
  | succ horizon ih =>
    by_cases goes : Session.GoOn ((upcoming script asked id horizon).map .ok)
    · exact ⟨horizon, Nat.lt_succ_self _, goes, h⟩
    · obtain ⟨n, lt, ends⟩ := ih goes
      exact ⟨n, Nat.lt_succ_of_lt lt, ends⟩

end Upcoming

end ScriptedStatus

namespace Rehearsal

open Session ScriptedStatus

def advance (r : Rehearsal) : Rehearsal :=
  match r.due with
  | some (time, delivery) => { r with now := max r.now time }.deliver delivery
  | none => r

section Schedule

variable {r : Rehearsal} {job : Job} {id : String} {last : SessionStatus} {s : SimulatedDevice}
  {time : Nat} {delivery : Delivery}

theorem advance_of_due (due : r.due = some (time, delivery)) :
    r.advance = { r with now := max r.now time }.deliver delivery := by
  cases r
  cases due
  rfl

@[simp] theorem schedule_dock (r : Rehearsal) : r.schedule.dock = r.dock := by
  unfold schedule
  split
  case h_2 => cases device : r.device <;> simp [ask, device]
  all_goals rfl

theorem schedule_of_resting (flight : r.dock.flight = some (.fetching job (.resting id last))) :
    r.schedule =
      { r with due := some (r.now + r.dock.settings.pollIntervalMs, .ready .rested) } := by
  rw [schedule, flight]
  rfl

theorem schedule_of_polling (flight : r.dock.flight = some (.fetching job (.polling id last)))
    (device : r.device = .simulated s) :
    r.schedule = { r with
      device := .simulated s.start
      due := some (r.now + s.latency, .simulated (.status job.device id)) } := by
  rw [schedule, flight]
  simp [Flight.await, Stage.await, ask, device]

end Schedule

/-- A fetch that polls a made-up device rests, and has taken the reports of so many calls. -/
structure Rests (d : Dock) (job : Job) (id : String) (script : List ScriptedStatus)
    (asked n : Nat) (r : Rehearsal) : Prop where
  polls : d.Polls job id ((upcoming script asked id n).map .ok) false r.dock
  live : r.dock.isCancelled job.token = false
  ran : r.dock = d.run (pollingInputs ((upcoming script asked id n).map .ok))
  device : ∃ s : SimulatedDevice, r.device = .simulated s ∧ s.Follows script (asked + n)
  due : ∃ time, r.due = some (time, .ready .rested)

structure Asks (d : Dock) (job : Job) (id : String) (script : List ScriptedStatus)
    (asked n : Nat) (r : Rehearsal) : Prop where
  polls : d.Polls job id ((upcoming script asked id n).map .ok) true r.dock
  live : r.dock.isCancelled job.token = false
  ran : r.dock =
    (d.run (pollingInputs ((upcoming script asked id n).map .ok))).step (.arrive .rested)
  device : ∃ s : SimulatedDevice, r.device = .simulated s ∧ s.Follows script (asked + n)
  due : ∃ time, r.due = some (time, .simulated (.status job.device id))

section Polling

variable {d : Dock} {job : Job} {id : String} {script : List ScriptedStatus} {asked n : Nat}
  {r : Rehearsal}

theorem Rests.advance (h : Rests d job id script asked n r) :
    Asks d job id script asked n r.advance := by
  obtain ⟨s, device, follows⟩ := h.device
  obtain ⟨time, due⟩ := h.due
  have polls := h.polls.rested h.live
  have asks : r.advance =
      { { r with now := max r.now time } with dock := r.dock.step (.arrive .rested) }.schedule := by
    rw [advance_of_due due]
    rfl
  rw [asks, schedule_of_polling (by exact polls.flight) (by exact device)]
  exact ⟨polls, (Dock.isCancelled_arrive r.dock .rested _).trans h.live, by rw [h.ran],
    ⟨s.start, rfl, follows.start⟩, ⟨_, rfl⟩⟩

theorem Asks.advance (h : Asks d job id script asked n r) :
    r.advance.dock = d.run (pollingInputs ((upcoming script asked id (n + 1)).map .ok)) ∧
      (Rests d job id script asked (n + 1) r.advance ∨
        d.Stops job id ((upcoming script asked id n).map .ok)
          (.ok ((ScriptedStatus.due script (asked + n)).toSession id)) r.advance.dock) := by
  obtain ⟨s, device, follows⟩ := h.device
  obtain ⟨time, due⟩ := h.due
  obtain ⟨answer, follows'⟩ := follows.answer_status job.device id
  let report := (ScriptedStatus.due script (asked + n)).toSession id
  let dock := r.dock.step (.arrive (.answer (.status (.ok report))))
  have takes : r.advance = { { r with now := max r.now time } with
      device := .simulated (s.answer (.status job.device id)).2
      dock }.schedule := by
    rw [advance_of_due due]
    simp only [deliver, device, arrive, answer]
    rfl
  have ran : dock = d.run (pollingInputs ((upcoming script asked id (n + 1)).map .ok)) := by
    rw [upcoming_succ, List.map_append, pollingInputs_append, Dock.run, List.foldl_append]
    exact congrArg (Dock.step · _) h.ran
  refine ⟨takes ▸ (schedule_dock _).trans ran, ?_⟩
  obtain polls | stops := h.polls.answered h.live (.ok report)
  · rw [takes, schedule_of_resting (by exact polls.flight)]
    refine .inl ⟨?_, (Dock.isCancelled_arrive r.dock _ _).trans h.live, ran, ⟨_, rfl, follows'⟩,
      ⟨_, rfl⟩⟩
    rw [upcoming_succ, List.map_append]
    exact polls
  · refine .inr ?_
    rw [takes, schedule_dock]
    exact stops

theorem Rests.iterate (h : Rests d job id script asked 0 r)
    (goOn : GoOn ((upcoming script asked id n).map .ok)) :
    Rests d job id script asked n (Rehearsal.advance^[2 * n] r) := by
  induction n with
  | zero => exact h
  | succ n ih =>
    rw [upcoming_succ, List.map_append] at goOn
    obtain ⟨-, rests | stops⟩ := (ih (goOn_append goOn)).advance.advance
    · rwa [Nat.mul_succ, Function.iterate_succ_apply', Function.iterate_succ_apply']
    · exact absurd stops.ends (goOn_concat.1 goOn).2

theorem Rests.not_isRevoked (h : Rests d job id script asked n r) : r.isRevoked = false := by
  rw [isRevoked, h.polls.flight]
  exact h.live

theorem Asks.not_isRevoked (h : Asks d job id script asked n r) : r.isRevoked = false := by
  rw [isRevoked, h.polls.flight]
  exact h.live

theorem Rests.isPolling_iterate (h : Rests d job id script asked 0 r) {m : Nat}
    (goOn : GoOn ((upcoming script asked id (m / 2)).map .ok)) :
    (Rehearsal.advance^[m] r).dock.isPolling = true ∧
      (Rehearsal.advance^[m] r).isRevoked = false := by
  have rests := h.iterate goOn
  obtain even | odd : m = 2 * (m / 2) ∨ m = 2 * (m / 2) + 1 := by omega
  · rw [even]
    exact ⟨rests.polls.isPolling, rests.not_isRevoked⟩
  · rw [odd, Function.iterate_succ_apply']
    exact ⟨rests.advance.polls.isPolling, rests.advance.not_isRevoked⟩

/-- The fetch polls all of the reports, one for every two deliveries, and the polling is over with
the last of them at the earliest. -/
def PollsUntil (r : Rehearsal) (reports : List Session) : Prop :=
  (∀ m < 2 * reports.length, (Rehearsal.advance^[m] r).dock.isPolling = true) ∧
    (Rehearsal.advance^[2 * reports.length] r).dock =
      r.dock.run (pollingInputs (reports.map .ok))

theorem Rests.pollsUntil (h : Rests d job id script asked 0 r)
    (goOn : GoOn ((upcoming script asked id n).map .ok)) :
    r.PollsUntil (upcoming script asked id (n + 1)) := by
  have begins : r.dock = d := h.ran
  rw [PollsUntil, length_upcoming, begins]
  constructor
  · intro m lt
    exact (h.isPolling_iterate (goOn_upcoming_of_le (by omega) goOn)).1
  · rw [Nat.mul_succ, Function.iterate_succ_apply', Function.iterate_succ_apply']
    exact (h.iterate goOn).advance.advance.1

theorem Rests.stops (h : Rests d job id script asked 0 r)
    (goOn : GoOn ((upcoming script asked id n).map .ok))
    (ends : ¬ GoOn ((upcoming script asked id (n + 1)).map .ok)) :
    d.Stops job id ((upcoming script asked id n).map .ok)
      (.ok ((ScriptedStatus.due script (asked + n)).toSession id))
      (Rehearsal.advance^[2 * (n + 1)] r).dock := by
  obtain ⟨-, rests | stops⟩ := (h.iterate goOn).advance.advance
  · exact absurd rests.polls.goOn ends
  · rwa [Nat.mul_succ, Function.iterate_succ_apply', Function.iterate_succ_apply']

end Polling

section Perform

variable {r q : Rehearsal}

theorem isRevoked_congr (same : q.dock = r.dock) : q.isRevoked = r.isRevoked := by
  rw [isRevoked, isRevoked, same]

theorem settle_eq (fuel : Nat) (r : Rehearsal) : ∃ n, settle fuel r = Rehearsal.advance^[n] r := by
  induction fuel generalizing r with
  | zero => exact ⟨0, rfl⟩
  | succ fuel ih =>
    rw [settle.eq_def]
    dsimp only
    split
    case h_2 => exact ⟨0, rfl⟩
    case h_1 time delivery due =>
      split_ifs with now
      · have next : r.advance = r.deliver delivery := by
          rw [advance_of_due due, max_eq_left now]
        obtain ⟨n, same⟩ := ih (r.deliver delivery)
        exact ⟨n + 1, by rw [same, Function.iterate_succ_apply, next]⟩
      · exact ⟨0, rfl⟩

theorem dock_iterate_of_due {time : Nat} {delivery : Delivery} (due : r.due = some (time, delivery))
    (n : Nat) : (Rehearsal.advance^[n] { r with now := max r.now time }).dock =
      (Rehearsal.advance^[n] r).dock := by
  have same : Rehearsal.advance { r with now := max r.now time } = r.advance := by
    rw [advance_of_due due, advance_of_due (by exact due), max_assoc, max_self]
  cases n with
  | zero => rfl
  | succ n => rw [Function.iterate_succ_apply, Function.iterate_succ_apply, same]

theorem dock_perform (live : ∀ n, (Rehearsal.advance^[n] r).isRevoked = false) (fuel : Nat)
    (results : RehearsalResults) :
    ∃ n, (perform fuel [] results r).2.dock = (Rehearsal.advance^[n] r).dock := by
  induction fuel generalizing r results with
  | zero => exact ⟨0, rfl⟩
  | succ fuel ih =>
    rw [perform, if_neg (by simpa using live 0)]
    split
    case h_2 => exact ⟨0, rfl⟩
    case h_1 time delivery due =>
      obtain ⟨k, settled⟩ := settle_eq fuel { r with now := max r.now time }
      have docks (n : Nat) :
          (Rehearsal.advance^[n] (settle fuel { r with now := max r.now time })).dock =
            (Rehearsal.advance^[n + k] r).dock := by
        rw [settled, ← Function.iterate_add_apply, dock_iterate_of_due due]
      obtain ⟨n, same⟩ := ih (fun n => (isRevoked_congr (docks n)).trans (live _)) _
      exact ⟨n + k, same.trans (docks n)⟩

end Perform

/-- The polling is over with the last of the reports. -/
def EndsWith (r : Rehearsal) (reports : List Session) : Prop :=
  r.PollsUntil reports ∧ (Rehearsal.advance^[2 * reports.length] r).dock.isPolling = false

/-- The polling goes through any number of the reports, and still goes on after a performance of any
length. -/
def GoesOn (r : Rehearsal) (reports : Nat → List Session) : Prop :=
  (∀ n, r.PollsUntil (reports n)) ∧
    ∀ fuel results, (perform fuel [] results r).2.dock.isPolling = true

section Lasting

variable {d : Dock} {job : Job} {id : String} {script : List ScriptedStatus}
  {asked n horizon : Nat} {r : Rehearsal}

theorem rests_schedule (sound : d.Sound) (dock : r.dock = d)
    (flight : d.flight = some (.fetching job (.resting id .pending)))
    (live : d.isCancelled job.token = false) {s : SimulatedDevice}
    (device : r.device = .simulated s) (follows : s.Follows script asked) :
    Rests d job id script asked 0 r.schedule := by
  subst dock
  rw [schedule_of_resting flight]
  exact ⟨⟨sound, rfl, flight, goOn_nil, (List.append_nil _).symm⟩, live, rfl, ⟨s, device, follows⟩,
    ⟨_, rfl⟩⟩

theorem Rests.endsWith (h : Rests d job id script asked 0 r)
    (ends : ¬ GoOn ((upcoming script asked id horizon).map .ok)) :
    ∃ n, 0 < n ∧ n ≤ horizon ∧ r.EndsWith (upcoming script asked id n) := by
  obtain ⟨n, lt, goes, ends⟩ := exists_ending ends
  refine ⟨n + 1, n.succ_pos, lt, h.pollsUntil goes, ?_⟩
  rw [length_upcoming]
  exact (h.stops goes ends).isPolling

theorem Rests.goesOn (h : Rests d job id script asked 0 r)
    (goOn : ∀ n, GoOn ((upcoming script asked id n).map .ok)) :
    r.GoesOn (upcoming script asked id) := by
  have polls (m : Nat) := h.isPolling_iterate (goOn (m / 2))
  constructor
  · rintro (_ | n)
    · exact ⟨fun m lt => absurd lt (Nat.not_lt_zero m), rfl⟩
    · exact h.pollsUntil (goOn n)
  · intro fuel results
    obtain ⟨m, same⟩ := dock_perform (fun m => (polls m).2) fuel results
    rw [Dock.isPolling, same]
    exact (polls m).1

end Lasting

/-- The calls for the status that a made-up device ever answers get the entries of its script in
turn, and its last entry from then on. A fetch that begins to poll while entries are left is done
with polling after as many reports at most, unless these entries are pending at first and in
progress then: then it polls forever. If no entries are left, it takes one report to end the polling
if the last entry, or the one that stands for an empty script, is terminal, and otherwise it polls
forever. -/
theorem polling_lasts_as_long_as_the_script (settings : TransferSettings) (files : Files.Tree)
    (before : List DockInput) (job : Job) (id : String) (fresh : SimulatedDevice)
    (contacts : List Contact) (r : Rehearsal) :
    let d := (Dock.new settings files).run before
    let script := fresh.script
    let asked := contacts.filterMap Contact.operation?
    let served := fresh.serve contacts
    let rest := script.drop asked.length
    let reports := upcoming script asked.length id
    fresh.last = none → fresh.unreachable = false →
      served.1.filterMap Answer.status? =
          asked.mapIdx (fun k id => .ok ((ScriptedStatus.due script k).toSession id)) ∧
        (r.dock = d → r.device = .simulated served.2 →
          d.flight = some (.fetching job (.resting id .pending)) →
          d.isCancelled job.token = false →
            (rest ≠ [] → ¬ SessionStatus.IsRising (rest.map (·.status)) →
              ∃ n, 0 < n ∧ n ≤ rest.length ∧ r.schedule.EndsWith (reports n)) ∧
            (rest ≠ [] → SessionStatus.IsRising (rest.map (·.status)) →
              r.schedule.GoesOn reports) ∧
            (script = [] → r.schedule.EndsWith (reports 1) ∧
              (Rehearsal.advance^[2] r.schedule).dock.flight =
                some (.fetching job (.opening ((completed 0).toSession id)))) ∧
            (rest = [] → ∀ last, script.getLast? = some last →
              (last.status.isTerminal = true → r.schedule.EndsWith (reports 1)) ∧
              (last.status.isTerminal = false → r.schedule.GoesOn reports))) := by
  intro d script asked served rest reports new reachable
  have sound : d.Sound := (Dock.sound_new settings files).run before
  obtain ⟨given, follows⟩ := (SimulatedDevice.follows_of_new new reachable).serve contacts
  simp only [Nat.zero_add] at given follows
  refine ⟨given, fun dock device flight live => ?_⟩
  have rests : Rests d job id script asked.length 0 r.schedule :=
    rests_schedule sound dock flight live device follows
  have last_ends (all : script.length ≤ asked.length)
      (terminal : (script.getLast?.getD (.completed 0)).status.isTerminal = true) :
      ¬ GoOn ((reports 1).map .ok) := by
    simp [reports, goOn_upcoming_one all, terminal]
  have ends_at_once (stop : ¬ GoOn ((reports 1).map .ok)) : r.schedule.EndsWith (reports 1) := by
    obtain ⟨n, pos, le, ends⟩ := rests.endsWith stop
    obtain rfl : n = 1 := by omega
    exact ends
  refine ⟨fun more falls => ?_, fun more rises => ?_, fun empty => ?_, fun spent last ends => ?_⟩
  · exact rests.endsWith fun goOn => falls ((goOn_upcoming_rest script _ id).1 goOn)
  · refine rests.goesOn (goOn_upcoming (List.length_pos_iff.2 more) ?_
      ((goOn_upcoming_rest script asked.length id).2 rises))
    rw [List.length_drop]
    omega
  · have stop := last_ends (by simp [empty]) (by simp [empty, completed, SessionStatus.isTerminal])
    refine ⟨ends_at_once stop, ?_⟩
    have stops := rests.stops (n := 0) goOn_nil stop
    rw [show ScriptedStatus.due script (asked.length + 0) = .completed 0 by
      simp [ScriptedStatus.due, empty]] at stops
    exact stops.stopped.1
  · have all : script.length ≤ asked.length := List.drop_eq_nil_iff.1 spent
    refine ⟨fun terminal => ends_at_once (last_ends all (by simpa [ends] using terminal)),
      fun running => ?_⟩
    refine rests.goesOn (goOn_upcoming Nat.one_pos (by omega) ((goOn_upcoming_one all).2 ?_))
    simpa [ends] using running

/-- An earlier caller has taken the first of three entries: two are left, and the polling ends with
the second of them at the latest. -/
theorem polling_lasts_for_two_reports :
    let fresh : SimulatedDevice :=
      { SimulatedDevice.demo with
        script := [.pending, .inProgress 5 10, .failed "disk full"], latency := 3 }
    let device : Device :=
      { address := .v4 ⟨10, 0, 0, 5⟩ 8080, name := "Dock", version := "1.0", lastSeen := 0 }
    let contacts : List Contact := [.reached, .answered (.status device "op-0")]
    let r := new Dock.samplePolling (.simulated (fresh.serve contacts).2) .raw
    (fresh.serve contacts).1.filterMap Answer.status? = [.ok (pending.toSession "op-0")] ∧
      ∃ n, 0 < n ∧ n ≤ 2 ∧ r.schedule.EndsWith (upcoming fresh.script 1 "op-1" n) := by
  intro fresh device contacts r
  have lasts := polling_lasts_as_long_as_the_script (Dock.sample "spool").settings (.empty [])
    Dock.sampleRequest
  rw [Dock.run_sampleRequest] at lasts
  obtain ⟨given, polling⟩ := lasts _ "op-1" fresh contacts r rfl rfl
  obtain ⟨ends, -⟩ := polling rfl rfl rfl (by decide +kernel)
  refine ⟨given, ends (List.cons_ne_nil _ _) ?_⟩
  change ¬ SessionStatus.IsRising ([.inProgress] ++ [.failed])
  rw [SessionStatus.isRising_concat]
  simp

end Rehearsal

end TitleDock
