import TitleDock.Proofs.Transfer.Answers
import TitleDock.Transfer.Rehearsal

/-! Polling a device until it is done. A fetch rests, asks for the status, takes the answer, and
rests again, until an answer ends the polling. Whatever else comes in meanwhile, the dock follows
the row of answers: it goes on as long as they do, tells what they tell, and stops with the verdict
on the one that ends it. -/

namespace TitleDock

/-- What a polling fetch has heard that has taken the answers: a rest before each of them, and one
more if it has asked again. -/
def pollingHeard (answers : List (Except Fault Session)) (asked : Bool) : List Arrival :=
  (answers.flatMap fun a => [.rested, .answer (.status a)]) ++ if asked then [.rested] else []

def pollingInputs (answers : List (Except Fault Session)) : List DockInput :=
  answers.flatMap fun a => [.arrive .rested, .arrive (.answer (.status a))]

def pollingStage (id : String) (answers : List (Except Fault Session)) : Bool → Stage
  | false => .resting id (Session.lastAccepted answers)
  | true => .polling id (Session.lastAccepted answers)

theorem pollingInputs_cons (a : Except Fault Session) (answers : List (Except Fault Session)) :
    pollingInputs (a :: answers) =
      .arrive .rested :: .arrive (.answer (.status a)) :: pollingInputs answers := rfl

theorem pollingInputs_append (answers more : List (Except Fault Session)) :
    pollingInputs (answers ++ more) = pollingInputs answers ++ pollingInputs more :=
  List.flatMap_append

theorem pollingHeard_cons (a : Except Fault Session) (answers : List (Except Fault Session))
    (asked : Bool) :
    pollingHeard (a :: answers) asked =
      .rested :: .answer (.status a) :: pollingHeard answers asked := rfl

theorem pollingHeard_rested (answers : List (Except Fault Session)) :
    pollingHeard answers false ++ [.rested] = pollingHeard answers true := by
  simp [pollingHeard]

theorem pollingHeard_answered (answers : List (Except Fault Session)) (a : Except Fault Session) :
    pollingHeard answers true ++ [.answer (.status a)] = pollingHeard (answers ++ [a]) false := by
  simp [pollingHeard]

theorem status?_pollingHeard (answers : List (Except Fault Session)) (asked : Bool) :
    (pollingHeard answers asked).filterMap Arrival.status? = answers := by
  have pairs : (answers.flatMap fun a => [.rested, .answer (.status a)]).filterMap
      Arrival.status? = answers := by
    induction answers with
    | nil => rfl
    | cons a answers ih => exact congrArg (a :: ·) ih
  cases asked <;> simp [pollingHeard, pairs, Arrival.status?]

namespace Dock

open Session

def isPolling (d : Dock) : Bool :=
  match d.flight with
  | some (.fetching _ (.resting ..)) | some (.fetching _ (.polling ..)) => true
  | _ => false

/-- The polling is over with the last of the inputs at the earliest. -/
def PollsThrough (d : Dock) : List DockInput → Prop
  | [] => True
  | i :: inputs => d.isPolling = true ∧ (d.step i).PollsThrough inputs

instance decidablePollsThrough (d : Dock) : (inputs : List DockInput) →
    Decidable (d.PollsThrough inputs)
  | [] => inferInstanceAs (Decidable True)
  | i :: inputs =>
    have := decidablePollsThrough (d.step i) inputs
    inferInstanceAs (Decidable (d.isPolling = true ∧ (d.step i).PollsThrough inputs))

/-- A fetch that began to poll at one moment goes on with it at another, and has taken the answers
in between. -/
structure Polls (d : Dock) (job : Job) (id : String) (answers : List (Except Fault Session))
    (asked : Bool) (e : Dock) : Prop where
  sound : e.Sound
  settings : e.settings = d.settings
  flight : e.flight = some (.fetching job (pollingStage id answers asked))
  goOn : GoOn answers
  events : e.events = d.events ++ answers.flatMap progressTold

/-- The polling has ended with a verdict: the fetch goes on to the download, or is over. -/
def StoppedWith (d e : Dock) (job : Job) (id : String) (told : List TransferEvent) :
    Except Fault Session → Prop
  | .ok session =>
    e.flight = some (.fetching job (.opening session)) ∧
      e.events = d.events ++ told ++
        [.state (.downloading id), .status "Extraction completed, downloading file..."]
  | .error f =>
    e.flight = none ∧ e.journal.head? = some (.returned job.ticket (.fetched (.error f))) ∧
      e.events = d.events ++ told ++ [.state (.ofFault f), .status ("Error: " ++ f.message)]

structure Stops (d : Dock) (job : Job) (id : String) (earlier : List (Except Fault Session))
    (a : Except Fault Session) (e : Dock) : Prop where
  goOn : GoOn earlier
  ends : EndsPolling earlier a
  stopped : StoppedWith d e job id (earlier.flatMap progressTold) (verdict a)

section Polls

variable {d e : Dock} {job : Job} {id : String} {answers : List (Except Fault Session)}
  {asked : Bool} {i : DockInput} {stage : Stage} {a : Arrival}

theorem Polls.isPolling (h : Polls d job id answers asked e) : e.isPolling = true := by
  rw [Dock.isPolling, h.flight]
  cases asked <;> rfl

theorem Stops.isPolling {earlier : List (Except Fault Session)} {a : Except Fault Session}
    (h : Stops d job id earlier a e) : e.isPolling = false := by
  have stopped := h.stopped
  cases verdict : verdict a with
  | ok session =>
    rw [verdict] at stopped
    rw [Dock.isPolling, stopped.1]
  | error f =>
    rw [verdict] at stopped
    rw [Dock.isPolling, stopped.1]

theorem resume_of_deaf (current : e.generation = job.generation)
    (live : e.isCancelled job.token = false) (deaf : (stage.await job).isMetBy a = false) :
    e.resume job stage a = e := by
  cases turn_resume current live stage a with
  | aside _ same => exact same
  | leads leads => simp [leads.isMetBy job] at deaf
  | closes closes => simp [closes.isMetBy] at deaf

theorem cancelled_subset_step (d : Dock) (i : DockInput) : d.cancelled ⊆ (d.step i).cancelled := by
  cases i with
  | connect ticket device =>
    rw [Dock.step, (spares_connect d ticket device).cancelled]
    exact List.Subset.refl _
  | fetch ticket title target token =>
    rw [Dock.step, (fetch_token d ticket title target token).1]
    exact List.Subset.refl _
  | disconnect => exact List.subset_append_right _ _
  | cancel token => exact List.subset_cons_self _ _
  | disk disk => exact List.Subset.refl _
  | arrive a =>
    rw [Dock.step, (spares_arrive d a).cancelled]
    exact List.Subset.refl _

theorem cancelled_subset_run (d : Dock) (inputs : List DockInput) :
    d.cancelled ⊆ (d.run inputs).cancelled := by
  induction inputs generalizing d with
  | nil => exact List.Subset.refl _
  | cons i inputs ih => exact List.Subset.trans (cancelled_subset_step d i) (ih (d.step i))

theorem isCancelled_arrive (e : Dock) (a : Arrival) (token : Token) :
    (e.step (.arrive a)).isCancelled token = e.isCancelled token := by
  simp only [isCancelled, Dock.step, (spares_arrive e a).cancelled]

theorem run_cons (e : Dock) (i : DockInput) (inputs : List DockInput) :
    e.run (i :: inputs) = (e.step i).run inputs := rfl

theorem isCancelled_run_pollingInputs (e : Dock) (answers : List (Except Fault Session))
    (token : Token) : (e.run (pollingInputs answers)).isCancelled token = e.isCancelled token := by
  induction answers generalizing e with
  | nil => rfl
  | cons a answers ih =>
    rw [pollingInputs_cons, run_cons, run_cons, ih, isCancelled_arrive, isCancelled_arrive]

theorem Sound.events_aside (sound : e.Sound) (flight : e.flight = some (.fetching job stage))
    (still : ∀ a, i ≠ .arrive a) (live : (e.step i).isCancelled job.token = false) :
    (e.step i).events = e.events := by
  have busy := isBusy_of_flight flight
  have live' : e.isCancelled job.token = false :=
    isCancelled_eq_false_of_subset (stands_step busy still).cancelled live
  cases i with
  | connect ticket device =>
    rw [Dock.step, connect_of_isBusy busy]
    simp [events, Dock.note, Note.event?]
  | fetch ticket title target token =>
    rw [Dock.step, fetch_of_isBusy busy]
    simp [events, Dock.note, Note.event?]
  | disconnect =>
    have active := (sound.serves flight live').1.active
    have covered : e.disconnect.isCancelled job.token = true :=
      isCancelled_of_mem (List.mem_append_left _ (by simp [active]))
    rw [Dock.step, covered] at live
    cases live
  | cancel | disk => rfl
  | arrive a => exact absurd rfl (still a)

theorem Polls.aside (h : Polls d job id answers asked e) (still : ∀ a, i ≠ .arrive a)
    (live : (e.step i).isCancelled job.token = false) :
    Polls d job id answers asked (e.step i) := by
  obtain ⟨flight, -, settings⟩ := step_of_isBusy (isBusy_of_flight h.flight) still
  exact ⟨h.sound.step i, settings.trans h.settings, flight.trans h.flight, h.goOn,
    (h.sound.events_aside h.flight still live).trans h.events⟩

theorem Polls.rested (h : Polls d job id answers false e)
    (live : e.isCancelled job.token = false) :
    Polls d job id answers true (e.step (.arrive .rested)) := by
  have asks : e.step (.arrive .rested) =
      e.wait (.fetching job (.polling id (lastAccepted answers))) := by
    rw [step, arrive_of_fetching h.flight]
    unfold resume
    rw [if_neg (by simp [live])]
    exact enter_of_not_isCancelled live _
  have sound := h.sound.step (.arrive .rested)
  rw [asks] at sound ⊢
  exact ⟨sound, h.settings, rfl, h.goOn, (events_wait e _).trans h.events⟩

theorem Polls.resumed (h : Polls d job id answers true e)
    (live : e.isCancelled job.token = false) (a : Except Fault Session) :
    e.step (.arrive (.answer (.status a))) = e.polled job id (lastAccepted answers) a := by
  rw [step, arrive_of_fetching h.flight]
  unfold resume
  exact if_neg (by simp [live])

theorem polled_of_running {last : SessionStatus} {s : Session} {a : Except Fault Session}
    (live : e.isCancelled job.token = false) (taken : accept last a = .ok s)
    (running : s.status.isTerminal = false) (id : String) :
    ∃ m : Dock, e.polled job id last a = m.wait (.fetching job (.resting id s.status)) ∧
      m.events = e.events ++ progressTold (.ok s) := by
  rw [polled, taken]
  dsimp only
  cases status : s.status with
  | completed | failed => simp [status, SessionStatus.isTerminal] at running
  | pending =>
    refine ⟨_, enter_of_not_isCancelled (by exact live) _, ?_⟩
    simp [progressTold, status]
  | inProgress =>
    refine ⟨_, enter_of_not_isCancelled (by exact live) _, ?_⟩
    simp [progressTold, status, say]

theorem Polls.reported (h : Polls d job id answers true e)
    (live : e.isCancelled job.token = false) {s : Session}
    (taken : accept (lastAccepted answers) (.ok s) = .ok s)
    (ends : EndsPolling answers (.ok s) ↔ s.status.isTerminal = true)
    (running : s.status.isTerminal = false) :
    Polls d job id (answers ++ [.ok s]) false (e.step (.arrive (.answer (.status (.ok s))))) := by
  have sound := h.sound.step (.arrive (.answer (.status (.ok s))))
  have settings : (e.step (.arrive (.answer (.status (.ok s))))).settings = e.settings :=
    (spares_arrive e _).settings
  have goes : ¬ EndsPolling answers (.ok s) := by simp [ends, running]
  obtain ⟨m, back, told⟩ := polled_of_running live taken running id
  rw [h.resumed live, back] at sound settings ⊢
  refine ⟨sound, settings.trans h.settings, ?_, goOn_concat.2 ⟨h.goOn, goes⟩, ?_⟩
  · rw [pollingStage, h.goOn.lastAccepted_concat taken]
    rfl
  · rw [events_wait, told, h.events]
    simp

theorem Polls.finished (h : Polls d job id answers true e)
    (live : e.isCancelled job.token = false) {s : Session}
    (taken : accept (lastAccepted answers) (.ok s) = .ok s)
    (ended : s.status.isTerminal = true) :
    StoppedWith d (e.step (.arrive (.answer (.status (.ok s))))) job id
      (answers.flatMap progressTold) (verdict (.ok s)) := by
  have current := (h.sound.serves h.flight live).1.generation
  rw [h.resumed live, polled, taken]
  dsimp only
  cases status : s.status with
  | pending | inProgress => simp [status, SessionStatus.isTerminal] at ended
  | completed =>
    have done : verdict (.ok s) = .ok s := by simp [verdict, status]
    dsimp only
    rw [done, transition_of_current (by exact current), enter_of_not_isCancelled (by exact live)]
    refine ⟨rfl, ?_⟩
    rw [events_wait, say, events_emit, events_emit, List.append_assoc, ← h.events]
    exact congrArg (· ++ _) (events_record e _ _ _)
  | failed =>
    have done : verdict (.ok s) = .error s.failure := by simp [verdict, status, s.failure_eq]
    dsimp only
    rw [done]
    refine ⟨rfl, rfl, ?_⟩
    rw [events_finish (by exact current), events_record, h.events]
    rfl

theorem Polls.answered (h : Polls d job id answers true e)
    (live : e.isCancelled job.token = false) (a : Except Fault Session) :
    Polls d job id (answers ++ [a]) false (e.step (.arrive (.answer (.status a)))) ∨
      Stops d job id answers a (e.step (.arrive (.answer (.status a)))) := by
  obtain ⟨f, refused, ends, verdict⟩ | ⟨s, rfl, taken, ends⟩ := h.goOn.accept_cases a
  · refine .inr ⟨h.goOn, ends, ?_⟩
    rw [h.resumed live, polled, refused, verdict]
    refine ⟨rfl, rfl, ?_⟩
    rw [events_finish (h.sound.serves h.flight live).1.generation, h.events]
    rfl
  · cases ended : s.status.isTerminal with
    | true => exact .inr ⟨h.goOn, ends.2 ended, h.finished live taken ended⟩
    | false => exact .inl (h.reported live taken ends ended)

theorem Polls.step (h : Polls d job id answers asked e)
    (live : (e.step i).isCancelled job.token = false) :
    e.hears i = none ∧ Polls d job id answers asked (e.step i) ∨
      e.hears i = some .rested ∧ asked = false ∧ Polls d job id answers true (e.step i) ∨
      ∃ a, e.hears i = some (.answer (.status a)) ∧ asked = true ∧
        (Polls d job id (answers ++ [a]) false (e.step i) ∨
          Stops d job id answers a (e.step i)) := by
  by_cases arrives : ∃ a, i = .arrive a
  · obtain ⟨a, rfl⟩ := arrives
    have live' : e.isCancelled job.token = false := by rwa [isCancelled_arrive] at live
    have current := (h.sound.serves h.flight live').1.generation
    rw [hears_eq h.flight]
    by_cases met : ((pollingStage id answers asked).await job).isMetBy a = true
    · rw [if_pos met]
      cases asked with
      | false =>
        obtain rfl : a = .rested := by cases a <;> first | rfl | cases met
        exact .inr (.inl ⟨rfl, rfl, h.rested live'⟩)
      | true =>
        obtain ⟨r, rfl⟩ : ∃ r, a = .answer (.status r) := by
          rcases a with (_ | _ | _ | r | _) | _ | _ | _ | _ | _ <;>
            first | exact ⟨r, rfl⟩ | cases met
        exact .inr (.inr ⟨r, rfl, rfl, h.answered live' r⟩)
    · have aside : e.step (.arrive a) = e :=
        (arrive_of_fetching h.flight a).trans (resume_of_deaf current live' (by simpa using met))
      rw [if_neg met, aside]
      exact .inl ⟨rfl, h⟩
  · refine .inl ⟨?_, h.aside (fun a same => arrives ⟨a, same⟩) live⟩
    cases i with
    | arrive a => exact absurd ⟨a, rfl⟩ arrives
    | connect | fetch | disconnect | cancel | disk => rfl

theorem Polls.run {inputs : List DockInput} (h : Polls d job id answers asked e)
    (through : e.PollsThrough inputs) (live : (e.run inputs).isCancelled job.token = false) :
    (∃ more asked', pollingHeard answers asked ++ e.heard inputs = pollingHeard more asked' ∧
        Polls d job id more asked' (e.run inputs)) ∨
      ∃ earlier a, pollingHeard answers asked ++ e.heard inputs =
          pollingHeard (earlier ++ [a]) false ∧
        Stops d job id earlier a (e.run inputs) := by
  induction inputs generalizing e answers asked with
  | nil => exact .inl ⟨answers, asked, by simp [heard], h⟩
  | cons i inputs ih =>
    have live' : (e.step i).isCancelled job.token = false :=
      isCancelled_eq_false_of_subset (cancelled_subset_run (e.step i) inputs) live
    obtain ⟨deaf, h'⟩ | ⟨hears, rfl, h'⟩ | ⟨a, hears, rfl, h' | stops⟩ := h.step live'
    · rw [heard, deaf]
      exact ih h' through.2 live
    · rw [heard, hears, Option.toList_some, ← List.append_assoc, pollingHeard_rested]
      exact ih h' through.2 live
    · rw [heard, hears, Option.toList_some, ← List.append_assoc, pollingHeard_answered]
      exact ih h' through.2 live
    · cases inputs with
      | nil =>
        refine .inr ⟨answers, a, ?_, stops⟩
        rw [heard, hears, Option.toList_some, ← List.append_assoc, pollingHeard_answered]
        exact List.append_nil _
      | cons j later =>
        have ended := stops.isPolling
        rw [through.2.1] at ended
        cases ended

theorem Polls.feed {given : List (Except Fault Session)} (h : Polls d job id answers false e)
    (live : e.isCancelled job.token = false) (goOn : GoOn (answers ++ given))
    (a : Except Fault Session) :
    e.PollsThrough (pollingInputs (given ++ [a])) ∧
      e.heard (pollingInputs (given ++ [a])) = pollingHeard (given ++ [a]) false := by
  induction given generalizing e answers with
  | nil =>
    have asks := h.rested live
    refine ⟨⟨h.isPolling, asks.isPolling, trivial⟩, ?_⟩
    simp [pollingInputs, pollingHeard, heard, hears_eq h.flight, hears_eq asks.flight,
      pollingStage, Stage.await, Await.isMetBy]
  | cons b given ih =>
    have asks := h.rested live
    have live₁ : (e.step (.arrive .rested)).isCancelled job.token = false := by
      rwa [isCancelled_arrive]
    have live₂ : ((e.step (.arrive .rested)).step (.arrive (.answer (.status b)))).isCancelled
        job.token = false := by
      rwa [isCancelled_arrive]
    rw [List.append_cons] at goOn
    obtain h' | stops := asks.answered live₁ b
    · obtain ⟨through, all⟩ := ih h' live₂ goOn
      refine ⟨⟨h.isPolling, asks.isPolling, through⟩, ?_⟩
      rw [List.cons_append, pollingInputs_cons, pollingHeard_cons, heard, heard, all,
        hears_eq h.flight, hears_eq asks.flight]
      simp [pollingStage, Stage.await, Await.isMetBy]
    · exact absurd stops.ends (goOn_concat.1 (goOn_append goOn)).2

end Polls

theorem settings_step (d : Dock) (i : DockInput) : (d.step i).settings = d.settings := by
  cases i with
  | connect ticket device => exact (spares_connect d ticket device).settings
  | fetch ticket title target token =>
    rw [step]
    cases busy : d.isBusy with
    | true => rw [fetch_of_isBusy busy]; rfl
    | false =>
      cases held : d.device with
      | none => rw [fetch_of_bare busy held]; rfl
      | some device =>
        obtain ⟨e, begins, -, -, settings, -⟩ := fetch_of_free busy held ticket title target token
        rw [begins, (stays_enter e _ _).settings, settings]
  | disconnect | cancel | disk => rfl
  | arrive a => exact (spares_arrive d a).settings

theorem settings_run (d : Dock) (inputs : List DockInput) :
    (d.run inputs).settings = d.settings := by
  induction inputs generalizing d with
  | nil => rfl
  | cons i inputs ih => exact (ih (d.step i)).trans (settings_step d i)

def sampleRequest : List DockInput :=
  [.connect 1
      { address := .v4 ⟨10, 0, 0, 5⟩ 8080, name := "Dock", version := "1.0", lastSeen := 0 },
    .arrive (.answer (.titles (.ok []))),
    .fetch 2 { titleId := "0100", name := "Game", version := "", size := 0, kind := .other
               extractable := true } ⟨"games/one", .n64⟩ "caller",
    .arrive (.answer (.accepted (.ok "op-1")))]

def samplePolling : Dock :=
  (sampleFetch "spool" "games/one").step (.arrive (.answer (.accepted (.ok "op-1"))))

theorem run_sampleRequest :
    (new (sample "spool").settings (.empty [])).run sampleRequest = samplePolling := rfl

/-- A fetch that begins to poll takes the answers of the device one at a time, each after a rest of
the polling interval. It takes any answers that go on, and one more; and as long as it is not
cancelled it is over with the polling exactly when it has taken an answer that ends it, with the
verdict on that answer. All that is told until then is the progress that the answers report, in
their order. The statuses that it accepts are pending at first and then in progress, with at most
one terminal status behind them. -/
theorem polling_follows_answers (settings : TransferSettings) (files : Files.Tree)
    (before : List DockInput) (job : Job) (id : String) (inputs : List DockInput) :
    let d := (new settings files).run before
    let e := d.run inputs
    let answers := (d.heard inputs).filterMap Arrival.status?
    d.flight = some (.fetching job (.resting id .pending)) →
      (d.isCancelled job.token = false → ∀ given a, GoOn given →
        d.PollsThrough (pollingInputs (given ++ [a])) ∧
          d.heard (pollingInputs (given ++ [a])) = pollingHeard (given ++ [a]) false ∧
          (d.run (pollingInputs (given ++ [a]))).isCancelled job.token = false) ∧
      (d.PollsThrough inputs → e.isCancelled job.token = false →
        (e.isPolling = true → GoOn answers ∧ ∃ asked,
          d.heard inputs = pollingHeard answers asked ∧
          e.flight = some (.fetching job (pollingStage id answers asked)) ∧
          e.events = d.events ++ answers.flatMap progressTold ∧
          ∀ r : Rehearsal, r.dock = e → asked = false →
            r.schedule.due = some (r.now + settings.pollIntervalMs, .ready .rested)) ∧
        (e.isPolling = false → ∃ earlier a, answers = earlier ++ [a] ∧
          d.heard inputs = pollingHeard answers false ∧ GoOn earlier ∧ EndsPolling earlier a ∧
          StoppedWith d e job id (earlier.flatMap progressTold) (verdict a)) ∧
        ∃ m n last, Session.accepted .pending answers = SessionStatus.rising m n ++ last ∧
          (last = [] ∨ last = [.completed] ∨ last = [.failed])) := by
  intro d e answers flight
  have sound : d.Sound := (sound_new settings files).run before
  have begins : Polls d job id [] false d := ⟨sound, rfl, flight, goOn_nil, by simp⟩
  refine ⟨fun live given a goOn => ?_, fun through live => ?_⟩
  · obtain ⟨through, all⟩ := begins.feed live goOn a
    exact ⟨through, all, (isCancelled_run_pollingInputs d _ _).trans live⟩
  have given : d.settings = settings := settings_run _ before
  obtain ⟨more, asked, heard, polls⟩ | ⟨earlier, a, heard, stops⟩ := begins.run through live
  · replace heard : d.heard inputs = pollingHeard more asked := heard
    obtain rfl : answers = more := by
      rw [← status?_pollingHeard more asked, ← heard]
    refine ⟨fun _ => ⟨polls.goOn, asked, heard, polls.flight, polls.events, ?_⟩, fun ended => ?_, ?_⟩
    · rintro r same rfl
      rw [Rehearsal.schedule, same, show e.flight = _ from polls.flight,
        show e.settings = _ from polls.settings, given]
      rfl
    · rw [show e.isPolling = true from polls.isPolling] at ended
      cases ended
    · obtain ⟨m, n, all, -⟩ := polls.goOn.accepted_eq
      exact ⟨m, n, [], by simpa using all, .inl rfl⟩
  · replace heard : d.heard inputs = pollingHeard (earlier ++ [a]) false := heard
    have taken : answers = earlier ++ [a] := by
      rw [← status?_pollingHeard (earlier ++ [a]) false, ← heard]
    rw [taken]
    refine ⟨fun polls => ?_, fun _ => ⟨earlier, a, rfl, heard, stops.goOn, stops.ends,
      stops.stopped⟩, stops.goOn.accepted_ended stops.ends⟩
    rw [show e.isPolling = false from stops.isPolling] at polls
    cases polls

/-- A fetch rests twice. Between the two answers a connection is turned away, and with the second
one the extraction has failed. -/
theorem polling_follows_two_answers :
    let device : Device :=
      { address := .v4 ⟨10, 0, 0, 5⟩ 8080, name := "Dock", version := "1.0", lastSeen := 0 }
    let report (status : SessionStatus) (message : Option String) : Session :=
      { operationId := "op-1", status, bytesTransferred := 5, totalBytes := 10
        errorMessage := message }
    let inputs : List DockInput := [.arrive .rested,
      .arrive (.answer (.status (.ok (report .inProgress none)))), .connect 3 device,
      .arrive .rested, .arrive (.answer (.status (.ok (report .failed (some "disk full")))))]
    let d := samplePolling
    let e := d.run inputs
    d.isPolling = true ∧ d.PollsThrough inputs ∧ e.isPolling = false ∧
      e.journal.head? =
        some (.returned 2 (.fetched (.error (.remoteExtraction "disk full")))) ∧
      e.events = d.events ++ [.extractProgress 5 10, .status "Extracting... 50.0%",
        .state (.ofFault (.remoteExtraction "disk full")), .status "Error: disk full"] := by
  intro device report inputs d e
  have through : d.PollsThrough inputs := by decide +kernel
  have ended : e.isPolling = false := by decide +kernel
  have live : e.isCancelled (.fetch 0 "caller") = false := by decide +kernel
  have given : (d.heard inputs).filterMap Arrival.status? =
      [.ok (report .inProgress none), .ok (report .failed (some "disk full"))] := rfl
  have follows := polling_follows_answers (sample "spool").settings (.empty []) sampleRequest
  rw [run_sampleRequest] at follows
  obtain ⟨-, ends, -⟩ := (follows _ "op-1" inputs rfl).2 through live
  obtain ⟨earlier, a, answers, -, -, -, stopped⟩ := ends ended
  obtain ⟨rfl, same⟩ : [.ok (report .inProgress none)] = earlier ∧ _ :=
    List.append_inj' (given.symm.trans answers) rfl
  obtain rfl := List.singleton_inj.1 same
  obtain ⟨-, returned, told⟩ := stopped
  have half : (report .inProgress none).progressLine = "Extracting... 50.0%" := by decide +kernel
  refine ⟨rfl, through, ended, returned, ?_⟩
  rw [← half]
  exact told.trans (List.append_assoc ..)

end Dock

end TitleDock
