import TitleDock.Proofs.Transfer.Spared

/-! What a disconnection cuts off. Until the next connection is let in, the dock stays idle and
without a device, announces no other state and waits for nothing new. The call that was under way
runs out; a fetch comes back as cancelled with the first thing that arrives for it. The tokens of
callers are cancelled by callers alone. -/

namespace TitleDock

/-- What may be noted of a dock that is cut off from its device. -/
def Note.IsQuiet : Note → Prop
  | .event (.state s) => s = .idle
  | .event (.status _) | .record _ | .spanClosed | .returned .. => True
  | .event _ | .awaits _ => False

namespace Dock

/-- Every connection asked for meets a busy dock, and so none is let in. -/
def Apart (d : Dock) (inputs : List DockInput) : Prop :=
  ∀ earlier ticket device later, inputs = earlier ++ .connect ticket device :: later →
    (d.run earlier).isBusy = true

theorem Apart.of_append {d : Dock} {inputs more : List DockInput} (h : d.Apart (inputs ++ more)) :
    d.Apart inputs := by
  intro earlier ticket device later split
  exact h earlier ticket device (later ++ more) (by simp [split])

theorem Apart.isBusy {d : Dock} {inputs : List DockInput} {ticket : Nat} {device : Device}
    (h : d.Apart (inputs ++ [.connect ticket device])) : (d.run inputs).isBusy = true :=
  h inputs ticket device [] rfl

section Tokens

variable {d : Dock}

theorem spares_connect (d : Dock) (ticket : Nat) (device : Device) :
    Spares d (d.connect ticket device) := by
  rw [connect]
  split
  · exact (tells_note d _).stays.toSpares
  · have told := (tells_transition { d with generation := d.generation + 1, device := none }
      (d.generation + 1) .connecting).trans
      (tells_say _ ("Connecting to " ++ toString device.address ++ "..."))
    exact ⟨told.stays.settings, told.disk, told.cancelled, told.stays.serial, .inl told.active⟩

theorem fetch_token (d : Dock) (ticket : Nat) (title : Title) (target : FetchTarget)
    (token : String) :
    (d.fetch ticket title target token).cancelled = d.cancelled ∧
      ((d.fetch ticket title target token).active = d.active ∨
        (d.fetch ticket title target token).active = none ∨
        (d.fetch ticket title target token).active = some (.fetch d.serial token)) := by
  rw [fetch]
  split
  · exact ⟨rfl, .inl rfl⟩
  · split
    · exact ⟨rfl, .inl rfl⟩
    · have entered {e : Dock} {job : Job}
          (told : Tells { d with active := some (.fetch d.serial token), serial := d.serial + 1 } e) :
          (e.enter job .requesting).cancelled = d.cancelled ∧
            ((e.enter job .requesting).active = d.active ∨
              (e.enter job .requesting).active = none ∨
              (e.enter job .requesting).active = some (.fetch d.serial token)) := by
        have kept := told.stays.trans (stays_enter e job .requesting)
        exact ⟨kept.cancelled, .inr kept.active.symm⟩
      exact entered ((tells_transition _ _ _).trans (tells_say _ _))

def OwnToken (d : Dock) : Prop := ∀ name, d.active ≠ some (.caller name)

theorem Spares.ownToken {e : Dock} (h : Spares d e) (own : d.OwnToken) : e.OwnToken := by
  intro name
  obtain same | none := h.active
  · rw [same]
    exact own name
  · rw [none]
    rintro ⟨⟩

theorem OwnToken.step (h : d.OwnToken) (i : DockInput) : (d.step i).OwnToken := by
  cases i with
  | connect ticket device => exact (spares_connect d ticket device).ownToken h
  | fetch ticket title target token =>
    intro name
    obtain same | none | fresh := (fetch_token d ticket title target token).2
    · exact same ▸ h name
    · rw [Dock.step, none]
      rintro ⟨⟩
    · rw [Dock.step, fresh]
      rintro ⟨⟩
  | disconnect => rintro name ⟨⟩
  | cancel token => exact h
  | disk disk => exact h
  | arrive a => exact (spares_arrive d a).ownToken h

theorem OwnToken.run (h : d.OwnToken) (inputs : List DockInput) : (d.run inputs).OwnToken := by
  induction inputs generalizing d with
  | nil => exact h
  | cons i inputs ih => exact ih (h.step i)

theorem OwnToken.cancelled_step (h : d.OwnToken) {i : DockInput} {name : String}
    (cancelled : .caller name ∈ (d.step i).cancelled) :
    .caller name ∈ d.cancelled ∨ i = .cancel name := by
  cases i with
  | connect ticket device => exact .inl ((spares_connect d ticket device).cancelled ▸ cancelled)
  | fetch ticket title target token =>
    exact .inl ((fetch_token d ticket title target token).1 ▸ cancelled)
  | disconnect =>
    obtain active | earlier := List.mem_append.1 cancelled
    · exact absurd (Option.mem_toList.1 active) (h name)
    · exact .inl earlier
  | cancel token =>
    obtain same | earlier := List.mem_cons.1 cancelled
    · cases same
      exact .inr rfl
    · exact .inl earlier
  | disk disk => exact .inl cancelled
  | arrive a => exact .inl ((spares_arrive d a).cancelled ▸ cancelled)

theorem OwnToken.cancelled_run (h : d.OwnToken) {inputs : List DockInput} {name : String}
    (cancelled : .caller name ∈ (d.run inputs).cancelled) :
    .caller name ∈ d.cancelled ∨ .cancel name ∈ inputs := by
  induction inputs generalizing d with
  | nil => exact .inl cancelled
  | cons i inputs ih =>
    obtain first | later := ih (h.step i) cancelled
    · obtain earlier | rfl := h.cancelled_step first
      · exact .inl earlier
      · exact .inr (List.mem_cons_self ..)
    · exact .inr (List.mem_cons_of_mem _ later)

end Tokens

/-- The state stays, and only quiet notes are added. -/
structure Hushed (d e : Dock) : Prop where
  state : e.state = d.state
  notes : ∃ told, e.journal = told ++ d.journal ∧ ∀ n ∈ told, n.IsQuiet

section Hushed

variable {d e f : Dock} {job : Job} {stage : Stage}

theorem Hushed.refl (d : Dock) : Hushed d d := ⟨rfl, [], rfl, List.forall_mem_nil _⟩

theorem Hushed.trans (h : Hushed d e) (h' : Hushed e f) : Hushed d f := by
  obtain ⟨told, split, quiet⟩ := h.notes
  obtain ⟨told', split', quiet'⟩ := h'.notes
  refine ⟨h'.state.trans h.state, told' ++ told, by rw [split', split, List.append_assoc], ?_⟩
  intro n member
  obtain later | earlier := List.mem_append.1 member
  · exact quiet' n later
  · exact quiet n earlier

theorem hushed_of_note {n : Note} (quiet : n.IsQuiet) (state : e.state = d.state)
    (journal : e.journal = n :: d.journal) : Hushed d e := by
  refine ⟨state, [n], journal, ?_⟩
  intro m member
  rwa [List.mem_singleton.1 member]

theorem hushed_note (d : Dock) {n : Note} (quiet : n.IsQuiet) : Hushed d (d.note n) :=
  hushed_of_note quiet rfl rfl

theorem hushed_say (d : Dock) (line : String) : Hushed d (d.say line) :=
  hushed_note d (n := .event (.status line)) trivial

theorem hushed_record (d : Dock) (level : LogLevel) (message : String)
    (fields : List (String × LogValue)) : Hushed d (d.record level message fields) :=
  hushed_note d (n := .record _) trivial

theorem hushed_release (d : Dock) (ticket : Nat) (r : CallResult) : Hushed d (d.release ticket r) :=
  hushed_of_note (n := .returned ticket r) trivial rfl rfl

theorem hushed_transition {generation : Nat} (past : d.generation ≠ generation)
    (s : TransferState) : Hushed d (d.transition generation s) := by
  rw [transition_of_past past]
  exact hushed_record d _ _ _

theorem hushed_conclude (past : d.generation ≠ job.generation) (r : Except Fault FetchOutcome) :
    Hushed d (d.conclude job r) := by
  cases r with
  | ok outcome =>
    have told := hushed_record d .info "Extraction complete" [("output", .text outcome.output),
      ("bytes", .number outcome.contentBytes), ("digest", .text outcome.digest)]
    exact told.trans ((hushed_transition (by exact past) _).trans (hushed_say _ _))
  | error f => exact (hushed_transition past _).trans (hushed_say _ _)

theorem hushed_finish (past : d.generation ≠ job.generation) (r : Except Fault FetchOutcome) :
    Hushed d (d.finish job stage r) := by
  rw [finish_of_past past]
  have closed : Hushed d { d with files := (d.clear stage).files,
                                  journal := .spanClosed :: d.journal } :=
    hushed_of_note (n := .spanClosed) trivial rfl rfl
  exact (closed.trans (hushed_conclude (by exact past) r)).trans (hushed_release _ _ _)

theorem hushed_finishConnect {generation : Nat} (past : d.generation ≠ generation) (ticket : Nat)
    (device : Device) (r : Except Fault (List Title)) :
    Hushed d (d.finishConnect ticket device generation r) := by
  cases r with
  | ok titles =>
    rw [finishConnect, if_neg past]
    exact ((hushed_transition past _).trans (hushed_say _ _)).trans (hushed_release _ _ _)
  | error f =>
    exact ((hushed_transition past _).trans (hushed_say _ _)).trans (hushed_release _ _ _)

end Hushed

section Idle

variable {d : Dock} {job : Job} {stage : Stage}

theorem Sound.cutOff_of_idle (h : d.Sound) (idle : d.state = .idle)
    (flight : d.flight = some (.fetching job stage)) : d.CutOff job := by
  have posture := h.posture
  rw [Posture, flight] at posture
  obtain ⟨-, suits⟩ | cut := posture
  · rw [idle] at suits
    cases stage with
    | requesting | resting | polling => cases suits
    | opening | receiving | flushing | decoding | placing | filling =>
      obtain ⟨id, no⟩ := suits
      cases no
  · exact cut

theorem Sound.past_of_idle {ticket generation : Nat} {device : Device} (h : d.Sound)
    (idle : d.state = .idle) (flight : d.flight = some (.connecting ticket device generation)) :
    d.device = none ∧ d.generation ≠ generation := by
  have posture := h.posture
  rw [Posture, flight] at posture
  obtain ⟨-, none, ⟨-, state⟩ | ⟨past, -⟩⟩ := posture
  · rw [idle] at state
    cases state
  · exact ⟨none, past.ne'⟩

theorem Sound.device_of_idle (h : d.Sound) (idle : d.state = .idle) : d.device = none := by
  cases flight : d.flight with
  | none =>
    obtain ⟨-, -, held⟩ := h.settled flight
    rw [idle] at held
    exact Option.not_isSome_iff_eq_none.1 held.1
  | some f =>
    cases f with
    | connecting ticket device generation => exact (h.past_of_idle idle flight).1
    | fetching job stage => exact (h.cutOff_of_idle idle flight).device

theorem Sound.arrive_of_idle (h : d.Sound) (idle : d.state = .idle)
    (flight : d.flight = some (.fetching job stage)) (a : Arrival) :
    d.arrive a = d.finish job stage (.error .cancelled) := by
  rw [arrive_of_fetching flight]
  exact resume_of_isCancelled (h.cutOff_of_idle idle flight).cancelled stage a

theorem Sound.hushed_step (h : d.Sound) (idle : d.state = .idle) {i : DockInput}
    (apart : ∀ ticket device, i = .connect ticket device → d.isBusy = true) :
    Hushed d (d.step i) := by
  cases i with
  | connect ticket device =>
    rw [Dock.step, connect_of_isBusy (apart ticket device rfl)]
    exact hushed_note d trivial
  | fetch ticket title target token =>
    rw [Dock.step, Dock.fetch, h.device_of_idle idle]
    split <;> exact hushed_note d trivial
  | disconnect =>
    rw [Dock.step, Dock.disconnect]
    refine Hushed.trans ?_ (hushed_say _ "Disconnected from device")
    exact hushed_of_note (n := .event (.state .idle)) rfl idle.symm rfl
  | cancel token => exact ⟨rfl, [], rfl, List.forall_mem_nil _⟩
  | disk disk => exact ⟨rfl, [], rfl, List.forall_mem_nil _⟩
  | arrive a =>
    rw [Dock.step, arrive.eq_def]
    split
    case h_1 flight => exact hushed_finishConnect (h.past_of_idle idle flight).2 _ _ _
    case h_2 flight =>
      rw [resume_of_isCancelled (h.cutOff_of_idle idle flight).cancelled]
      exact hushed_finish (h.cutOff_of_idle idle flight).generation.ne' _
    case h_3 => exact .refl d

theorem Sound.hushed_run {inputs : List DockInput} (h : d.Sound) (idle : d.state = .idle)
    (apart : d.Apart inputs) : Hushed d (d.run inputs) := by
  induction inputs using List.reverseRecOn with
  | nil => exact .refl d
  | append_singleton inputs i ih =>
    have before := ih apart.of_append
    have after := (h.run inputs).hushed_step (before.state.trans idle) (i := i) fun ticket device
      last => Apart.isBusy (last ▸ apart)
    rw [run_concat]
    exact before.trans after

theorem flight_run_of_isBusy {inputs : List DockInput} (busy : d.isBusy = true)
    (still : ∀ a, .arrive a ∉ inputs) : (d.run inputs).flight = d.flight := by
  induction inputs generalizing d with
  | nil => rfl
  | cons i inputs ih =>
    have kept := (step_of_isBusy busy (i := i) fun a same =>
      still a (same ▸ List.mem_cons_self ..)).1
    have rest := ih (d := d.step i) (by rwa [isBusy, kept]) fun a later =>
      still a (List.mem_cons_of_mem _ later)
    exact rest.trans kept

theorem Sound.ends_cancelled {earlier later : List DockInput} {a : Arrival} (h : d.Sound)
    (idle : d.state = .idle) (flight : d.flight = some (.fetching job stage))
    (apart : d.Apart (earlier ++ .arrive a :: later)) (still : ∀ b, .arrive b ∉ earlier) :
    (d.run (earlier ++ [.arrive a])).flight = none ∧
      (d.run (earlier ++ [.arrive a])).journal.head? =
        some (.returned job.ticket (.fetched (.error .cancelled))) := by
  have busy := isBusy_of_flight flight
  have waiting := (flight_run_of_isBusy busy still).trans flight
  have quiet := h.hushed_run idle apart.of_append
  have ended := (h.run earlier).arrive_of_idle (quiet.state.trans idle) waiting a
  rw [run_concat, Dock.step, ended]
  exact ⟨rfl, rfl⟩

end Idle

theorem Hushed.since_disconnect {d e : Dock} (h : d.disconnect.Hushed e) :
    ∃ told, e.journal = told ++ d.journal ∧ ∀ n ∈ told, n.IsQuiet := by
  obtain ⟨told, split, quiet⟩ := h.notes
  refine ⟨told ++ [.event (.status "Disconnected from device"), .event (.state .idle)],
    by simp [split, disconnect, say, emit, note], fun n member => ?_⟩
  obtain later | first := List.mem_append.1 member
  · exact quiet n later
  · obtain rfl | rfl : n = _ ∨ n = _ := by simpa using first
    · trivial
    · rfl

/-- From a disconnection until a connection is let in, a dock is idle and without a device,
announces no state but `idle` and starts no wait, so that it makes no call to the device. A fetch
that was under way stays until something arrives for it, and with that comes back as cancelled. The
token of a caller is cancelled only if it was before, or by request. -/
theorem run_after_disconnect (settings : TransferSettings) (files : Files.Tree)
    (before after : List DockInput) :
    let d := (new settings files).run before
    d.disconnect.Apart after →
    let e := d.disconnect.run after
    e.state = .idle ∧ e.device = none ∧
      (∃ told, e.journal = told ++ d.journal ∧ (∀ s, .event (.state s) ∈ told → s = .idle) ∧
        ∀ a, .awaits a ∉ told) ∧
      (∀ job stage, d.flight = some (.fetching job stage) →
        ((∀ a, .arrive a ∉ after) → e.flight = some (.fetching job stage)) ∧
        ∀ earlier a later, after = earlier ++ .arrive a :: later → (∀ b, .arrive b ∉ earlier) →
          let ended := d.disconnect.run (earlier ++ [.arrive a])
          ended.flight = none ∧
            ended.journal.head? = some (.returned job.ticket (.fetched (.error .cancelled)))) ∧
      ∀ name, .caller name ∈ e.cancelled → .caller name ∈ d.cancelled ∨ .cancel name ∈ after := by
  intro d apart e
  have sound : d.Sound := (sound_new settings files).run before
  have hushed : d.disconnect.Hushed e := sound.disconnect.hushed_run rfl apart
  have idle : e.state = .idle := hushed.state
  refine ⟨idle, (sound.disconnect.run after).device_of_idle idle, ?_, ?_, ?_⟩
  · obtain ⟨told, split, quiet⟩ := hushed.since_disconnect
    exact ⟨told, split, fun s member => quiet _ member, fun a member => quiet _ member⟩
  · intro job stage flight
    have busy : d.disconnect.isBusy = true := isBusy_of_flight flight
    refine ⟨fun still => (flight_run_of_isBusy busy still).trans flight, ?_⟩
    intro earlier a later split still
    exact sound.disconnect.ends_cancelled rfl flight (split ▸ apart) still
  · intro name cancelled
    have fresh : (new settings files).OwnToken := by rintro name ⟨⟩
    have own : d.OwnToken := fresh.run before
    have own' : d.disconnect.OwnToken := own.step .disconnect
    obtain first | asked := own'.cancelled_run cancelled
    · obtain earlier | no := own.cancelled_step (i := .disconnect) first
      · exact .inl earlier
      · cases no
    · exact .inr asked

/-- A disconnection while the device is asked to extract a title. -/
theorem disconnect_while_requesting :
    let settings : TransferSettings :=
      { pollIntervalMs := 1000, tempDir := "tmp", format := "nsp", includeUpdates := true
        includeDlc := false }
    let device : Device :=
      { address := .v4 ⟨10, 0, 0, 7⟩ 6064, name := "Dock", version := "1.0", lastSeen := 0 }
    let title : Title :=
      { titleId := "0100", name := "Mall", version := "1", size := 4, kind := .digital
        extractable := true }
    let before : List DockInput :=
      [.connect 1 device, .arrive (.answer (.titles (.ok [title]))),
        .fetch 2 title ⟨"mall.nsp", .snes⟩ "caller"]
    let d := (new settings (Files.Tree.empty [])).run before
    let e := d.disconnect.run [.arrive .woken]
    d.state = .requesting ∧ d.disconnect.Apart [.arrive .woken] ∧ e.state = .idle ∧
      e.journal.head? = some (.returned 2 (.fetched (.error .cancelled))) := by
  intro settings device title before d e
  have apart : d.disconnect.Apart [.arrive .woken] := by
    intro earlier ticket device later split
    have member : .connect ticket device ∈ [DockInput.arrive .woken] := by simp [split]
    simp at member
  have cut := run_after_disconnect settings (.empty []) before [.arrive .woken] apart
  have ended := (cut.2.2.2.1 _ _ rfl).2 [] .woken [] rfl (by simp)
  exact ⟨rfl, apart, cut.1, ended.2⟩

end Dock

end TitleDock
