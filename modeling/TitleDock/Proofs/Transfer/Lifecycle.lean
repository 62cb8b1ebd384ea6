import TitleDock.Proofs.Transfer.Posture

/-! The life of a dock. Whatever calls come in and whatever arrives for them, every step leaves the
dock sound; so at every moment of a run the state is the one announced last, and every event was
permitted where it was emitted. -/

namespace TitleDock

namespace Dock

section Arrivals

variable {d : Dock} {job : Job} {id : String}

theorem Sound.accepted (h : d.Steady) (serves : d.Serves job) (state : d.state = .requesting)
    (r : Except Fault String) : (d.accepted job r).Sound := by
  cases r with
  | error f => exact Sound.finish_error h serves state (by rintro ⟨⟩)
  | ok id =>
    rw [Dock.accepted, transition_of_current (by exact serves.generation)]
    have told := (h.record .info "Extraction accepted" [("operation_id", .text id)]).announce
      (s := .polling id) (by rw [show (record d _ _ _).state = _ from state]; trivial)
    exact Sound.enter (told.say _) ⟨serves.generation, serves.device, serves.active⟩ rfl

theorem Sound.polled (h : d.Steady) (serves : d.Serves job) (state : d.state = .polling id)
    (last : SessionStatus) (r : Except Fault Session) : (d.polled job id last r).Sound := by
  rw [Dock.polled]
  split
  case h_1 f refused =>
    have kind := Session.kind_of_accept_error refused
    exact Sound.finish_error h serves state (by rw [kind]; rintro ⟨⟩)
  case h_2 session _ =>
    have noted := h.record .debug "Polled extraction status" [("status", .text session.status.name)]
    have kept := serves.tells (tells_record d .debug "Polled extraction status"
      [("status", .text session.status.name)])
    dsimp only
    split
    · exact Sound.enter noted kept state
    · have told := (noted.emit (e := .extractProgress session.bytesTransferred session.totalBytes)
        rfl ⟨id, state⟩).say session.progressLine
      exact Sound.enter told (kept.tells ((tells_emit _ _).trans (tells_say _ _))) state
    · rw [transition_of_current (by exact serves.generation)]
      have told := noted.announce (s := .downloading id)
        (by rw [show (record d _ _ _).state = _ from state]; rfl)
      exact Sound.enter (told.say _) ⟨serves.generation, serves.device, serves.active⟩ ⟨id, rfl⟩
    · exact Sound.finish_error noted kept state (by rintro ⟨⟩)

theorem Sound.opened (h : d.Steady) (serves : d.Serves job) (state : d.state = .downloading id)
    (session : Session) (r : Except Fault Download) : (d.opened job session r).Sound := by
  cases r with
  | error f => exact Sound.finish_error h serves ⟨id, state⟩ (by rintro ⟨⟩)
  | ok download =>
    have made : Steady { d with files := (d.files.openSpool d.disk d.settings.tempDir).1 } :=
      h.of_eq rfl rfl
    rw [Dock.opened]
    cases opened : (d.files.openSpool d.disk d.settings.tempDir).2 with
    | error f =>
      have kind := Files.Tree.kind_of_openSpool_error opened
      exact Sound.finish_error made ⟨serves.generation, serves.device, serves.active⟩
        ⟨id, state⟩ (by rw [kind]; rintro ⟨⟩)
    | ok spool =>
      exact Sound.enter made ⟨serves.generation, serves.device, serves.active⟩ ⟨id, state⟩

theorem Steady.keepPayload (h : d.Steady) (r : Reception) : (d.keepPayload r).Steady := by
  have stored : Steady { d with files := d.files.put r.spool (.file r.payload) } := h.of_eq rfl rfl
  rw [Dock.keepPayload]
  split
  · exact ((stored.record _ _ _).record _ _ _).say _
  · exact (stored.record _ _ _).say _

theorem state_keepPayload (d : Dock) (r : Reception) : (d.keepPayload r).state = d.state := by
  rw [Dock.keepPayload]
  split <;> rfl

theorem Sound.reopened (h : d.Steady) (serves : d.Serves job) (state : d.state = .downloading id)
    (session : Session) (r : Reception) : (d.reopened job session r).Sound := by
  rw [Dock.reopened]
  split
  · exact Sound.finish_error h serves ⟨id, state⟩ (by rintro ⟨⟩)
  · exact Sound.enter h serves ⟨id, state⟩

theorem Sound.flushed (h : d.Steady) (serves : d.Serves job) (state : d.state = .downloading id)
    (session : Session) (r : Reception) : (d.flushed job session r).Sound := by
  rw [Dock.flushed]
  split
  · exact Sound.finish_error h serves ⟨id, state⟩ (by rintro ⟨⟩)
  · have kept := tells_keepPayload d r
    exact Sound.reopened (h.keepPayload r)
      ⟨kept.generation.trans serves.generation, kept.device.trans serves.device,
        kept.active.trans serves.active⟩ ((state_keepPayload d r).trans state) session r

theorem Steady.report (h : d.Steady) (state : d.state = .downloading id) (total : Nat)
    (count : Option Nat) : (d.report total count).Steady := by
  cases count with
  | none => exact h
  | some n => exact h.emit rfl ⟨id, state⟩

theorem state_report (d : Dock) (total : Nat) (count : Option Nat) :
    (d.report total count).state = d.state := by
  cases count <;> rfl

theorem Sound.received (h : d.Steady) (serves : d.Serves job) (state : d.state = .downloading id)
    (session : Session) (r : Reception) (p : Except SystemError Bytes) :
    (d.received job session r p).Sound := by
  cases p with
  | error e => exact Sound.finish_error h serves ⟨id, state⟩ (by rintro ⟨⟩)
  | ok bytes =>
    have told := h.report state r.total (r.progress.count bytes.length).2
    have kept := serves.tells (tells_report d r.total (r.progress.count bytes.length).2)
    have state := (state_report d r.total (r.progress.count bytes.length).2).trans state
    rw [Dock.received]
    dsimp only
    split
    · exact Sound.enter told kept ⟨id, state⟩
    · exact Sound.enter told kept ⟨id, state⟩

theorem Sound.decoded (h : d.Steady) (serves : d.Serves job) (state : d.state = .downloading id)
    (session : Session) (spool : Files.Place) (payload : Bytes) (r : Except CodecError Bytes) :
    (d.decoded job session spool payload r).Sound := by
  cases r with
  | error e => exact Sound.finish_error h serves ⟨id, state⟩ (by rintro ⟨⟩)
  | ok content =>
    exact Sound.enter (h.of_eq rfl rfl) ⟨serves.generation, serves.device, serves.active⟩
      ⟨id, state⟩

theorem Sound.placed (h : d.Steady) (serves : d.Serves job) (state : d.state = .downloading id)
    (p : Parcel) (refused : Option SystemError) : (d.placed job p refused).Sound := by
  cases refused with
  | some e => exact Sound.finish_error h serves ⟨id, state⟩ (by rintro ⟨⟩)
  | none =>
    rw [Dock.placed]
    split
    · exact Sound.finish_error h serves ⟨id, state⟩ (by rintro ⟨⟩)
    · exact Sound.enter (h.of_eq rfl rfl) ⟨serves.generation, serves.device, serves.active⟩
        ⟨id, state⟩

theorem Sound.filled (h : d.Steady) (serves : d.Serves job) (state : d.state = .downloading id)
    (p : Parcel) (part : Files.Place) : (d.filled job p part).Sound := by
  rw [Dock.filled]
  split
  · exact Sound.finish_error h serves ⟨id, state⟩ (by rintro ⟨⟩)
  · exact Sound.finish (h.of_eq rfl rfl) ⟨serves.generation, serves.device, serves.active⟩
      (by rw [show d.state = _ from state]; trivial) trivial

end Arrivals

section Steps

variable {d : Dock}

theorem Sound.resume {job : Job} {stage : Stage} (h : d.Sound)
    (flight : d.flight = some (.fetching job stage)) (a : Arrival) :
    (d.resume job stage a).Sound := by
  have steady := h.toSteady
  have posture := h.posture
  rw [Posture, flight] at posture
  obtain ⟨serves, suits⟩ | cut := posture
  · by_cases cancelled : d.isCancelled job.token = true
    · rw [resume_of_isCancelled cancelled]
      exact Sound.finish_error steady serves suits (by rintro ⟨⟩)
    · unfold Dock.resume
      rw [if_neg cancelled]
      split
      · exact Sound.accepted steady serves suits _
      · exact Sound.enter steady serves suits
      · exact Sound.polled steady serves suits _ _
      · exact Sound.opened steady serves suits.choose_spec _ _
      · exact Sound.received steady serves suits.choose_spec _ _ _
      · exact Sound.flushed steady serves suits.choose_spec _ _
      · exact Sound.decoded steady serves suits.choose_spec _ _ _ _
      · exact Sound.placed steady serves suits.choose_spec _ _
      · exact Sound.filled steady serves suits.choose_spec _ _
      · exact h
  -- a fetch that was cut off is cancelled, so nothing that arrives reaches its stage
  · rw [resume_of_isCancelled cut.cancelled]
    exact Sound.finish_of_cutOff steady cut

theorem Sound.release_of_past {generation : Nat} (h : d.Steady) (active : d.active = none)
    (none : d.device = none) (state : d.state = .idle) (past : d.generation ≠ generation)
    (s : TransferState) (line : String) (ticket : Nat) (r : CallResult) :
    (((d.transition generation s).say line).release ticket r).Sound := by
  rw [transition_of_past past]
  exact Sound.release ((h.record _ _ _).say _) active state none trivial
    (iff_of_false Bool.false_ne_true id)

theorem Sound.finishConnect {ticket generation : Nat} {device : Device} (h : d.Sound)
    (flight : d.flight = some (.connecting ticket device generation))
    (r : Except Fault (List Title)) : (d.finishConnect ticket device generation r).Sound := by
  have steady := h.toSteady
  have posture := h.posture
  rw [Posture, flight] at posture
  obtain ⟨active, none, ⟨rfl, state⟩ | ⟨past, state⟩⟩ := posture
  · cases r with
    | ok titles =>
      have held : Steady { d with device := some device } := steady.of_eq rfl rfl
      have told := held.announce (s := .connected titles.length) (by
        rw [show d.state = _ from state]; trivial)
      rw [Dock.finishConnect, if_pos rfl, transition_of_current rfl]
      exact Sound.release (told.say _) active rfl rfl trivial (iff_of_true rfl trivial)
    | error f =>
      have told := steady.announce (s := .ofFault (.connection (toString f)))
        (by rw [state]; trivial)
      rw [Dock.finishConnect, fail, transition_of_current rfl]
      exact Sound.release (told.say _) active rfl none trivial
        (iff_of_false Bool.false_ne_true fun held => held rfl)
  · cases r with
    | ok titles =>
      rw [Dock.finishConnect, if_neg past.ne']
      exact Sound.release_of_past steady active none state past.ne' _ _ _ _
    | error f => exact Sound.release_of_past steady active none state past.ne' _ _ _ _

theorem Sound.arrive (h : d.Sound) (a : Arrival) : (d.arrive a).Sound := by
  unfold Dock.arrive
  split
  case h_1 flight => exact h.finishConnect flight _
  case h_2 flight => exact h.resume flight _
  case h_3 => exact h

theorem isCancelled_of_subset {e : Dock} {t : Token} (h : d.cancelled ⊆ e.cancelled)
    (cancelled : d.isCancelled t = true) : e.isCancelled t = true := by
  cases t with
  | caller name => simpa [isCancelled] using h (by simpa [isCancelled] using cancelled)
  | fetch serial parent =>
    simp only [isCancelled, Bool.or_eq_true, decide_eq_true_eq] at cancelled ⊢
    exact cancelled.imp (fun own => h own) (fun covered => h covered)

theorem isCancelled_eq_false_of_subset {e : Dock} {t : Token} (h : d.cancelled ⊆ e.cancelled)
    (live : e.isCancelled t = false) : d.isCancelled t = false := by
  by_contra revoked
  have covered := isCancelled_of_subset h (by simpa using revoked)
  rw [live] at covered
  cases covered

theorem Posture.of_eq {e : Dock} (h : d.Posture) (state : e.state = d.state)
    (device : e.device = d.device) (generation : e.generation = d.generation)
    (active : e.active = d.active) (flight : e.flight = d.flight)
    (cancelled : d.cancelled ⊆ e.cancelled) : e.Posture := by
  rw [Posture] at h ⊢
  rw [flight, state, device, generation, active]
  split at h
  · exact h
  · exact h
  · obtain ⟨serves, suits⟩ | cut := h
    · exact .inl ⟨⟨generation.trans serves.generation, device.trans serves.device,
        active.trans serves.active⟩, suits⟩
    · exact .inr ⟨⟨state.trans cut.state, device.trans cut.device, active.trans cut.active⟩,
        generation ▸ cut.generation, isCancelled_of_subset cancelled cut.cancelled⟩

theorem Sound.note (h : d.Sound) {n : Note} (silent : n.event? = none) : (d.note n).Sound :=
  ⟨h.toSteady.of_eq rfl (by simp [events, Dock.note, silent]),
    h.posture.of_eq rfl rfl rfl rfl rfl fun _ => id⟩

theorem Sound.cancel (h : d.Sound) (token : String) :
    Sound { d with cancelled := .caller token :: d.cancelled } :=
  ⟨h.toSteady.of_eq rfl rfl,
    h.posture.of_eq rfl rfl rfl rfl rfl (List.subset_cons_self _ _)⟩

theorem Sound.settled (h : d.Sound) (free : d.flight = none) :
    d.active = none ∧ d.state.IsSettled ∧ (d.device.isSome ↔ d.state.HoldsDevice) := by
  have posture := h.posture
  rwa [Posture, free] at posture

theorem flight_of_not_isBusy (free : ¬ d.isBusy = true) : d.flight = none := by
  simpa [isBusy] using free

theorem Sound.connect (h : d.Sound) (ticket : Nat) (device : Device) :
    (d.connect ticket device).Sound := by
  by_cases busy : d.isBusy = true
  · rw [connect_of_isBusy busy]
    exact h.note rfl
  · obtain ⟨active, settled, -⟩ := h.settled (flight_of_not_isBusy busy)
    have forgot : Steady { d with generation := d.generation + 1, device := none } :=
      h.toSteady.of_eq rfl rfl
    rw [Dock.connect, if_neg busy]
    dsimp only
    rw [transition_of_current rfl]
    exact ⟨((forgot.announce settled.mayBecome_connecting).say _).wait _, active, rfl,
      .inl ⟨rfl, rfl⟩⟩

theorem Sound.fetch (h : d.Sound) (ticket : Nat) (title : Title) (target : FetchTarget)
    (token : String) : (d.fetch ticket title target token).Sound := by
  by_cases busy : d.isBusy = true
  · rw [fetch_of_isBusy busy]
    exact h.note rfl
  · obtain ⟨-, settled, held⟩ := h.settled (flight_of_not_isBusy busy)
    rw [Dock.fetch, if_neg busy]
    split
    case h_1 => exact h.note rfl
    case h_2 device connected =>
      have may := settled.mayBecome_requesting (held.1 (by rw [connected]; rfl))
      have taken : Steady { d with active := some (.fetch d.serial token), serial := d.serial + 1 } :=
        h.toSteady.of_eq rfl rfl
      dsimp only
      rw [transition_of_current rfl]
      exact Sound.enter ((taken.announce may).say _) ⟨rfl, connected, rfl⟩ rfl

theorem Sound.disconnect (h : d.Sound) : d.disconnect.Sound := by
  have forgot : Steady { d with generation := d.generation + 1, device := none, active := none,
                                cancelled := d.active.toList ++ d.cancelled } :=
    h.toSteady.of_eq rfl rfl
  refine ⟨(forgot.announce (TransferState.mayBecome_idle _)).say _, ?_⟩
  have generation : d.disconnect.generation = d.generation + 1 := rfl
  have posture := h.posture
  rw [Posture] at posture ⊢
  rw [show d.disconnect.flight = d.flight from rfl, generation]
  split at posture
  · exact ⟨rfl, trivial, iff_of_false Bool.false_ne_true id⟩
  · obtain ⟨-, -, ⟨rfl, -⟩ | ⟨past, -⟩⟩ := posture
    · exact ⟨rfl, rfl, .inr ⟨by omega, rfl⟩⟩
    · exact ⟨rfl, rfl, .inr ⟨by omega, rfl⟩⟩
  · obtain ⟨serves, -⟩ | cut := posture
    · refine .inr ⟨⟨rfl, rfl, rfl⟩, ?_, isCancelled_of_mem ?_⟩
      · rw [generation, serves.generation]
        omega
      · simp [Dock.disconnect, say, emit, Dock.note, serves.active]
    · refine .inr ⟨⟨rfl, rfl, rfl⟩, ?_, isCancelled_of_subset ?_ cut.cancelled⟩
      · have past := cut.generation
        omega
      · exact List.subset_append_right _ _

theorem Sound.step (h : d.Sound) (i : DockInput) : (d.step i).Sound := by
  cases i with
  | connect ticket device => exact h.connect ticket device
  | fetch ticket title target token => exact h.fetch ticket title target token
  | disconnect => exact h.disconnect
  | cancel token => exact h.cancel token
  | disk disk =>
    exact ⟨h.toSteady.of_eq rfl rfl, h.posture.of_eq rfl rfl rfl rfl rfl fun _ => id⟩
  | arrive a => exact h.arrive a

theorem Sound.run (h : d.Sound) (inputs : List DockInput) : (d.run inputs).Sound := by
  induction inputs generalizing d with
  | nil => exact h
  | cons i inputs ih => exact ih (h.step i)

theorem sound_new (settings : TransferSettings) (files : Files.Tree) : (new settings files).Sound :=
  ⟨⟨rfl, lawful_nil⟩, rfl, trivial, iff_of_false Bool.false_ne_true id⟩

end Steps

/-- At every moment of every run, the state of a dock is the one announced last, the announced
states form a path of the automaton from `idle`, and progress is told only in its own state. -/
theorem run_follows_lifecycle (settings : TransferSettings) (files : Files.Tree)
    (inputs : List DockInput) :
    let d := (new settings files).run inputs
    d.state = d.states.getLastD .idle ∧
      (TransferState.idle :: d.states).IsChain TransferState.MayBecome ∧
      (∀ earlier later bytes total, d.events = earlier ++ .extractProgress bytes total :: later →
        ∃ id, announced earlier = .polling id) ∧
      (∀ earlier later bytes total, d.events = earlier ++ .downloadProgress bytes total :: later →
        ∃ id, announced earlier = .downloading id) := by
  have sound := (sound_new settings files).run inputs
  refine ⟨sound.announced, sound.lawful.isChain, ?_, ?_⟩
  · intro earlier later bytes total split
    exact sound.lawful earlier _ later split
  · intro earlier later bytes total split
    exact sound.lawful earlier _ later split

end Dock

end TitleDock
