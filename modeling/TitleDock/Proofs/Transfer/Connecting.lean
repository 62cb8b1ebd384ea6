import TitleDock.Proofs.Transfer.Cancelled

/-! A connection from its call to its return. It waits for the titles alone, and until they are
there the dock has no device, not even the one that it had before. What it returns is decided by the
device: the number of titles, or why it failed. What the dock is then is decided by whether somebody
has disconnected: if nobody has, it is connected as the call returns; otherwise it stays idle, and a
call that comes back with a number of titles has not connected anything. -/

namespace TitleDock

/-- What a connection returns when the device answers. -/
def connectionResult : Except Fault (List Title) → Except Fault Nat
  | .ok titles => .ok titles.length
  | .error f => .error (.connection (toString f))

namespace Dock

/-- The connection that was asked for at one moment is still under way at another, after the inputs
in between. It stands until the first disconnection. -/
structure Dials (d : Dock) (ticket : Nat) (device : Device) (inputs : List DockInput) (e : Dock) :
    Prop where
  sound : e.Sound
  flight : e.flight = some (.connecting ticket device (d.generation + 1))
  standing : .disconnect ∉ inputs → e.generation = d.generation + 1
  past : .disconnect ∈ inputs → d.generation + 1 < e.generation

section Dials

variable {d e : Dock} {ticket : Nat} {device : Device} {inputs : List DockInput} {i : DockInput}

theorem dials_connect (sound : d.Sound) (free : d.isBusy = false) (ticket : Nat)
    (device : Device) : Dials d ticket device [] (d.connect ticket device) := by
  obtain ⟨-, flight⟩ := device_connect free ticket device
  refine ⟨sound.connect ticket device, flight, fun _ => ?_, by simp⟩
  rw [connect, if_neg (by simp [free])]
  exact generation_transition _ _ _

theorem Dials.bare (h : Dials d ticket device inputs e) : e.device = none := by
  have posture := h.sound.posture
  rw [Posture, h.flight] at posture
  exact posture.2.1

theorem Dials.state_of_kept (h : Dials d ticket device inputs e) (kept : .disconnect ∉ inputs) :
    e.state = .connecting := by
  have posture := h.sound.posture
  rw [Posture, h.flight] at posture
  obtain ⟨-, -, ⟨-, state⟩ | ⟨past, -⟩⟩ := posture
  · exact state
  · exact absurd (h.standing kept) past.ne'

theorem Dials.state_of_left (h : Dials d ticket device inputs e) (left : .disconnect ∈ inputs) :
    e.state = .idle := by
  have posture := h.sound.posture
  rw [Posture, h.flight] at posture
  obtain ⟨-, -, ⟨same, -⟩ | ⟨-, state⟩⟩ := posture
  · exact absurd same (h.past left).ne
  · exact state

theorem Dials.step (h : Dials d ticket device inputs e)
    (other : ∀ r, i ≠ .arrive (.answer (.titles r))) :
    Dials d ticket device (inputs ++ [i]) (e.step i) ∧ e.hears i = none := by
  have busy := isBusy_of_flight h.flight
  by_cases left : i = .disconnect
  · subst left
    have next : e.disconnect.generation = e.generation + 1 := rfl
    refine ⟨⟨h.sound.disconnect, h.flight, by simp, fun _ => ?_⟩, rfl⟩
    show d.generation + 1 < e.disconnect.generation
    by_cases before : .disconnect ∈ inputs
    · have past := h.past before
      omega
    · have same := h.standing before
      omega
  · have same : (e.step i).generation = e.generation := generation_step busy left
    have kept : .disconnect ∈ inputs ++ [i] ↔ .disconnect ∈ inputs := by simp [Ne.symm left]
    have waits : (e.step i).flight = e.flight ∧ e.hears i = none := by
      cases i with
      | arrive a =>
        have deaf : (Await.answer (.titles device)).isMetBy a = false := by
          rcases a with (_ | r | _ | _ | _) | _ | _ | _ | _ | _ <;>
            first | rfl | exact absurd rfl (other r)
        have aside : e.arrive a = e := by
          unfold arrive
          rw [h.flight]
          rcases a with (_ | r | _ | _ | _) | _ | _ | _ | _ | _ <;>
            first | rfl | exact absurd rfl (other r)
        exact ⟨congrArg Dock.flight aside, by simp [hears, h.flight, Flight.await, deaf]⟩
      | connect | fetch | disconnect | cancel | disk =>
        exact ⟨(step_of_isBusy busy (by simp)).1, rfl⟩
    refine ⟨⟨h.sound.step i, waits.1.trans h.flight, ?_, ?_⟩, waits.2⟩
    · rw [kept, same]
      exact h.standing
    · rw [kept, same]
      exact h.past

theorem Dials.answered (h : Dials d ticket device inputs e) (r : Except Fault (List Title)) :
    e.step (.arrive (.answer (.titles r))) =
      e.finishConnect ticket device (d.generation + 1) r := by
  rw [Dock.step, arrive.eq_def, h.flight]

theorem dials_run (sound : d.Sound) (free : d.isBusy = false)
    (lasts : (d.connect ticket device).Lasts inputs)
    (busy : ((d.connect ticket device).run inputs).isBusy = true) :
    Dials d ticket device inputs ((d.connect ticket device).run inputs) ∧
      (d.connect ticket device).heard inputs = [] := by
  induction inputs using List.reverseRecOn with
  | nil => exact ⟨dials_connect sound free ticket device, rfl⟩
  | append_singleton inputs i ih =>
    obtain ⟨lasts', busy'⟩ := lasts.of_concat
    obtain ⟨dials, silent⟩ := ih lasts' busy'
    rw [run_concat] at busy
    have other (r : Except Fault (List Title)) : i ≠ .arrive (.answer (.titles r)) := by
      rintro rfl
      rw [dials.answered] at busy
      cases r <;> cases busy
    obtain ⟨dials', deaf⟩ := dials.step other
    rw [run_concat, heard_concat, silent, deaf]
    exact ⟨dials', rfl⟩

end Dials

section Answer

variable {d : Dock} {ticket generation : Nat} {device : Device} {r : Except Fault (List Title)}

theorem head?_finishConnect (d : Dock) (ticket : Nat) (device : Device) (generation : Nat)
    (r : Except Fault (List Title)) :
    (d.finishConnect ticket device generation r).journal.head? =
      some (.returned ticket (.connected (connectionResult r))) := by
  cases r <;> rfl

theorem finishConnect_of_current (current : d.generation = generation) {n : Nat}
    (answered : connectionResult r = .ok n) :
    (d.finishConnect ticket device generation r).state = .connected n ∧
      (d.finishConnect ticket device generation r).device = some device := by
  cases r with
  | error f => cases answered
  | ok titles =>
    obtain rfl : titles.length = n := Except.ok.inj answered
    rw [finishConnect, if_pos current, transition_of_current (by exact current)]
    exact ⟨rfl, rfl⟩

theorem finishConnect_of_past (past : d.generation ≠ generation) (ticket : Nat) (device : Device)
    (r : Except Fault (List Title)) :
    (d.finishConnect ticket device generation r).state = d.state ∧
      (d.finishConnect ticket device generation r).device = d.device := by
  cases r with
  | ok titles =>
    rw [finishConnect, if_neg past, transition_of_past past]
    exact ⟨rfl, rfl⟩
  | error f =>
    rw [finishConnect, fail, transition_of_past past]
    exact ⟨rfl, rfl⟩

theorem device_of_failed {f : Fault} (failed : connectionResult r = .error f) :
    (d.finishConnect ticket device generation r).device = d.device := by
  cases r with
  | ok titles => cases failed
  | error g => exact (tells_fail d generation _).device

end Answer

/-- From the moment that a connection is let in until it returns, the dock has no device, and is
connecting as long as nobody disconnects. It returns what the device answers. If that is a number of
titles, then the dock is connected to the device, with that number, provided that nobody has
disconnected since; if it is a fault, then the dock has no device. If somebody has disconnected the
dock is idle and has no device, whatever the call returns. -/
theorem connect_returns (settings : TransferSettings) (files : Files.Tree)
    (before : List DockInput) (ticket : Nat) (device : Device) (inputs : List DockInput) :
    let d := (new settings files).run before
    let c := d.connect ticket device
    let e := c.run inputs
    d.isBusy = false → c.Lasts inputs →
      (e.isBusy = true → c.heard inputs = [] ∧ e.device = none ∧
        (.disconnect ∉ inputs → e.state = .connecting) ∧ (.disconnect ∈ inputs → e.state = .idle)) ∧
      (e.isBusy = false → ∃ r, c.heard inputs = [.answer (.titles r)] ∧
        e.journal.head? = some (.returned ticket (.connected (connectionResult r))) ∧
        (∀ n, connectionResult r = .ok n → .disconnect ∉ inputs →
          e.state = .connected n ∧ e.device = some device) ∧
        (∀ f, connectionResult r = .error f → e.device = none) ∧
        (.disconnect ∈ inputs → e.state = .idle ∧ e.device = none)) := by
  intro d c e free lasts
  have sound : d.Sound := (sound_new settings files).run before
  refine ⟨fun busy => ?_, fun gone => ?_⟩
  · obtain ⟨dials, silent⟩ := dials_run sound free lasts busy
    exact ⟨silent, dials.bare, dials.state_of_kept, dials.state_of_left⟩
  · rcases List.eq_nil_or_concat inputs with rfl | ⟨earlier, i, rfl⟩
    · have busy := isBusy_of_flight (dials_connect sound free ticket device).flight
      rw [show e = c from rfl, busy] at gone
      cases gone
    · rw [List.concat_eq_append] at lasts
      obtain ⟨lasts', busy⟩ := lasts.of_concat
      obtain ⟨dials, silent⟩ := dials_run sound free lasts' busy
      have after : e = (c.run earlier).step i := by
        simp only [e, List.concat_eq_append, run_concat]
      obtain ⟨r, rfl⟩ : ∃ r, i = .arrive (.answer (.titles r)) := by
        by_contra other
        obtain ⟨dials', -⟩ := dials.step (i := i) fun r same => other ⟨r, same⟩
        rw [after, isBusy_of_flight dials'.flight] at gone
        cases gone
      have ended : e = (c.run earlier).finishConnect ticket device (d.generation + 1) r :=
        after.trans (dials.answered r)
      have kept : .disconnect ∈ earlier.concat (.arrive (.answer (.titles r))) ↔
          .disconnect ∈ earlier := by
        simp
      rw [kept, ended]
      refine ⟨r, ?_, head?_finishConnect _ _ _ _ r, fun n answered stays => ?_, fun f failed => ?_,
        fun left => ?_⟩
      · rw [List.concat_eq_append, heard_concat, silent]
        simp [hears, show (c.run earlier).flight = _ from dials.flight, Flight.await, Await.isMetBy]
      · exact finishConnect_of_current (dials.standing stays) answered
      · exact (device_of_failed failed).trans dials.bare
      · obtain ⟨state, bare⟩ := finishConnect_of_past (dials.past left).ne' ticket device r
        exact ⟨state.trans (dials.state_of_left left), bare.trans dials.bare⟩

/-- A second call is turned away while the first one is under way, which then connects. -/
theorem connect_returns_a_title :
    let settings := (sample "spool").settings
    let device : Device :=
      { address := .v4 ⟨10, 0, 0, 5⟩ 8080, name := "Dock", version := "1.0", lastSeen := 0 }
    let title : Title :=
      { titleId := "0100", name := "Game", version := "", size := 0, kind := .other
        extractable := true }
    let c := (new settings (.empty [])).connect 1 device
    let inputs := [.connect 2 device, .arrive (.answer (.titles (.ok [title])))]
    let e := c.run inputs
    c.Lasts inputs ∧ .disconnect ∉ inputs ∧
      e.journal.head? = some (.returned 1 (.connected (.ok 1))) ∧ e.state = .connected 1 ∧
        e.device = some device := by
  intro settings device title c inputs e
  have lasts : c.Lasts inputs := by decide +kernel
  have kept : .disconnect ∉ inputs := by simp [inputs]
  obtain ⟨r, heard, returned, connected, -⟩ :=
    (connect_returns settings (.empty []) [] 1 device inputs rfl lasts).2 rfl
  obtain rfl : r = .ok [title] := by
    have answered : c.heard inputs = [.answer (.titles (.ok [title]))] := rfl
    simpa using heard.symm.trans answered
  obtain ⟨state, held⟩ := connected 1 rfl kept
  exact ⟨lasts, kept, returned, state, held⟩

/-- The device answers after a disconnection: the call returns the number of its titles, but the
dock is idle and has no device. -/
theorem connected_after_disconnect :
    let device : Device :=
      { address := .v4 ⟨10, 0, 0, 5⟩ 8080, name := "Dock", version := "1.0", lastSeen := 0 }
    let title : Title :=
      { titleId := "0100", name := "Game", version := "", size := 0, kind := .other
        extractable := true }
    let e := (new (sample "spool").settings (.empty [])).run
      [.connect 1 device, .disconnect, .arrive (.answer (.titles (.ok [title])))]
    e.journal.head? = some (.returned 1 (.connected (.ok 1))) ∧ e.state = .idle ∧
      e.device = none := by
  intro device title e
  exact ⟨rfl, rfl, rfl⟩

end Dock

end TitleDock
