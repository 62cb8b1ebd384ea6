import TitleDock.Proofs.Transfer.Fence
import TitleDock.Proofs.Transfer.Turn

/-! What a dock holds on to. The state tells whether it has a device and a token: a device as long
as a connection stands, a token only while a fetch is under way, and then the token of that fetch.
The device is the one that the last connection was asked for: a dock faces a device when it has it
or is connecting to it, and only a connection that is let in makes it face another. -/

namespace TitleDock

def TransferState.IsFetching : TransferState → Prop
  | .requesting | .polling _ | .downloading _ => True
  | .idle | .connecting | .connected _ | .succeeded | .failed .. => False

theorem TransferState.IsSettled.not_isFetching {s : TransferState} (h : s.IsSettled) :
    ¬ s.IsFetching := by
  cases s <;> simp_all [IsSettled, IsFetching]

theorem Stage.Suits.isFetching {stage : Stage} {s : TransferState} (h : stage.Suits s) :
    s.IsFetching ∧ s.HoldsDevice := by
  cases stage with
  | requesting | resting | polling => cases h; exact ⟨trivial, trivial⟩
  | opening | receiving | flushing | decoding | placing | filling =>
    obtain ⟨id, rfl⟩ := h
    exact ⟨trivial, trivial⟩

namespace Dock

/-- The device that the dock has or is connecting to. -/
def Faces (d : Dock) (device : Device) : Prop :=
  d.device = some device ∨ ∃ ticket generation, d.flight = some (.connecting ticket device generation)

/-- Of the connections that are let in along a run, the last one is to the device. -/
def LetInLast (d : Dock) (inputs : List DockInput) (device : Device) : Prop :=
  ∃ earlier ticket later, inputs = earlier ++ .connect ticket device :: later ∧
    (d.run earlier).isBusy = false ∧ (d.run (earlier ++ [.connect ticket device])).Apart later

section LetIn

variable {d : Dock} {device : Device} {inputs : List DockInput} {i : DockInput}

theorem Apart.concat (h : d.Apart inputs)
    (last : ∀ ticket other, i = .connect ticket other → (d.run inputs).isBusy = true) :
    d.Apart (inputs ++ [i]) := by
  intro earlier ticket other later split
  rcases List.eq_nil_or_concat later with rfl | ⟨later, j, rfl⟩
  · obtain ⟨rfl, same⟩ := List.append_inj' split rfl
    exact last ticket other (by simpa using same)
  · rw [List.concat_eq_append, ← List.cons_append, ← List.append_assoc] at split
    exact h earlier ticket other later (List.append_inj_left' split rfl)

theorem LetInLast.concat (h : d.LetInLast inputs device)
    (last : ∀ ticket other, i = .connect ticket other → (d.run inputs).isBusy = true) :
    d.LetInLast (inputs ++ [i]) device := by
  obtain ⟨earlier, ticket, later, rfl, free, apart⟩ := h
  refine ⟨earlier, ticket, later ++ [i], by simp, free, apart.concat ?_⟩
  intro ticket' other same
  simpa [run] using last ticket' other same

theorem device_connect (free : d.isBusy = false) (ticket : Nat) (other : Device) :
    (d.connect ticket other).device = none ∧
      (d.connect ticket other).flight = some (.connecting ticket other (d.generation + 1)) := by
  have told := (tells_transition { d with generation := d.generation + 1, device := none }
    (d.generation + 1) .connecting).trans
    (tells_say _ ("Connecting to " ++ toString other.address ++ "..."))
  rw [connect, if_neg (by simp [free])]
  exact ⟨told.device, rfl⟩

theorem faces_fetch {ticket : Nat} {title : Title} {target : FetchTarget} {token : String}
    (faces : (d.fetch ticket title target token).Faces device) : d.Faces device := by
  obtain ⟨fault, refused⟩ | ⟨held, e, begins, -, same, -⟩ := fetch_cases d ticket title target token
  · rwa [refused] at faces
  · rw [begins] at faces
    obtain has | ⟨ticket', generation, flight⟩ := faces
    · rw [(stays_enter e _ _).device, same] at has
      exact .inl has
    · rw [enter] at flight
      split at flight <;> simp at flight

theorem device_finishConnect (d : Dock) (ticket : Nat) (held : Device) (generation : Nat)
    (r : Except Fault (List Title)) :
    (d.finishConnect ticket held generation r).device = d.device ∨
      (d.finishConnect ticket held generation r).device = some held := by
  cases r with
  | ok titles =>
    have told (e : Dock) := ((tells_transition e generation (.connected titles.length)).trans
      (tells_say _ (connectedLine held titles.length))).device
    rw [finishConnect]
    split
    · exact .inr (told _)
    · exact .inl (told d)
  | error f => exact .inl (tells_fail d generation _).device

theorem Sound.faces_arrive (h : d.Sound) (a : Arrival) (faces : (d.arrive a).Faces device) :
    d.Faces device := by
  by_cases fetching : ∃ job stage, d.flight = some (.fetching job stage)
  · obtain ⟨job, stage, flight⟩ := fetching
    rw [arrive_of_fetching flight] at faces
    obtain has | ⟨ticket, generation, flight'⟩ := faces
    · rw [(stays_resume d job stage a).device] at has
      exact .inl has
    · cases live : d.isCancelled job.token with
      | true => simp [resume_of_isCancelled live] at flight'
      | false =>
        have turn := turn_resume (h.serves flight live).1.generation live stage a
        cases turn with
        | aside deaf same => simp [same, flight] at flight'
        | leads leads other => simp [other] at flight'
        | closes closes gone => simp [gone] at flight'
  · rw [arrive.eq_def] at faces
    split at faces
    case h_1 ticket held generation r flight =>
      obtain has | ⟨ticket', generation', flight'⟩ := faces
      · obtain same | now := device_finishConnect d ticket held generation r
        · exact .inl (same.symm.trans has)
        · obtain rfl : held = device := by simpa [now] using has
          exact .inr ⟨ticket, generation, flight⟩
      · cases r <;> cases flight'
    case h_2 job stage flight => exact absurd ⟨job, stage, flight⟩ fetching
    case h_3 => exact faces

theorem Sound.faces_step (h : d.Sound) (faces : (d.step i).Faces device) :
    (∃ ticket, i = .connect ticket device ∧ d.isBusy = false) ∨
      d.Faces device ∧ ∀ ticket other, i = .connect ticket other → d.isBusy = true := by
  cases i with
  | connect ticket other =>
    cases busy : d.isBusy with
    | true =>
      rw [Dock.step, connect_of_isBusy busy] at faces
      exact .inr ⟨faces, fun _ _ _ => rfl⟩
    | false =>
      obtain ⟨bare, flight⟩ := device_connect busy ticket other
      obtain has | ⟨ticket', generation, flight'⟩ := faces
      · simp [Dock.step, bare] at has
      · obtain ⟨rfl, rfl, -⟩ : ticket = ticket' ∧ other = device ∧ d.generation + 1 = generation := by
          simpa [Dock.step, flight] using flight'
        exact .inl ⟨ticket, rfl, rfl⟩
  | fetch ticket title target token => exact .inr ⟨faces_fetch faces, by rintro _ _ ⟨⟩⟩
  | disconnect =>
    refine .inr ⟨?_, by rintro _ _ ⟨⟩⟩
    obtain has | connecting := faces
    · cases has
    · exact .inr connecting
  | cancel token => exact .inr ⟨faces, by rintro _ _ ⟨⟩⟩
  | disk disk => exact .inr ⟨faces, by rintro _ _ ⟨⟩⟩
  | arrive a => exact .inr ⟨h.faces_arrive a faces, by rintro _ _ ⟨⟩⟩

theorem Sound.letInLast (h : d.Sound) (bare : d.device = none) (free : d.flight = none)
    (faces : (d.run inputs).Faces device) : d.LetInLast inputs device := by
  induction inputs using List.reverseRecOn with
  | nil =>
    obtain has | ⟨ticket, generation, flight⟩ := faces
    · simp [Dock.run, bare] at has
    · simp [Dock.run, free] at flight
  | append_singleton inputs i ih =>
    rw [run_concat] at faces
    obtain ⟨ticket, rfl, idle⟩ | ⟨before, last⟩ := (h.run inputs).faces_step faces
    · refine ⟨inputs, ticket, [], rfl, idle, ?_⟩
      intro earlier ticket' other later split
      simp at split
    · exact (ih before).concat last

end LetIn

section Token

variable {d : Dock}

theorem Sound.isSome_device (h : d.Sound) : d.device.isSome ↔ d.state.HoldsDevice := by
  have posture := h.posture
  rw [Posture] at posture
  split at posture
  · exact posture.2.2
  · obtain ⟨-, none, ⟨-, state⟩ | ⟨-, state⟩⟩ := posture
    · simp [none, state, TransferState.HoldsDevice]
    · simp [none, state, TransferState.HoldsDevice]
  · obtain ⟨serves, suits⟩ | cut := posture
    · simp [serves.device, suits.isFetching.2]
    · simp [cut.device, cut.state, TransferState.HoldsDevice]

theorem Sound.isSome_active (h : d.Sound) : d.active.isSome ↔ d.state.IsFetching := by
  have posture := h.posture
  rw [Posture] at posture
  split at posture
  · simp [posture.1, posture.2.1.not_isFetching]
  · obtain ⟨none, -, ⟨-, state⟩ | ⟨-, state⟩⟩ := posture
    · simp [none, state, TransferState.IsFetching]
    · simp [none, state, TransferState.IsFetching]
  · obtain ⟨serves, suits⟩ | cut := posture
    · simp [serves.active, suits.isFetching.1]
    · simp [cut.active, cut.state, TransferState.IsFetching]

theorem Sound.flight_of_active (h : d.Sound) {token : Token} (active : d.active = some token) :
    ∃ job stage, d.flight = some (.fetching job stage) ∧ job.token = token := by
  have posture := h.posture
  rw [Posture] at posture
  split at posture
  case h_1 => simp [posture.1] at active
  case h_2 => simp [posture.1] at active
  case h_3 job stage flight =>
    obtain ⟨serves, -⟩ | cut := posture
    · exact ⟨job, stage, flight, by simpa [serves.active] using active⟩
    · simp [cut.active] at active

end Token

/-- At every moment of every run, the state of a dock tells whether it has a device and a token. The
device is the one of the connection that was let in last, and the token the one of the only fetch
that is under way. -/
theorem state_tells_device_and_token (settings : TransferSettings) (files : Files.Tree)
    (inputs : List DockInput) :
    let d := (new settings files).run inputs
    (d.device.isSome ↔ d.state.HoldsDevice) ∧
      (∀ device, d.device = some device → (new settings files).LetInLast inputs device) ∧
      (d.active.isSome ↔ d.state.IsFetching) ∧
      ∀ token, d.active = some token →
        ∃ job stage, d.flight = some (.fetching job stage) ∧ job.token = token := by
  intro d
  have fresh := sound_new settings files
  have sound : d.Sound := fresh.run inputs
  refine ⟨sound.isSome_device, ?_, sound.isSome_active, fun token => sound.flight_of_active⟩
  intro device held
  exact fresh.letInLast rfl rfl (.inl held)

end Dock

end TitleDock
