import TitleDock.Proofs.Transfer.Holding
import TitleDock.Proofs.Transfer.Passage

/-! What cancelling does to a fetch. The token takes effect with the first thing that arrives
afterwards, whatever it is, and until then the fetch stands still. It comes back as cancelled, makes
no further call and leaves no other trace than the folders that it made before. Its connection
stays, and the next fetch can start: each one has a token of its own, with a number that was not
given before. -/

namespace TitleDock

open Files Files.Tree

namespace Stage.Intact

variable {found t : Tree} {paths : List String} {stage : Stage} {p : Place}

theorem not_folder (h : stage.Intact found paths t) (member : p ∈ stage.temporaries) :
    t.get? p ≠ some .folder := by
  obtain ⟨content, there⟩ := h.there p member
  simp [there]

theorem kept (h : stage.Intact found paths t) (lasting : p ∉ stage.temporaries) :
    Kept paths found t p := by
  have same : (stage.cleared t).get? p = t.get? p := get?_foldl_erase_of_notMem lasting
  obtain held | ⟨free, made, path, member, leads⟩ := h.grown.places p
  · exact .inl (same.symm.trans held)
  · refine .inr ⟨free, same.symm.trans made, path, member, ?_⟩
    exact (locate_foldl_erase_iff (fun q => h.not_folder) lasting).1 leads

theorem get?_eq_none (h : stage.Intact found paths t) (member : p ∈ stage.temporaries) :
    found.get? p = none ∧ (stage.cleared t).get? p = none := by
  have gone : (stage.cleared t).get? p = none :=
    get?_foldl_erase_of_mem (ne_nil_of_not_folder (h.not_folder member)) member
  refine ⟨?_, gone⟩
  obtain same | ⟨free, -⟩ := h.grown.places p
  · exact same.symm.trans gone
  · exact free

end Stage.Intact

theorem Passage.isFetching {heard : List Arrival} {told : List TransferEvent} {passed : List Stage}
    {stage : Stage} (h : Passage heard told passed stage) {s : TransferState}
    (announced : .state s ∈ told) : s.IsFetching := by
  induction h with
  | start =>
    obtain rfl : s = .requesting := by simpa using announced
    trivial
  | @step heard told moves passed stage next a passage leads ih =>
    obtain earlier | now := List.mem_append.1 announced
    · exact ih earlier
    · cases leads with
      | accepted id =>
        obtain rfl : s = .polling id := by simpa using now
        trivial
      | @completed id =>
        obtain rfl : s = .downloading id := by simpa using now
        trivial
      | _ => simp at now

namespace Dock

def Numbered (d : Dock) : Prop :=
  ∀ serial parent, .fetch serial parent ∈ d.cancelled ∨ d.active = some (.fetch serial parent) →
    serial < d.serial

section Numbered

variable {d e : Dock}

theorem Spares.numbered (h : Spares d e) (numbered : d.Numbered) : e.Numbered := by
  intro serial parent given
  rw [h.serial]
  apply numbered serial parent
  obtain cancelled | active := given
  · exact .inl (h.cancelled ▸ cancelled)
  · obtain same | none := h.active
    · exact .inr (same ▸ active)
    · rw [none] at active
      cases active

theorem Numbered.fetch (h : d.Numbered) (ticket : Nat) (title : Title) (target : FetchTarget)
    (token : String) : (d.fetch ticket title target token).Numbered := by
  obtain ⟨fault, refused⟩ | ⟨device, e, begins, -, -, counted, -⟩ :=
    fetch_cases d ticket title target token
  · rw [refused]
    exact h
  · have count : (d.fetch ticket title target token).serial = d.serial + 1 := by
      rw [begins]
      exact (stays_enter e _ _).serial.trans counted
    obtain ⟨same, active⟩ := fetch_token d ticket title target token
    intro serial parent given
    rw [same] at given
    rw [count]
    obtain cancelled | now := given
    · exact (h serial parent (.inl cancelled)).trans (Nat.lt_succ_self _)
    · obtain before | none | own := active
      · exact (h serial parent (.inr (before.symm.trans now))).trans (Nat.lt_succ_self _)
      · rw [none] at now
        cases now
      · obtain ⟨rfl, -⟩ : d.serial = serial ∧ token = parent := by simpa [own] using now
        exact Nat.lt_succ_self _

theorem Numbered.step (h : d.Numbered) (i : DockInput) : (d.step i).Numbered := by
  cases i with
  | connect ticket device => exact (spares_connect d ticket device).numbered h
  | fetch ticket title target token => exact h.fetch ticket title target token
  | disconnect =>
    intro serial parent given
    obtain cancelled | active := given
    · obtain own | earlier := List.mem_append.1 cancelled
      · exact h serial parent (.inr (Option.mem_toList.1 own))
      · exact h serial parent (.inl earlier)
    · cases active
  | cancel token =>
    intro serial parent given
    exact h serial parent (given.imp_left (List.mem_of_ne_of_mem (by simp)))
  | disk disk => exact h
  | arrive a => exact (spares_arrive d a).numbered h

theorem Numbered.run (h : d.Numbered) (inputs : List DockInput) : (d.run inputs).Numbered := by
  induction inputs generalizing d with
  | nil => exact h
  | cons i inputs ih => exact ih (h.step i)

theorem Numbered.not_mem_cancelled (h : d.Numbered) (parent : String) :
    .fetch d.serial parent ∉ d.cancelled := fun cancelled =>
  (h d.serial parent (.inl cancelled)).false

theorem isCancelled_jobFor {title : Title} {target : FetchTarget} {token : String} {device : Device}
    (own : .fetch d.serial token ∉ e.cancelled) (ticket : Nat) :
    e.isCancelled (d.jobFor ticket title target token device).token = true ↔
      .caller token ∈ e.cancelled := by
  simp [isCancelled, jobFor, own]

end Numbered

/-- The dock has the device, and can fetch from it with any token that is not cancelled. -/
structure Ready (d : Dock) (device : Device) : Prop where
  held : d.device = some device
  starts : ∀ ticket title target token, .caller token ∉ d.cancelled →
    (d.fetch ticket title target token).flight =
      some (.fetching (d.jobFor ticket title target token device) .requesting)

theorem Numbered.ready {d : Dock} {device : Device} (h : d.Numbered) (free : d.flight = none)
    (connected : d.device = some device) : d.Ready device := by
  refine ⟨connected, fun ticket title target token live => ?_⟩
  have idle : d.isBusy = false := by rw [isBusy, free]; rfl
  obtain ⟨e, begins, voiced, -⟩ := fetch_of_free idle connected ticket title target token
  have fresh : e.isCancelled (d.jobFor ticket title target token device).token = false := by
    rw [voiced.isCancelled, ← Bool.not_eq_true, isCancelled_jobFor (h.not_mem_cancelled token)]
    exact live
  rw [begins, enter_of_not_isCancelled fresh]
  rfl

/-- The call under way waits for what it waited for, and the files are left alone. -/
structure Stands (d e : Dock) : Prop where
  flight : e.flight = d.flight
  files : e.files = d.files
  cancelled : d.cancelled ⊆ e.cancelled
  adds : Adds d e [] []

section Stands

variable {d e f : Dock} {inputs : List DockInput} {i : DockInput}

theorem Stands.trans (h : Stands d e) (h' : Stands e f) : Stands d f :=
  ⟨h'.flight.trans h.flight, h'.files.trans h.files,
    List.Subset.trans h.cancelled h'.cancelled, h.adds.trans h'.adds⟩

theorem stands_step (busy : d.isBusy = true) (still : ∀ a, i ≠ .arrive a) :
    Stands d (d.step i) := by
  obtain ⟨flight, files, -⟩ := step_of_isBusy busy still
  refine ⟨flight, files, ?_, adds_step_of_isBusy busy still⟩
  cases i with
  | connect ticket device =>
    rw [step, connect_of_isBusy busy]
    exact List.Subset.refl _
  | fetch ticket title target token =>
    rw [step, fetch_of_isBusy busy]
    exact List.Subset.refl _
  | disconnect => exact List.subset_append_right _ _
  | cancel token => exact List.subset_cons_self _ _
  | disk disk => exact List.Subset.refl _
  | arrive a => exact absurd rfl (still a)

theorem stands_run (busy : d.isBusy = true) (still : ∀ a, .arrive a ∉ inputs) :
    Stands d (d.run inputs) := by
  induction inputs generalizing d with
  | nil => exact ⟨rfl, rfl, List.Subset.refl _, adds_of_eq rfl⟩
  | cons i inputs ih =>
    have first := stands_step busy (i := i) fun a same => still a (same ▸ List.mem_cons_self ..)
    have busy' : (d.step i).isBusy = true := by rwa [isBusy, first.flight]
    exact first.trans (ih busy' fun a later => still a (List.mem_cons_of_mem _ later))

theorem generation_arrive (d : Dock) (a : Arrival) : (d.arrive a).generation = d.generation := by
  unfold arrive
  split
  case h_1 ticket device generation r _ =>
    cases r with
    | ok titles =>
      have told (e : Dock) := ((tells_transition e generation (.connected titles.length)).trans
        (tells_say _ (connectedLine device titles.length))).generation
      rw [finishConnect]
      split
      · exact told _
      · exact told d
    | error f => exact (tells_fail d generation _).generation
  case h_2 job stage _ => exact (stays_resume d job stage _).generation
  case h_3 => rfl

theorem generation_step (busy : d.isBusy = true) (kept : i ≠ .disconnect) :
    (d.step i).generation = d.generation := by
  cases i with
  | connect ticket device => rw [step, connect_of_isBusy busy]; rfl
  | fetch ticket title target token => rw [step, fetch_of_isBusy busy]; rfl
  | disconnect => exact absurd rfl kept
  | cancel token => rfl
  | disk disk => rfl
  | arrive a => exact generation_arrive d a

theorem Lasts.generation (h : d.Lasts inputs) (kept : .disconnect ∉ inputs) :
    (d.run inputs).generation = d.generation := by
  induction inputs generalizing d with
  | nil => rfl
  | cons i inputs ih =>
    have first := generation_step h.1 (i := i) (Ne.symm (List.ne_of_not_mem_cons kept))
    exact (ih h.2 (List.not_mem_of_not_mem_cons kept)).trans first

end Stands

def temporaries (d : Dock) : List Place :=
  match d.flight with
  | some (.fetching _ stage) => stage.temporaries
  | _ => []

section ComesBack

variable {d e : Dock} {job : Job} {stage : Stage} {heard : List Arrival}

theorem Sound.serves_of_current (h : e.Sound) (flight : e.flight = some (.fetching job stage))
    (current : e.generation = job.generation) : e.Serves job ∧ stage.Suits e.state := by
  have posture := h.posture
  rw [Posture, flight] at posture
  obtain present | cut := posture
  · exact present
  · exact absurd current (Nat.ne_of_gt cut.generation)

end ComesBack

section Call

variable {d : Dock} {device : Device} {ticket : Nat} {title : Title} {target : FetchTarget}
  {token : String}

theorem OnTheWay.cancelled {heard : List Arrival} {stage : Stage} {m : Dock}
    (h : OnTheWay d (d.jobFor ticket title target token device) heard stage m)
    {rest : List DockInput} (still : ∀ b, .arrive b ∉ rest) (a : Arrival) :
    let w := m.run (.cancel token :: rest)
    w.Sound ∧ Stands m w ∧ w.step (.arrive a) =
      w.finish (d.jobFor ticket title target token device) stage (.error .cancelled) := by
  intro w
  have busy := isBusy_of_flight h.flight
  have stands : Stands m w := stands_run busy (by simpa using still)
  have after : Stands (m.step (.cancel token)) w := stands_run busy still
  have revoked : .caller token ∈ w.cancelled := after.cancelled (List.mem_cons_self ..)
  have covered : w.isCancelled (d.jobFor ticket title target token device).token = true := by
    simp [isCancelled, jobFor, revoked]
  have resumed : w.step (.arrive a) = w.resume _ stage a :=
    arrive_of_fetching (stands.flight.trans h.flight) a
  exact ⟨h.sound.run _, stands, resumed.trans (resume_of_isCancelled covered stage a)⟩

end Call

end Dock

end TitleDock
