import TitleDock.Proofs.Transfer.Atomic
import TitleDock.Proofs.Transfer.Fence
import TitleDock.Proofs.Transfer.Turn

/-! The way of a fetch, from its call to where it is now. A passage is the row of stages that lie
behind it, with what was heard at each of them and what was told. While a fetch is under way, the
journal since its call holds the moves of such a passage and the waits of its stages, one for one;
what others ask of the dock in the meantime adds neither. -/

namespace TitleDock

open Files Files.Tree

/-- The way to a stage: what was heard, what was told, and the stages that were passed, all in
order. -/
inductive Passage : List Arrival → List TransferEvent → List Stage → Stage → Prop
  | start : Passage [] [.state .requesting] [] .requesting
  | step {heard : List Arrival} {told moves : List TransferEvent} {passed : List Stage}
      {stage next : Stage} {a : Arrival} (passage : Passage heard told passed stage)
      (leads : stage.Leads a moves next) :
      Passage (heard ++ [a]) (told ++ moves) (passed ++ [stage]) next

namespace Passage

variable {heard : List Arrival} {told : List TransferEvent} {passed : List Stage}

theorem heard_of_requesting (h : Passage heard told passed .requesting) : heard = [] := by
  cases h with
  | start => rfl
  | step passage leads => cases leads

theorem exists_decoding {p : Parcel} {refused : Option SystemError}
    (h : Passage heard told passed (.placing p refused)) :
    ∃ earlier before, Passage earlier told before (.decoding p.session p.spool p.payload) ∧
      heard = earlier ++ [.decoded (.ok p.content)] ∧
        passed = before ++ [.decoding p.session p.spool p.payload] := by
  cases h with
  | step passage leads =>
    cases leads with
    | decoded => exact ⟨_, _, by simpa using passage, rfl, rfl⟩

theorem exists_decoding_of_filling {p : Parcel} {part : Place}
    (h : Passage heard told passed (.filling p part)) :
    ∃ earlier before, Passage earlier told before (.decoding p.session p.spool p.payload) ∧
      heard = earlier ++ [.decoded (.ok p.content), .stored] ∧
        passed = before ++ [.decoding p.session p.spool p.payload, .placing p none] := by
  cases h with
  | step passage leads =>
    cases leads with
    | placed =>
      obtain ⟨earlier, before, decoding, rfl, rfl⟩ := passage.exists_decoding
      exact ⟨earlier, before, by simpa using decoding, by simp, by simp⟩

end Passage

namespace Dock

def hears (d : Dock) : DockInput → Option Arrival
  | .arrive a => if (d.flight.any fun f => f.await.isMetBy a) then some a else none
  | _ => none

/-- What is heard along a run. -/
def heard (d : Dock) : List DockInput → List Arrival
  | [] => []
  | i :: inputs => (d.hears i).toList ++ (d.step i).heard inputs

/-- The call under way is over with the last of the inputs at the earliest. -/
def Lasts (d : Dock) : List DockInput → Prop
  | [] => True
  | i :: inputs => d.isBusy = true ∧ (d.step i).Lasts inputs

instance decidableLasts (d : Dock) : (inputs : List DockInput) → Decidable (d.Lasts inputs)
  | [] => inferInstanceAs (Decidable True)
  | i :: inputs =>
    have := decidableLasts (d.step i) inputs
    inferInstanceAs (Decidable (d.isBusy = true ∧ (d.step i).Lasts inputs))

section Runs

variable {d e : Dock} {inputs : List DockInput} {i : DockInput}

theorem heard_concat (d : Dock) (inputs : List DockInput) (i : DockInput) :
    d.heard (inputs ++ [i]) = d.heard inputs ++ ((d.run inputs).hears i).toList := by
  induction inputs generalizing d with
  | nil => simp [heard, run]
  | cons j inputs ih => simp [heard, run, ih]

theorem Lasts.of_append {more : List DockInput} (h : d.Lasts (inputs ++ more)) : d.Lasts inputs := by
  induction inputs generalizing d with
  | nil => trivial
  | cons j inputs ih => exact ⟨h.1, ih h.2⟩

theorem Lasts.of_concat (h : d.Lasts (inputs ++ [i])) :
    d.Lasts inputs ∧ (d.run inputs).isBusy = true := by
  induction inputs generalizing d with
  | nil => exact ⟨trivial, h.1⟩
  | cons j inputs ih =>
    obtain ⟨lasts, busy⟩ := ih h.2
    exact ⟨⟨h.1, lasts⟩, busy⟩

theorem Lasts.eq_nil (h : d.Lasts inputs) (free : d.isBusy = false) : inputs = [] := by
  cases inputs with
  | nil => rfl
  | cons i inputs =>
    have busy := h.1
    rw [free] at busy
    cases busy

theorem ReturnsAfter.lasts (h : d.ReturnsAfter inputs) :
    d.Lasts inputs ∧ (d.run inputs).isBusy = false := by
  induction inputs generalizing d with
  | nil => exact ⟨trivial, h⟩
  | cons i inputs ih =>
    obtain ⟨lasts, gone⟩ := ih h.2
    exact ⟨⟨h.1, lasts⟩, gone⟩

end Runs

/-- A fetch that was called at one moment is at a stage at another. -/
structure OnTheWay (d : Dock) (job : Job) (heard : List Arrival) (stage : Stage) (e : Dock) :
    Prop where
  sound : e.Sound
  settings : e.settings = d.settings
  flight : e.flight = some (.fetching job stage)
  passage : ∃ told passed, Passage heard told passed stage ∧
    Adds d e told ((passed ++ [stage]).map (Stage.await job))
  intact : stage.Intact d.files (job.target.folders d.settings) e.files
  /-- What the codec is given is what the spool holds. -/
  held : ∀ session spool payload, stage = .decoding session spool payload →
    e.files.get? spool = some (.file payload)

section OnTheWay

variable {d e : Dock} {job : Job} {stage : Stage} {heard : List Arrival}

theorem hears_eq (flight : e.flight = some (.fetching job stage)) (a : Arrival) :
    e.hears (.arrive a) = if (stage.await job).isMetBy a then some a else none := by
  simp [hears, flight, Flight.await]

theorem adds_step_of_isBusy (busy : e.isBusy = true) {i : DockInput} (still : ∀ a, i ≠ .arrive a) :
    Adds e (e.step i) [] [] := by
  cases i with
  | connect ticket device =>
    rw [step, connect_of_isBusy busy]
    exact adds_of_note (n := .returned ticket _) rfl
  | fetch ticket title target token =>
    rw [step, fetch_of_isBusy busy]
    exact adds_of_note (n := .returned ticket _) rfl
  | disconnect => exact ⟨[_, _], rfl, rfl, rfl⟩
  | cancel token => exact adds_of_eq rfl
  | disk disk => exact adds_of_eq rfl
  | arrive a => exact absurd rfl (still a)

theorem files_of_flushed (live : e.isCancelled job.token = false) {session : Session} {r : Reception}
    (busy : (e.resume job (.flushing session r) .stored).isBusy = true) :
    (e.resume job (.flushing session r) .stored).files = e.files.put r.spool (.file r.payload) := by
  have kept := tells_keepPayload e r
  have resumed : e.resume job (.flushing session r) .stored = e.flushed job session r := by
    unfold resume
    rw [if_neg (by simp [live])]
  rw [resumed, flushed] at busy ⊢
  split
  case h_1 denied =>
    rw [denied] at busy
    cases busy
  case h_2 flushed =>
    rw [flushed, reopened] at busy
    rw [reopened]
    split
    case h_1 denied =>
      rw [denied] at busy
      cases busy
    case h_2 =>
      have live' := ((voices_keepPayload e r).isCancelled job.token).trans live
      rw [enter_of_not_isCancelled live']
      exact kept.files

theorem OnTheWay.aside (h : OnTheWay d job heard stage e) {i : DockInput}
    (still : ∀ a, i ≠ .arrive a) : OnTheWay d job heard stage (e.step i) := by
  have busy := isBusy_of_flight h.flight
  obtain ⟨flight, files, settings⟩ := step_of_isBusy busy still
  obtain ⟨told, passed, passage, notes⟩ := h.passage
  have notes' := notes.trans (adds_step_of_isBusy busy still)
  refine ⟨h.sound.step i, settings.trans h.settings, flight.trans h.flight,
    ⟨told, passed, passage, by simpa using notes'⟩, files ▸ h.intact, ?_⟩
  rw [files]
  exact h.held

theorem OnTheWay.fares (h : OnTheWay d job heard stage e) (a : Arrival) :
    Fares d.files (job.target.folders d.settings) job stage (e.resume job stage a) :=
  fares_resume h.intact h.flight (by rw [h.settings]; exact List.subset_append_left _ _)
    (List.subset_append_right _ _) a

theorem OnTheWay.arrive (h : OnTheWay d job heard stage e) {a : Arrival}
    (busy : (e.step (.arrive a)).isBusy = true) :
    ∃ next, OnTheWay d job (heard ++ (e.hears (.arrive a)).toList) next (e.step (.arrive a)) := by
  have resumed : e.step (.arrive a) = e.resume job stage a := arrive_of_fetching h.flight a
  rw [hears_eq h.flight]
  rw [resumed] at busy ⊢
  have live : e.isCancelled job.token = false := by
    by_contra revoked
    rw [resume_of_isCancelled (by simpa using revoked)] at busy
    cases busy
  have sound := h.sound.resume h.flight a
  have settings := (stays_resume e job stage a).settings.trans h.settings
  have turn := turn_resume (h.sound.serves h.flight live).1.generation live stage a
  cases turn with
  | aside deaf same =>
    rw [same]
    exact ⟨stage, by simpa [deaf] using h⟩
  | closes closes gone =>
    rw [isBusy, gone] at busy
    cases busy
  | @leads moves next leads flight adds =>
    have met := leads.isMetBy job
    have intact :
        next.Intact d.files (job.target.folders d.settings) (e.resume job stage a).files := by
      cases h.fares a with
      | waits other flight' intact' =>
        obtain rfl : other = next := by simpa [flight] using flight'.symm
        exact intact'
      | fails f gone => simp [flight] at gone
      | saves p part filling gone => simp [flight] at gone
    obtain ⟨told, passed, passage, notes⟩ := h.passage
    refine ⟨next, sound, settings, flight, ?_, intact, ?_⟩
    · refine ⟨told ++ moves, passed ++ [stage], ?_, by simpa using notes.trans adds⟩
      simpa [met] using passage.step leads
    · rintro session spool payload rfl
      cases leads with
      | flushed _ r =>
        obtain ⟨content, there⟩ := h.intact.there r.spool (List.mem_singleton_self _)
        have proper := ne_nil_of_not_folder (t := e.files) (p := r.spool) (by simp [there])
        rw [files_of_flushed live busy]
        exact get?_put_self proper _ _

theorem Lasts.isBusy {inputs : List DockInput} (h : e.Lasts inputs)
    (busy : (e.run inputs).isBusy = true) : e.isBusy = true := by
  cases inputs with
  | nil => exact busy
  | cons i inputs => exact h.1

theorem OnTheWay.run {inputs : List DockInput} (h : OnTheWay d job heard stage e)
    (lasts : e.Lasts inputs) (busy : (e.run inputs).isBusy = true) :
    ∃ next, OnTheWay d job (heard ++ e.heard inputs) next (e.run inputs) := by
  induction inputs generalizing heard stage e with
  | nil =>
    rw [Dock.heard, List.append_nil]
    exact ⟨stage, h⟩
  | cons i inputs ih =>
    have going := lasts.2.isBusy busy
    rw [Dock.heard, ← List.append_assoc]
    by_cases arrives : ∃ a, i = .arrive a
    · obtain ⟨a, rfl⟩ := arrives
      obtain ⟨next, h'⟩ := h.arrive going
      exact ih h' lasts.2 busy
    · have h' := h.aside fun a same => arrives ⟨a, same⟩
      have deaf : e.hears i = none := by
        cases i with
        | arrive a => exact absurd ⟨a, rfl⟩ arrives
        | connect | fetch | disconnect | cancel | disk => rfl
      rw [deaf, Option.toList_none, List.append_nil]
      exact ih h' lasts.2 busy

theorem onTheWay_fetch (sound : d.Sound) (free : d.isBusy = false) {device : Device}
    (connected : d.device = some device) {ticket : Nat} {title : Title} {target : FetchTarget}
    {token : String} (busy : (d.fetch ticket title target token).isBusy = true) :
    OnTheWay d (d.jobFor ticket title target token device) [] .requesting
      (d.fetch ticket title target token) := by
  have sound' := sound.fetch ticket title target token
  obtain ⟨e, begins, voiced, files, settings, -⟩ :=
    fetch_of_free free connected ticket title target token
  rw [begins] at busy sound' ⊢
  by_cases live : e.isCancelled (d.jobFor ticket title target token device).token = true
  · rw [enter_of_isCancelled live] at busy
    cases busy
  · rw [enter_of_not_isCancelled (by simpa using live)] at sound' ⊢
    have waits := adds_of_note (d := e) (n := .awaits _)
      (e := e.wait (.fetching (d.jobFor ticket title target token device) .requesting)) rfl
    refine ⟨sound', settings, rfl, ⟨_, [], .start, voiced.adds.trans waits⟩, ?_, by simp⟩
    exact intact_of_grown rfl (by
      rw [show Dock.files (e.wait _) = d.files from files]
      exact .refl _ _)

/-- What a fetch has come to that was called and has lasted: it is on its way, or it was cancelled
when it was called, or it is over with the last thing that arrived, cancelled before or closed by
what it heard. -/
inductive Fetched (d : Dock) (job : Job) (f : Dock) (inputs : List DockInput) : Prop
  | underWay (stage : Stage) (way : OnTheWay d job (f.heard inputs) stage (f.run inputs))
  | refused (silent : inputs = []) (files : f.files = d.files)
      (returned : f.journal.head? = some (.returned job.ticket (.fetched (.error .cancelled))))
      (adds : Adds d f [.state .requesting, .state (.closing (.error .cancelled))] [])
  | revoked {earlier : List DockInput} {a : Arrival} (stage : Stage)
      (split : inputs = earlier ++ [.arrive a])
      (way : OnTheWay d job (f.heard earlier) stage (f.run earlier))
      (revoked : (f.run earlier).isCancelled job.token = true)
      (ended : f.run inputs = (f.run earlier).finish job stage (.error .cancelled))
  | closed {earlier : List DockInput} {a : Arrival} {stage : Stage} {r : Except Fault FetchOutcome}
      (split : inputs = earlier ++ [.arrive a])
      (way : OnTheWay d job (f.heard earlier) stage (f.run earlier))
      (closes : stage.Closes (f.run earlier) job a r)
      (fares : Fares d.files (job.target.folders d.settings) job stage (f.run inputs))
      (returned : (f.run inputs).journal.head? = some (.returned job.ticket (.fetched r)))
      (adds : Adds (f.run earlier) (f.run inputs) [.state (.closing r)] [])

theorem OnTheWay.fetched {f : Dock} {earlier : List DockInput} {i : DockInput}
    (h : OnTheWay d job (f.heard earlier) stage (f.run earlier))
    (gone : ((f.run earlier).step i).isBusy = false) : Fetched d job f (earlier ++ [i]) := by
  by_cases arrives : ∃ a, i = .arrive a
  · obtain ⟨a, rfl⟩ := arrives
    have resumed : f.run (earlier ++ [.arrive a]) = (f.run earlier).resume job stage a := by
      rw [run_concat]
      exact arrive_of_fetching h.flight a
    rw [← run_concat, resumed] at gone
    cases live : (f.run earlier).isCancelled job.token with
    | true => exact .revoked stage rfl h live (resumed.trans (resume_of_isCancelled live stage a))
    | false =>
      have turn := turn_resume (h.sound.serves h.flight live).1.generation live stage a
      cases turn with
      | aside deaf same => simp [same, isBusy, h.flight] at gone
      | leads leads flight => simp [isBusy, flight] at gone
      | closes closes flight returned adds =>
        have fares := h.fares a
        rw [← resumed] at returned adds fares
        exact .closed rfl h closes fares returned adds
  · have busy := isBusy_of_flight (h.aside fun a same => arrives ⟨a, same⟩).flight
    rw [busy] at gone
    cases gone

theorem lasts_of_bare (free : d.isBusy = false) (bare : d.device = none) {ticket : Nat}
    {title : Title} {target : FetchTarget} {token : String} {inputs : List DockInput}
    (lasts : (d.fetch ticket title target token).Lasts inputs) :
    inputs = [] ∧ d.fetch ticket title target token =
      d.note (.returned ticket (.fetched (.error .notConnected))) := by
  have refused := fetch_of_bare free bare ticket title target token
  rw [refused] at lasts
  exact ⟨lasts.eq_nil free, refused⟩

theorem fetched_run (sound : d.Sound) (free : d.isBusy = false) {device : Device}
    (connected : d.device = some device) {ticket : Nat} {title : Title} {target : FetchTarget}
    {token : String} {inputs : List DockInput}
    (lasts : (d.fetch ticket title target token).Lasts inputs) :
    Fetched d (d.jobFor ticket title target token device) (d.fetch ticket title target token)
      inputs := by
  let job := d.jobFor ticket title target token device
  let f := d.fetch ticket title target token
  have under {inputs : List DockInput} (lasts : f.Lasts inputs)
      (busy : (f.run inputs).isBusy = true) :
      ∃ stage, OnTheWay d job (f.heard inputs) stage (f.run inputs) :=
    (onTheWay_fetch sound free connected (lasts.isBusy busy)).run lasts busy
  cases busy : (f.run inputs).isBusy with
  | true =>
    obtain ⟨stage, way⟩ := under lasts busy
    exact .underWay stage way
  | false =>
    rcases List.eq_nil_or_concat inputs with rfl | ⟨earlier, i, rfl⟩
    · obtain ⟨e, begins, voiced, files, -⟩ := fetch_of_free free connected ticket title target token
      have revoked : e.isCancelled job.token = true := by
        rw [show f.run [] = _ from begins] at busy
        exact isCancelled_of_isBusy_enter busy
      have ended : Adds e (e.finish job .requesting (.error .cancelled)) _ [] :=
        adds_finish voiced.generation .requesting (.error .cancelled)
      rw [begins, enter_of_isCancelled revoked]
      refine .refused rfl ?_ rfl (voiced.adds.trans ended)
      rw [files_finish]
      exact files
    · rw [List.concat_eq_append] at lasts busy ⊢
      obtain ⟨lasts', going⟩ := lasts.of_concat
      obtain ⟨stage, way⟩ := under lasts' going
      rw [run_concat] at busy
      exact way.fetched busy

theorem Fetched.exists_returned {f : Dock} {inputs : List DockInput} (h : Fetched d job f inputs)
    (gone : (f.run inputs).isBusy = false) :
    ∃ r, (f.run inputs).journal.head? = some (.returned job.ticket (.fetched r)) := by
  cases h with
  | underWay stage way =>
    rw [isBusy_of_flight way.flight] at gone
    cases gone
  | refused silent _ returned =>
    subst silent
    exact ⟨_, returned⟩
  | revoked stage split way _ ended => exact ⟨.error .cancelled, ended ▸ rfl⟩
  | closed split way closes fares returned => exact ⟨_, returned⟩

theorem Fetched.saved {f : Dock} {inputs : List DockInput} (h : Fetched d job f inputs)
    (gone : (f.run inputs).isBusy = false) {ticket : Nat} {outcome : FetchOutcome}
    (returned : (f.run inputs).journal.head? = some (.returned ticket (.fetched (.ok outcome)))) :
    ∃ earlier p part, inputs = earlier ++ [.arrive .stored] ∧
      OnTheWay d job (f.heard earlier) (.filling p part) (f.run earlier) ∧
        f.heard inputs = f.heard earlier ++ [.stored] ∧
          Adds (f.run earlier) (f.run inputs) [.state .succeeded] [] ∧
            outcome = p.outcome job.target.output ∧
              Fares d.files (job.target.folders d.settings) job (.filling p part)
                (f.run inputs) := by
  cases h with
  | underWay stage way =>
    rw [isBusy_of_flight way.flight] at gone
    cases gone
  | refused silent _ cancelled =>
    subst silent
    rw [show f.run [] = f from rfl, cancelled] at returned
    cases returned
  | revoked stage split way _ ended =>
    rw [ended] at returned
    cases returned
  | @closed earlier a stage r split way closes fares returned' adds =>
    have heard : f.heard inputs = f.heard earlier ++ [a] := by
      rw [split, heard_concat, hears_eq way.flight, if_pos closes.isMetBy]
      rfl
    have same := returned'.symm.trans returned
    cases closes with
    | @saved p part _ _ =>
      obtain ⟨-, rfl⟩ : _ = ticket ∧ _ = outcome := by simpa using same
      exact ⟨earlier, p, part, split, way, heard, adds, rfl, fares⟩
    | _ => simp at same

theorem Fetched.grown {f : Dock} {inputs : List DockInput} (h : Fetched d job f inputs)
    (gone : (f.run inputs).isBusy = false) {ticket : Nat} {fault : Fault}
    (returned : (f.run inputs).journal.head? = some (.returned ticket (.fetched (.error fault)))) :
    Grown (job.target.folders d.settings) d.files (f.run inputs).files := by
  cases h with
  | underWay stage way =>
    rw [isBusy_of_flight way.flight] at gone
    cases gone
  | refused silent files =>
    subst silent
    rw [show f.run [] = f from rfl, files]
    exact .refl _ _
  | revoked stage split way _ ended =>
    rw [ended, files_finish]
    exact way.intact.grown
  | closed split way closes fares =>
    cases fares with
    | waits next flight =>
      rw [isBusy_of_flight flight] at gone
      cases gone
    | fails f ended returned' grown => exact grown
    | saves p part filling ended returned' =>
      rw [returned] at returned'
      cases returned'

theorem Hushed.adds {f : Dock} (h : Hushed d f) : Adds d f [] [] := by
  have silent {n : Note} (quiet : n.IsQuiet) : n.move? = none ∧ n.await? = none := by
    rcases n with (s | _ | _ | _) | _ | _ | _ | _
    case event.state =>
      obtain rfl : s = .idle := quiet
      exact ⟨rfl, rfl⟩
    all_goals first | exact ⟨rfl, rfl⟩ | exact quiet.elim
  obtain ⟨notes, split, quiet⟩ := h.notes
  refine ⟨notes, split, List.filterMap_eq_nil_iff.2 fun n member => ?_,
    List.filterMap_eq_nil_iff.2 fun n member => ?_⟩
  · exact (silent (quiet n (List.mem_reverse.1 member))).1
  · exact (silent (quiet n (List.mem_reverse.1 member))).2

theorem exists_adds_finish (e : Dock) (job : Job) (stage : Stage) (r : Except Fault FetchOutcome) :
    ∃ last, Adds e (e.finish job stage r) last [] ∧ ∀ m ∈ last, ∃ r, m = .state (.closing r) := by
  by_cases current : e.generation = job.generation
  · exact ⟨_, adds_finish current stage r, by simp⟩
  · exact ⟨[], (hushed_finish current r).adds, by simp⟩

theorem Fetched.adds {f : Dock} {inputs : List DockInput} (h : Fetched d job f inputs) :
    ∃ heard rest told passed stage last waits, Passage heard told passed stage ∧
      f.heard inputs = heard ++ rest ∧ Adds d (f.run inputs) (told ++ last) waits ∧
        waits ⊆ (passed ++ [stage]).map (Stage.await job) ∧
          ∀ m ∈ last, ∃ r, m = .state (.closing r) := by
  cases h with
  | underWay stage way =>
    obtain ⟨told, passed, passage, adds⟩ := way.passage
    exact ⟨_, [], told, passed, stage, [], _, passage, by simp, by simpa using adds,
      List.Subset.refl _, by simp⟩
  | refused silent files returned adds =>
    subst silent
    exact ⟨[], [], _, [], _, _, [], .start, rfl, adds, List.nil_subset _, by simp⟩
  | @revoked earlier a stage split way _ ended =>
    obtain ⟨told, passed, passage, adds⟩ := way.passage
    obtain ⟨last, adds', closing⟩ := exists_adds_finish (f.run earlier) job stage (.error .cancelled)
    rw [← ended] at adds'
    rw [split, heard_concat, ← split]
    exact ⟨_, _, told, passed, stage, last, _, passage, rfl, adds.trans adds', by simp, closing⟩
  | @closed earlier a stage r split way closes fares returned adds' =>
    obtain ⟨told, passed, passage, adds⟩ := way.passage
    rw [split, heard_concat, ← split]
    exact ⟨_, _, told, passed, stage, _, _, passage, rfl, adds.trans adds', by simp, by simp⟩

end OnTheWay

end Dock

end TitleDock
