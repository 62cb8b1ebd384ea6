import TitleDock.Proofs.Transfer.Passage

/-! What a fetch leaves behind when it is over. If it failed, no file has come or gone and new
folders are all that is left of it. If it succeeded, its output holds the content from the codec as
well, unless the spool was given the very name of the output: then the content went with the spool.
-/

namespace TitleDock

open Files Files.Tree

namespace Dock

/-- None of the disks of a run draws the last name of the path for a spool. -/
def Avoids (d : Dock) (inputs : List DockInput) (path : String) : Prop :=
  d.disk.Avoids path ∧ ∀ disk, .disk disk ∈ inputs → disk.Avoids path

/-- The spools that there are and that the disk may draw are not named as the path ends. -/
structure SpoolApart (d : Dock) (path : String) : Prop where
  disk : d.disk.Avoids path
  stage : ∀ job stage, d.flight = some (.fetching job stage) → stage.Apart path

section SpoolApart

variable {d : Dock} {path : String} {inputs : List DockInput}

theorem SpoolApart.fetch (h : d.SpoolApart path) (ticket : Nat) (title : Title)
    (target : FetchTarget) (token : String) :
    (d.fetch ticket title target token).SpoolApart path := by
  obtain ⟨fault, refused⟩ | ⟨device, e, begins, -, -, -, disk⟩ :=
    fetch_cases d ticket title target token
  · rw [refused]
    exact ⟨h.disk, h.stage⟩
  · rw [begins]
    refine ⟨by rw [(stays_enter e _ _).disk, disk]; exact h.disk, fun job stage flight => ?_⟩
    rw [enter] at flight
    split at flight
    · cases flight
    · obtain ⟨-, rfl⟩ : _ = job ∧ Stage.requesting = stage := by simpa using flight
      rintro p ⟨⟩

theorem SpoolApart.arrive (h : d.SpoolApart path) (a : Arrival) : (d.arrive a).SpoolApart path := by
  refine ⟨by rw [(spares_arrive d a).disk]; exact h.disk, fun job stage flight => ?_⟩
  rw [arrive.eq_def] at flight
  split at flight
  case h_1 ticket device generation r _ => cases r <;> cases flight
  case h_2 job' stage' held =>
    cases proceeds_resume d job' stage' _ with
    | aside same => exact h.stage job stage (same ▸ flight)
    | enters works next same apart =>
      rw [same, enter] at flight
      split at flight
      · cases flight
      · obtain ⟨-, rfl⟩ : job' = job ∧ next = stage := by simpa using flight
        exact apart path h.disk (h.stage job' stage' held)
    | finishes works last r same =>
      rw [same] at flight
      cases flight
  case h_3 => exact h.stage job stage flight

theorem SpoolApart.step (h : d.SpoolApart path) {i : DockInput}
    (drawn : ∀ disk, i = .disk disk → disk.Avoids path) : (d.step i).SpoolApart path := by
  cases i with
  | connect ticket device =>
    refine ⟨by rw [Dock.step, (spares_connect d ticket device).disk]; exact h.disk,
      fun job stage flight => ?_⟩
    rw [Dock.step, connect] at flight
    split at flight
    · exact h.stage job stage flight
    · cases flight
  | fetch ticket title target token => exact h.fetch ticket title target token
  | disconnect => exact ⟨h.disk, h.stage⟩
  | cancel token => exact ⟨h.disk, h.stage⟩
  | disk disk => exact ⟨drawn disk rfl, h.stage⟩
  | arrive a => exact h.arrive a

theorem SpoolApart.run (h : d.SpoolApart path)
    (drawn : ∀ disk, .disk disk ∈ inputs → disk.Avoids path) : (d.run inputs).SpoolApart path := by
  induction inputs generalizing d with
  | nil => exact h
  | cons i inputs ih =>
    refine ih (h.step fun disk same => ?_) fun disk later => drawn disk (List.mem_cons_of_mem _ later)
    exact drawn disk (same ▸ List.mem_cons_self)

theorem Avoids.spoolApart (h : d.Avoids inputs path) (free : d.isBusy = false) (ticket : Nat)
    (title : Title) (target : FetchTarget) (token : String) {earlier : List DockInput}
    (sub : earlier ⊆ inputs) :
    ((d.fetch ticket title target token).run earlier).SpoolApart path := by
  have none : d.flight = none := flight_of_not_isBusy (by simp [free])
  have alone : d.SpoolApart path := ⟨h.1, by simp [none]⟩
  exact (alone.fetch ticket title target token).run fun disk member => h.2 disk (sub member)

end SpoolApart

/-- The content stands where the output leads, unless a disk drew the name of the output for the
spool. -/
def Stores (d f : Dock) (inputs : List DockInput) (target : FetchTarget) (content : Bytes) : Prop :=
  (∃ p, StoredAt (target.folders d.settings) target.output content d.files (f.run inputs).files p) ∨
    ¬ d.Avoids inputs target.output ∧
      Grown (target.folders d.settings) d.files (f.run inputs).files

def Leaves (d f : Dock) (inputs : List DockInput) (target : FetchTarget) :
    Except Fault FetchOutcome → Prop
  | .error _ => Grown (target.folders d.settings) d.files (f.run inputs).files
  | .ok _ => ∃ heard content,
    f.heard inputs = heard ++ [.decoded (.ok content), .stored, .stored] ∧
      Stores d f inputs target content

section Leaves

variable {d : Dock} {device : Device} {ticket : Nat} {title : Title} {target : FetchTarget}
  {token : String} {inputs : List DockInput} {outcome : FetchOutcome}

theorem Fetched.stores (free : d.isBusy = false) :
    let f := d.fetch ticket title target token
    let job := d.jobFor ticket title target token device
    Fetched d job f inputs → (f.run inputs).isBusy = false →
      (f.run inputs).journal.head? = some (.returned ticket (.fetched (.ok outcome))) →
        ∃ earlier p part, OnTheWay d job (f.heard earlier) (.filling p part) (f.run earlier) ∧
          f.heard inputs = f.heard earlier ++ [.stored] ∧
            Adds (f.run earlier) (f.run inputs) [.state .succeeded] [] ∧
              outcome = p.outcome target.output ∧ Stores d f inputs target p.content := by
  intro f job fetched gone returned
  obtain ⟨earlier, p, part, split, way, came, adds, rfl, fares⟩ := fetched.saved gone returned
  refine ⟨earlier, p, part, way, came, adds, rfl, ?_⟩
  cases fares with
  | waits next flight =>
    rw [isBusy_of_flight flight] at gone
    cases gone
  | fails fault ended returned' =>
    rw [returned] at returned'
    cases returned'
  | saves p' part' filling ended returned' stored =>
    obtain ⟨rfl, -⟩ : p = p' ∧ part = part' := by simpa using filling
    refine stored.imp_right fun ⟨same, grown⟩ => ⟨fun avoids => ?_, grown⟩
    have apart : ((d.fetch ticket title target token).run earlier).SpoolApart target.output :=
      avoids.spoolApart free ticket title target token (split ▸ List.subset_append_left _ _)
    exact apart.stage _ _ way.flight p.spool rfl same

theorem exists_leaves (sound : d.Sound)
    (returns : if d.isBusy then inputs = []
      else (d.fetch ticket title target token).ReturnsAfter inputs) :
    let f := d.fetch ticket title target token
    ∃ r, (f.run inputs).journal.head? = some (.returned ticket (.fetched r)) ∧
      Leaves d f inputs target r := by
  intro f
  split at returns
  case isTrue busy =>
    subst returns
    have refused : f = d.note (.returned ticket (.fetched (.error .busy))) :=
      fetch_of_isBusy busy ticket title target token
    rw [refused]
    exact ⟨.error .busy, rfl, .refl _ _⟩
  case isFalse free =>
    have free : d.isBusy = false := by simpa using free
    obtain ⟨lasts, gone⟩ := returns.lasts
    cases connected : d.device with
    | none =>
      obtain ⟨rfl, refused⟩ := lasts_of_bare free connected lasts
      rw [show f = _ from refused]
      exact ⟨.error .notConnected, rfl, .refl _ _⟩
    | some device =>
      have fetched := fetched_run sound free connected lasts
      obtain ⟨r, returned⟩ := fetched.exists_returned gone
      cases r with
      | error fault => exact ⟨_, returned, fetched.grown gone returned⟩
      | ok outcome =>
        obtain ⟨earlier, p, part, way, came, -, -, stores⟩ :=
          Fetched.stores free fetched gone returned
        obtain ⟨told, passed, passage, -⟩ := way.passage
        obtain ⟨heard, -, -, before, -⟩ := passage.exists_decoding_of_filling
        exact ⟨_, returned, heard, p.content, by simp [f, came, before], stores⟩

end Leaves

/-- Whatever a fetch finds on the disk and wherever it is broken off: if it fails, no file has come,
gone or changed, and new are only folders, to which the paths of its folders lead. So its output
leads where it led and to what was there, or else to nothing or to one of these folders. If it
succeeds, the same holds of all places but one, and that one is where its output leads and holds the
content from the codec, unless a disk drew the name of the output for the spool. -/
theorem fetch_leaves_no_trace (settings : TransferSettings) (files : Tree)
    (before : List DockInput) (ticket : Nat) (title : Title) (target : FetchTarget)
    (token : String) (inputs : List DockInput) :
    let d := (new settings files).run before
    let f := d.fetch ticket title target token
    let e := f.run inputs
    let paths := target.folders d.settings
    (if d.isBusy then inputs = [] else f.ReturnsAfter inputs) →
      ∃ r, e.journal.head? = some (.returned ticket (.fetched r)) ∧
        match r with
        | .error _ =>
          (∀ p content, e.files.get? p = some (.file content) ↔
            d.files.get? p = some (.file content)) ∧
          (∀ p, Kept paths d.files e.files p) ∧
          (∀ p n, d.files.locate target.output = .ok p → d.files.get? p = some n →
            e.files.locate target.output = .ok p ∧ e.files.get? p = some n) ∧
          ∀ p, e.files.locate target.output = .ok p → e.files.get? p = d.files.get? p ∨
            d.files.get? p = none ∧ e.files.get? p = some .folder
        | .ok _ => ∃ heard content p,
          f.heard inputs = heard ++ [.decoded (.ok content), .stored, .stored] ∧
          (∀ q, q ≠ p → (∀ held, e.files.get? q = some (.file held) ↔
            d.files.get? q = some (.file held)) ∧ Kept paths d.files e.files q) ∧
          (d.Avoids inputs target.output →
            e.files.locate target.output = .ok p ∧ e.files.get? p = some (.file content)) := by
  intro d f e paths returns
  obtain ⟨r, returned, left⟩ := exists_leaves ((sound_new settings files).run before) returns
  refine ⟨r, returned, ?_⟩
  cases r with
  | error fault =>
    have grown : Grown paths d.files e.files := left
    refine ⟨fun p content => (grown.places p).file_iff, grown.places, ?_, ?_⟩
    · intro p n leads there
      have there' := grown.get?_eq there
      exact ⟨grown.keepsFolders.locate (fun _ => by rw [there']; rfl) leads, there'⟩
    · intro p _
      exact (grown.places p).imp_right fun made => ⟨made.1, made.2.1⟩
  | ok outcome =>
    obtain ⟨heard, content, came, ⟨p, stored⟩ | ⟨drawn, grown⟩⟩ := left
    · refine ⟨heard, content, p, came, fun q other => ?_, fun _ => ⟨stored.leads, stored.held⟩⟩
      exact ⟨fun held => (stored.others q other).file_iff, stored.others q other⟩
    · refine ⟨heard, content, [], came, fun q _ => ?_, fun avoids => absurd avoids drawn⟩
      exact ⟨fun held => (grown.places q).file_iff, grown.places q⟩

/-- The output lies in a folder that is not there yet. -/
theorem sample_fetch_leaves_no_trace :
    let e := (sampleFetch "spool" "games/one").run sampleArrivals
    (sampleFetch "spool" "games/one").ReturnsAfter sampleArrivals ∧
      (sample "spool").Avoids sampleArrivals "games/one" ∧
      ∃ p, e.files.locate "games/one" = .ok p ∧ e.files.get? p = some (.file [97, 98, 99]) ∧
        ∀ q, q ≠ p → ∀ held, e.files.get? q = some (.file held) ↔
          (sample "spool").files.get? q = some (.file held) := by
  intro e
  have returns : if (sample "spool").isBusy then sampleArrivals = []
      else (sampleFetch "spool" "games/one").ReturnsAfter sampleArrivals := by decide +kernel
  have avoids : (sample "spool").Avoids sampleArrivals "games/one" :=
    ⟨Files.Disk.avoids _ (by decide), by simp [sampleArrivals]⟩
  have succeeded : (e.journal.head?.bind Note.result?).map (·.2.fault?) = some none := by
    decide +kernel
  have read : e.files.readAt? "games/one" = some [97, 98, 99] := by decide +kernel
  obtain ⟨r, returned, left⟩ := fetch_leaves_no_trace _ (.empty []) _ 2 _ ⟨"games/one", .n64⟩
    "caller" sampleArrivals returns
  have told := congrArg (fun n? => (n?.bind Note.result?).map (·.2.fault?)) returned
  refine ⟨returns, avoids, ?_⟩
  cases r with
  | error fault => cases succeeded.symm.trans told
  | ok outcome =>
    obtain ⟨heard, content, p, -, others, stored⟩ := left
    obtain ⟨leads, held⟩ := stored avoids
    obtain rfl := Option.some.inj (read.symm.trans (readAt?_eq leads held))
    exact ⟨p, leads, held, fun q other => (others q other).1⟩

/-- Nothing is at the output, which is also the folder for spools. The fetch fails, and then a
folder is there. Where the disk draws the name of the output for the spool, the fetch succeeds, and
nothing is there. -/
theorem output_among_temporaries :
    (let e := (sampleFetch "out" "out").run sampleArrivals
    (sample "out").files.existsAt "out" = false ∧
        (sampleFetch "out" "out").ReturnsAfter sampleArrivals ∧
        e.result? 2 = some (.fetched (.error (.ofSystem "failed to write output" .isDirectory))) ∧
        e.files.isFolderAt "out" = true) ∧
      let e := (sampleFetch "." "nxlink-AAAAAA.nsp").run sampleArrivals
      (sampleFetch "." "nxlink-AAAAAA.nsp").ReturnsAfter sampleArrivals ∧
        (e.result? 2).map CallResult.fault? = some none ∧
        e.files.existsAt "nxlink-AAAAAA.nsp" = false := by
  decide +kernel

end Dock

end TitleDock
