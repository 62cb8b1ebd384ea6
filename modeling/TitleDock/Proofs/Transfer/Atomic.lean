import Mathlib.Data.List.Nodup
import TitleDock.Proofs.Transfer.Spared

/-! What a fetch does to the disk. At every stage the tree without the temporary files has only
grown since the fetch was called, so wherever the fetch is broken off, only new folders stay. A
fetch that succeeds stores its content whole at the place to which its output leads. -/

namespace TitleDock

open Files Files.Tree

deriving instance DecidableEq for CallResult

def FetchTarget.folders (settings : TransferSettings) (target : FetchTarget) : List String :=
  ancestors settings.tempDir ++ ancestors (partFolder target.output)

def Stage.cleared (stage : Stage) (t : Tree) : Tree := stage.temporaries.foldl Tree.erase t

/-- Without its temporary files the tree has only grown, and each of them is a file of its own. -/
structure Stage.Intact (found : Tree) (paths : List String) (t : Tree) (stage : Stage) : Prop where
  grown : Grown paths found (stage.cleared t)
  there : ∀ p ∈ stage.temporaries, ∃ content, t.get? p = some (.file content)
  distinct : stage.temporaries.Nodup

namespace Dock

/-- The call under way returns with the last of the inputs, and not before. -/
def ReturnsAfter (d : Dock) : List DockInput → Prop
  | [] => d.isBusy = false
  | i :: inputs => d.isBusy = true ∧ (d.step i).ReturnsAfter inputs

instance decidableReturnsAfter (d : Dock) : (inputs : List DockInput) →
    Decidable (d.ReturnsAfter inputs)
  | [] => inferInstanceAs (Decidable (d.isBusy = false))
  | i :: inputs =>
    have := decidableReturnsAfter (d.step i) inputs
    inferInstanceAs (Decidable (d.isBusy = true ∧ (d.step i).ReturnsAfter inputs))

theorem ReturnsAfter.eq_nil {d : Dock} {inputs : List DockInput} (h : d.ReturnsAfter inputs)
    (free : d.flight = none) : inputs = [] := by
  cases inputs with
  | nil => rfl
  | cons i inputs =>
    have busy := h.1
    rw [isBusy, free] at busy
    cases busy

/-- What a step of a fetch leads to. A spool that is named as the output ends may stand at the
output, and then the content goes with it. -/
inductive Fares (found : Tree) (paths : List String) (job : Job) (stage : Stage) (e : Dock) : Prop
  | waits (next : Stage) (flight : e.flight = some (.fetching job next))
      (intact : next.Intact found paths e.files)
  | fails (f : Fault) (ended : e.flight = none)
      (returned : e.journal.head? = some (.returned job.ticket (.fetched (.error f))))
      (grown : Grown paths found e.files)
  | saves (p : Parcel) (part : Place) (filling : stage = .filling p part) (ended : e.flight = none)
      (returned : e.journal.head? =
        some (.returned job.ticket (.fetched (.ok (p.outcome job.target.output)))))
      (stored : (∃ q, StoredAt paths job.target.output p.content found e.files q) ∨
        p.spool.getLast? = (names job.target.output).getLast? ∧ Grown paths found e.files)

section Steps

variable {d : Dock} {job : Job} {stage : Stage} {found : Tree} {paths : List String}

theorem files_retire (d : Dock) (generation : Nat) : (d.retire generation).files = d.files := by
  rw [retire]
  split <;> rfl

theorem files_finish (d : Dock) (job : Job) (stage : Stage) (r : Except Fault FetchOutcome) :
    (d.finish job stage r).files = stage.cleared d.files := by
  have told := (tells_conclude (((d.clear stage).note .spanClosed).retire job.generation) job
    r).files
  rw [files_retire] at told
  exact told

theorem fares_finish {last : Stage} (h : Grown paths found (last.cleared d.files)) (f : Fault) :
    Fares found paths job stage (d.finish job last (.error f)) :=
  .fails f rfl rfl (by rwa [files_finish])

theorem fares_enter {next : Stage} (h : next.Intact found paths d.files) :
    Fares found paths job stage (d.enter job next) := by
  rw [enter]
  split
  · exact fares_finish h.grown .cancelled
  · exact .waits next rfl h

theorem fares_enter_of_tells {e : Dock} {next : Stage} (told : Tells d e)
    (h : next.Intact found paths d.files) : Fares found paths job stage (e.enter job next) :=
  fares_enter (told.files ▸ h)

theorem intact_of_grown {t : Tree} (none : stage.temporaries = []) (h : Grown paths found t) :
    stage.Intact found paths t := by
  refine ⟨?_, by simp [none], by simp [none]⟩
  rwa [Stage.cleared, none]

theorem fares_accepted (h : Grown paths found d.files) (r : Except Fault String) :
    Fares found paths job stage (d.accepted job r) := by
  cases r with
  | error f => exact fares_finish h _
  | ok id =>
    refine fares_enter_of_tells ?_ (intact_of_grown rfl h)
    exact (tells_record d _ _ _).trans ((tells_transition _ _ _).trans (tells_say _ _))

theorem fares_polled (h : Grown paths found d.files) (id : String) (last : SessionStatus)
    (r : Except Fault Session) : Fares found paths job stage (d.polled job id last r) := by
  rw [polled]
  split
  · exact fares_finish h _
  · dsimp only
    split
    · exact fares_enter (intact_of_grown rfl h)
    · exact fares_enter (intact_of_grown rfl h)
    · refine fares_enter_of_tells ?_ (intact_of_grown rfl h)
      exact (tells_record d _ _ _).trans ((tells_transition _ _ _).trans (tells_say _ _))
    · exact fares_finish h _

theorem fares_opened (h : Grown paths found d.files) (sub : ancestors d.settings.tempDir ⊆ paths)
    (session : Session) (r : Except Fault Download) :
    Fares found paths job stage (d.opened job session r) := by
  cases r with
  | error f => exact fares_finish h _
  | ok download =>
    obtain ⟨g, grown, ⟨context, e, denied, -⟩ | ⟨p, n, made, free, -⟩⟩ :=
      d.files.openSpool_cases d.disk d.settings.tempDir
    · have kept := h.trans (grown.mono sub)
      rw [opened, denied]
      exact fares_finish kept _
    · have proper := ne_nil_of_free free
      rw [opened, made]
      have erased : Grown paths found ((g.put p (.file [])).erase p) := by
        rw [erase_put]
        exact (h.trans (grown.mono sub)).trans (grown_erase free)
      refine fares_enter ⟨erased, ?_, List.nodup_singleton p⟩
      exact List.forall_mem_singleton.2 ⟨[], get?_put_self proper g _⟩

theorem fares_received (session : Session) (r : Reception) (p : Except SystemError Bytes)
    (h : (Stage.receiving session r).Intact found paths d.files) :
    Fares found paths job stage (d.received job session r p) := by
  cases p with
  | error e => exact fares_finish h.grown _
  | ok bytes =>
    have told := tells_report d r.total (r.progress.count bytes.length).2
    rw [← told.files] at h
    rw [received]
    dsimp only
    split
    · exact fares_enter ⟨h.grown, h.there, h.distinct⟩
    · exact fares_enter ⟨h.grown, h.there, h.distinct⟩

theorem intact_keepPayload (session : Session) (r : Reception)
    (h : (Stage.flushing session r).Intact found paths d.files) :
    (Stage.decoding session r.spool r.payload).Intact found paths (d.keepPayload r).files := by
  obtain ⟨content, there⟩ := h.there r.spool (List.mem_singleton_self _)
  have proper := ne_nil_of_not_folder (t := d.files) (p := r.spool) (by simp [there])
  have erased : Grown paths found ((d.files.put r.spool (.file r.payload)).erase r.spool) := by
    rw [erase_put]
    exact h.grown
  rw [(tells_keepPayload d r).files]
  refine ⟨erased, ?_, h.distinct⟩
  exact List.forall_mem_singleton.2 ⟨_, get?_put_self proper _ _⟩

theorem fares_flushed (session : Session) (r : Reception)
    (h : (Stage.flushing session r).Intact found paths d.files) :
    Fares found paths job stage (d.flushed job session r) := by
  have kept := intact_keepPayload session r h
  rw [flushed]
  split
  · exact fares_finish h.grown _
  · rw [reopened]
    split
    · have grown : Grown paths found ((Stage.flushing session r).cleared (d.keepPayload r).files) :=
        kept.grown
      exact fares_finish grown _
    · exact fares_enter kept

theorem fares_decoded (sub : ancestors (partFolder job.target.output) ⊆ paths) (session : Session)
    (spool : Place) (payload : Bytes) (r : Except CodecError Bytes)
    (h : (Stage.decoding session spool payload).Intact found paths d.files) :
    Fares found paths job stage (d.decoded job session spool payload r) := by
  cases r with
  | error e => exact fares_finish h.grown _
  | ok content =>
    obtain ⟨held, there⟩ := h.there spool (List.mem_singleton_self _)
    have grown := (grown_makeFolders d.files d.disk (partFolder job.target.output)).mono sub
    have there' := grown.get?_eq there
    refine fares_enter ⟨h.grown.trans (grown.erase there), ?_, h.distinct⟩
    exact List.forall_mem_singleton.2 ⟨held, there'⟩

theorem fares_placed (p : Parcel) (refused : Option SystemError)
    (h : (Stage.placing p refused).Intact found paths d.files) :
    Fares found paths job stage (d.placed job p refused) := by
  cases refused with
  | some e => exact fares_finish h.grown _
  | none =>
    obtain ⟨held, there⟩ := h.there p.spool (List.mem_singleton_self _)
    rw [placed]
    split
    case h_1 => exact fares_finish h.grown _
    case h_2 part files opened =>
      obtain ⟨free, rfl⟩ := openPart_eq_ok opened
      have proper := ne_nil_of_free free
      have other : p.spool ≠ part := by
        rintro rfl
        rw [there] at free
        cases free
      have erased : Grown paths found (((d.files.put part (.file [])).erase part).erase p.spool) := by
        rw [erase_put]
        exact h.grown.trans ((grown_erase free).erase there)
      refine fares_enter ⟨erased, ?_, by simpa [Stage.temporaries] using other.symm⟩
      · refine List.forall_mem_cons.2 ⟨⟨[], get?_put_self proper _ _⟩, ?_⟩
        exact List.forall_mem_singleton.2 ⟨held, (get?_put_of_ne other _ _).trans there⟩

theorem fares_filled (p : Parcel) (part : Place)
    (h : (Stage.filling p part).Intact found paths d.files) :
    Fares found paths job (.filling p part) (d.filled job p part) := by
  obtain ⟨old, there⟩ := h.there part List.mem_cons_self
  obtain ⟨held, there'⟩ := h.there p.spool (by simp [Stage.temporaries])
  have other : p.spool ≠ part := by
    simpa [Stage.temporaries, eq_comm] using h.distinct
  rw [filled]
  split
  case h_1 => exact fares_finish h.grown _
  case h_2 files moved =>
    obtain ⟨q, stored, last⟩ :
        ∃ q, StoredAt paths job.target.output p.content (d.files.erase part) files q ∧
          q.getLast? = (names job.target.output).getLast? := storedAt_of_storePart there moved
    have spooled : (d.files.erase part).get? p.spool = some (.file held) :=
      (get?_erase_of_ne other _).trans there'
    have grown : Grown paths found ((d.files.erase part).erase p.spool) := h.grown
    refine .saves p part rfl rfl rfl ?_
    rw [files_finish]
    by_cases own : p.spool = q
    · have erased := stored.grown_erase
      rw [← own] at erased
      exact .inr ⟨own ▸ last, grown.trans erased⟩
    · exact .inl ⟨q, grown.storedAt (stored.erase spooled own)⟩

theorem fares_resume (h : stage.Intact found paths d.files)
    (flight : d.flight = some (.fetching job stage)) (temp : ancestors d.settings.tempDir ⊆ paths)
    (sub : ancestors (partFolder job.target.output) ⊆ paths) (a : Arrival) :
    Fares found paths job stage (d.resume job stage a) := by
  unfold resume
  split
  · exact fares_finish h.grown _
  · split
    · exact fares_accepted h.grown _
    · exact fares_enter (intact_of_grown rfl h.grown)
    · exact fares_polled h.grown _ _ _
    · exact fares_opened h.grown temp _ _
    · exact fares_received _ _ _ h
    · exact fares_flushed _ _ h
    · exact fares_decoded sub _ _ _ _ h
    · exact fares_placed _ _ h
    · exact fares_filled _ _ h
    · exact .waits stage flight h

end Steps

/-- A dock on an empty disk that is connected to a device and keeps spools in the given folder. -/
def sample (tempDir : String) : Dock :=
  (new { pollIntervalMs := 10, tempDir, format := "nsp", includeUpdates := true
         includeDlc := false } (.empty [])).run
    [.connect 1 { address := .v4 ⟨10, 0, 0, 5⟩ 8080, name := "Dock", version := "1.0", lastSeen := 0 },
      .arrive (.answer (.titles (.ok [])))]

def sampleFetch (tempDir output : String) : Dock :=
  (sample tempDir).fetch 2
    { titleId := "0100", name := "Game", version := "", size := 0, kind := .other
      extractable := true }
    ⟨output, .n64⟩ "caller"

def sampleArrivals : List DockInput :=
  [.arrive (.answer (.accepted (.ok "op-1"))), .arrive .rested,
    .arrive (.answer (.status (.ok
      { operationId := "op-1", status := .completed, bytesTransferred := 0, totalBytes := 0
        errorMessage := none }))),
    .arrive (.answer (.download (.ok
      { contentLength := some 3
        stream := { bytes := [97, 98, 99], chunk := none, delay := 0, ending := .finished } }))),
    .arrive (.piece (.ok [97, 98, 99])), .arrive (.piece (.ok [])), .arrive .stored,
    .arrive (.decoded (.ok [97, 98, 99])), .arrive .stored, .arrive .stored]

end Dock

end TitleDock
