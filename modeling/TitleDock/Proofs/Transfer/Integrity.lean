import TitleDock.Proofs.Stream.Reading
import TitleDock.Proofs.Transfer.Traces

/-! What a fetch makes of the bytes that come in. The pieces of a download, put together, are the
payload that the spool holds and that the codec is given; the content that comes back is what the
output holds. Meanwhile the progress that is told rises to the length of the payload. What carries
this along the way of a fetch is that each stage of the download knows the pieces and the counts
that lie behind it. -/

namespace TitleDock

open Files Files.Tree

def Arrival.ofPiece (bytes : Bytes) : Arrival := .piece (.ok bytes)

def TransferEvent.count? : TransferEvent → Option (Nat × Nat)
  | .downloadProgress n total => some (n, total)
  | _ => none

/-- The download of a completed extraction, as far as it was heard and told: the report, the answer
of the device, the pieces, none of them empty, and the counts with their total. -/
structure Downloaded (heard : List Arrival) (told : List TransferEvent) (session : Session)
    (download : Download) (pieces : List Bytes) (counts : List Nat) : Prop where
  completed : session.status = .completed
  heard : ∃ earlier, heard = earlier ++
    [.answer (.status (.ok session)), .answer (.download (.ok download))] ++
      pieces.map Arrival.ofPiece
  full : [] ∉ pieces
  told : told.filterMap TransferEvent.count? =
    counts.map (·, session.payloadSize download.contentLength)

/-- The download has come to its end, and the counts have risen to the length of the payload. -/
def DownloadEnded (heard : List Arrival) (told : List TransferEvent) (session : Session)
    (payload : Bytes) : Prop :=
  ∃ earlier download pieces counts, heard = earlier ++ [.ofPiece []] ∧
    Downloaded earlier told session download pieces counts ∧ payload = pieces.flatten ∧
      counts.Pairwise (· < ·) ∧ counts.getLast? = some payload.length

namespace Stage

def Follows (heard : List Arrival) (told : List TransferEvent) : Stage → Prop
  | .requesting | .resting .. | .polling .. => told.filterMap TransferEvent.count? = []
  | .opening session => told.filterMap TransferEvent.count? = [] ∧ session.status = .completed ∧
      ∃ earlier, heard = earlier ++ [.answer (.status (.ok session))]
  | .receiving session r => ∃ download counts,
      Downloaded heard told session download r.pieces.reverse counts ∧
        r.total = session.payloadSize download.contentLength ∧ r.progress.Reports counts ∧
          r.progress.bytesRead = r.payload.length
  | .flushing session r => DownloadEnded heard told session r.payload
  | .decoding session _ payload => ∃ earlier, heard = earlier ++ [.stored] ∧
      DownloadEnded earlier told session payload
  | .placing .. | .filling .. => True

section Follows

variable {stage next : Stage} {a : Arrival} {heard : List Arrival} {told moves : List TransferEvent}
  {passed : List Stage}

theorem filterMap_count (count : Option Nat) (total : Nat) :
    (count.toList.map (TransferEvent.downloadProgress · total)).filterMap TransferEvent.count? =
      count.toList.map (·, total) := by
  cases count <;> rfl

theorem Leads.follows (leads : stage.Leads a moves next) (h : stage.Follows heard told) :
    next.Follows (heard ++ [a]) (told ++ moves) := by
  cases leads with
  | accepted id => simpa [Follows, TransferEvent.count?] using h
  | rested id last => simpa [Follows] using h
  | pending => simpa [Follows] using h
  | inProgress => simpa [Follows, TransferEvent.count?] using h
  | completed advances status =>
    have silent : told.filterMap TransferEvent.count? = [] := h
    exact ⟨by simp [silent, TransferEvent.count?], status, heard, rfl⟩
  | opened session download spool =>
    obtain ⟨silent, completed, earlier, rfl⟩ := h
    have begun : Downloaded (earlier ++ [.answer (.status (.ok session))] ++
        [.answer (.download (.ok download))]) (told ++ []) session download [] [] :=
      ⟨completed, ⟨earlier, by simp⟩, by simp, by simpa using silent⟩
    exact ⟨download, [], begun, rfl, Progress.reports_start, rfl⟩
  | @received session r bytes more =>
    obtain ⟨download, counts, ⟨completed, ⟨earlier, came⟩, full, counted⟩, total, reports, length⟩ := h
    refine ⟨download, _, ⟨completed, ⟨earlier, ?_⟩, ?_, ?_⟩, total, reports.count bytes.length, ?_⟩
    · simp [came, Arrival.ofPiece]
    · simpa [Ne.symm more] using full
    · rw [List.filterMap_append, counted, filterMap_count, List.map_append, total]
    · rw [Progress.bytesRead_count, length]
      simp [Reception.payload]
  | ended session r =>
    -- the end is counted only where nothing was counted before it
    obtain ⟨download, counts, ⟨completed, came, full, counted⟩, total, reports, length⟩ := h
    have reports' := reports.count 0
    refine ⟨heard, download, r.pieces.reverse, _, rfl, ⟨completed, came, full, ?_⟩, rfl,
      reports'.rising, ?_⟩
    · rw [List.filterMap_append, counted, filterMap_count, List.map_append, total]
    · rw [reports'.last, if_pos (Progress.reported_count _ _), Progress.bytesRead_count, length]
      rfl
  | flushed session r => exact ⟨heard, rfl, by simpa [Follows] using h⟩
  | decoded | placed => trivial

def parcel? : Stage → Option Parcel
  | .placing p _ | .filling p _ => some p
  | _ => none

theorem Leads.before_content (leads : stage.Leads a moves next) (none : next.parcel? = none)
    (job : Job) (payload : Bytes) (platform : Platform) :
    stage.parcel? = .none ∧ stage.await job ≠ .content payload platform := by
  cases leads <;> simp_all [Stage.await, parcel?]

end Follows

end Stage

section Passages

variable {heard : List Arrival} {told : List TransferEvent} {passed : List Stage} {stage : Stage}

theorem Passage.follows (h : Passage heard told passed stage) : stage.Follows heard told := by
  induction h with
  | start => rfl
  | step _ leads ih => exact leads.follows ih

theorem Passage.content_not_mem (h : Passage heard told passed stage) (none : stage.parcel? = none)
    (job : Job) (payload : Bytes) (platform : Platform) :
    .content payload platform ∉ passed.map (Stage.await job) := by
  induction h with
  | start => simp
  | step passage leads ih =>
    obtain ⟨before, other⟩ := leads.before_content none job payload platform
    simp [ih before, other.symm]

end Passages

namespace Dock

/-- A fetch that was called at `d` and began at `f` has returned an outcome after the inputs. -/
structure Delivered (d f : Dock) (inputs : List DockInput) (target : FetchTarget)
    (outcome : FetchOutcome) (session : Session) (download : Download) (pieces : List Bytes)
    (content : Bytes) : Prop where
  completed : session.status = .completed
  /-- The pieces are all that came of the download before its end, and the content came last. -/
  heard : ∃ earlier, f.heard inputs = earlier ++
    [.answer (.status (.ok session)), .answer (.download (.ok download))] ++
      pieces.map Arrival.ofPiece ++
        [.ofPiece [], .stored, .decoded (.ok content), .stored, .stored]
  full : [] ∉ pieces
  /-- The codec is given the pieces put together, and nothing else before or after. The counts that are
  told rise to their length, and all have the same total. -/
  told : ∃ told earlier, ∃ counts : List Nat,
    Adds d (f.run inputs) told
        (earlier ++ [.content pieces.flatten target.platform, .storage, .storage]) ∧
      (∀ payload platform, .content payload platform ∉ earlier) ∧
      told.filterMap TransferEvent.count? = counts.map (·,
        if session.totalBytes = 0 then download.contentLength.getD 0
        else session.totalBytes.toNat) ∧
      counts.Pairwise (· < ·) ∧ counts.getLast? = some pieces.flatten.length
  /-- While the codec is at work, the spool holds what it was given. -/
  spooled : ∀ earlier later job session spool payload, inputs = earlier ++ later →
    (f.run earlier).flight = some (.fetching job (.decoding session spool payload)) →
      payload = pieces.flatten ∧ (f.run earlier).files.get? spool = some (.file payload)
  stored : d.Avoids inputs target.output → ∃ p, (f.run inputs).files.locate target.output = .ok p ∧
    (f.run inputs).files.get? p = some (.file content)
  outcome : outcome =
    { operationId := session.operationId, output := target.output
      payloadBytes := pieces.flatten.length, contentBytes := content.length
      digest := Digest.hex content }

section Delivered

variable {d : Dock} {device : Device} {ticket : Nat} {title : Title} {target : FetchTarget}
  {token : String} {inputs earlier later : List DockInput} {outcome : FetchOutcome}

theorem OnTheWay.mem_waits {f : Dock} {job : Job} {heard : List Arrival} {stage : Stage}
    (h : OnTheWay d job heard stage (f.run earlier)) {told : List TransferEvent}
    {waits : List Await} (adds : Adds d (f.run (earlier ++ later)) told waits) :
    stage.await job ∈ waits := by
  obtain ⟨told', passed, -, notes', split', -, waited'⟩ := h.passage
  obtain ⟨notes, split, -, waited⟩ := adds
  obtain ⟨more, grown⟩ := suffix_run (f.run earlier) later
  rw [← run_append, split, split', ← List.append_assoc] at grown
  obtain rfl : more ++ notes' = notes := List.append_cancel_right grown
  rw [← waited, List.reverse_append, List.filterMap_append, waited']
  simp

theorem delivered_fetch (sound : d.Sound) (free : d.isBusy = false)
    (connected : d.device = some device) :
    let f := d.fetch ticket title target token
    f.ReturnsAfter inputs →
      (f.run inputs).journal.head? = some (.returned ticket (.fetched (.ok outcome))) →
        ∃ session download pieces content,
          Delivered d f inputs target outcome session download pieces content := by
  intro f returns returned
  obtain ⟨lasts, gone⟩ := returns.lasts
  have fetched := fetched_run sound free connected lasts
  obtain ⟨before, p, part, way, heard, adds, rfl, stores⟩ := Fetched.stores free fetched gone returned
  obtain ⟨told, passed, passage, adds'⟩ := way.passage
  obtain ⟨earlier, begun, decoding, came, rfl⟩ := passage.exists_decoding_of_filling
  obtain ⟨flushed, rfl, ended, download, pieces, counts, rfl, downloaded, whole, rising, last⟩ :=
    decoding.follows
  obtain ⟨first, came'⟩ := downloaded.heard
  have all : Adds d (f.run inputs) (told ++ [.state .succeeded])
      (begun.map (Stage.await (d.jobFor ticket title target token device)) ++
        [.content pieces.flatten target.platform, .storage, .storage]) := by
    simpa [Stage.await, whole, jobFor] using adds'.trans adds
  have alone := decoding.content_not_mem rfl (d.jobFor ticket title target token device)
  refine ⟨p.session, download, pieces, p.content, downloaded.completed, ⟨first, ?_⟩,
    downloaded.full, ⟨_, _, counts, all, alone, ?_, rising, whole ▸ last⟩, ?_, fun avoids => ?_, ?_⟩
  · simp [f, heard, came, came']
  · rw [List.filterMap_append, downloaded.told]
    exact List.append_nil _
  · rintro sooner later job session spool payload rfl flight
    have lasts' : f.Lasts sooner := lasts.of_append
    have busy := isBusy_of_flight flight
    obtain ⟨stage, way'⟩ := (onTheWay_fetch sound free connected (lasts'.isBusy busy)).run lasts' busy
    obtain ⟨rfl, rfl⟩ : _ = job ∧ stage = .decoding session spool payload := by
      simpa using way'.flight.symm.trans flight
    obtain early | late := List.mem_append.1 (way'.mem_waits all)
    · exact absurd early (alone payload target.platform)
    obtain ⟨rfl, -⟩ : payload = pieces.flatten ∧ _ := by simpa [Stage.await] using late
    exact ⟨rfl, way'.held session spool _ rfl⟩
  · obtain ⟨q, stored⟩ | ⟨drawn, -⟩ := stores
    · exact ⟨q, stored.leads, stored.held⟩
    · exact absurd avoids drawn
  · rw [Parcel.outcome, whole]

end Delivered

/-- A fetch that succeeds has handed on what came in: the payload is what came of the download
before its end, the codec was given the payload, the content that came back is at the output, as
long as no disk draws the name of the output for the spool, and the outcome and the progress tell
their sizes. Where the content is what the raw codec reads from the payload, it is the payload, and
not empty. -/
theorem fetch_delivers (settings : TransferSettings) (files : Tree) (before : List DockInput)
    (ticket : Nat) (title : Title) (target : FetchTarget) (token : String)
    (inputs : List DockInput) (outcome : FetchOutcome) :
    let d := (new settings files).run before
    let f := d.fetch ticket title target token
    d.isBusy = false → f.ReturnsAfter inputs →
      (f.run inputs).journal.head? = some (.returned ticket (.fetched (.ok outcome))) →
        ∃ session download pieces content,
          Delivered d f inputs target outcome session download pieces content ∧
            ∀ script, ReadItem.upToEnd script = .ok pieces.flatten →
              RawCodec.extract script = .ok content →
                content = pieces.flatten ∧ pieces.flatten ≠ [] := by
  intro d f free returns returned
  have sound : d.Sound := (sound_new settings files).run before
  cases connected : d.device with
  | none =>
    obtain ⟨rfl, refused⟩ := lasts_of_bare free connected returns.lasts.1
    rw [show f = _ from refused] at returned
    cases returned
  | some device =>
    obtain ⟨session, download, pieces, content, delivered⟩ :=
      delivered_fetch sound free connected returns returned
    exact ⟨session, download, pieces, content, delivered, fun script => RawCodec.eq_payload⟩

/-- Three bytes come, and their digest is told. -/
theorem sample_fetch_delivers :
    let f := sampleFetch "spool" "games/one"
    (sample "spool").isBusy = false ∧ f.ReturnsAfter sampleArrivals ∧
      (sample "spool").Avoids sampleArrivals "games/one" ∧
      ∃ outcome, (f.run sampleArrivals).journal.head? =
          some (.returned 2 (.fetched (.ok outcome))) ∧
        outcome.payloadBytes = 3 ∧
        outcome.digest = "6437b3ac38465133ffb63b75273a8db548c558465d79db03fd359c6cd5bd9d85" ∧
        ∃ session download pieces content,
          Delivered (sample "spool") f sampleArrivals ⟨"games/one", .n64⟩ outcome session download
            pieces content := by
  intro f
  have returns : f.ReturnsAfter sampleArrivals := by decide +kernel
  have avoids : (sample "spool").Avoids sampleArrivals "games/one" :=
    ⟨Files.Disk.avoids _ (by decide), by simp [sampleArrivals]⟩
  have result : (f.run sampleArrivals).journal.head?.bind Note.result? = some (2, .fetched (.ok
      { operationId := "op-1", output := "games/one", payloadBytes := 3, contentBytes := 3
        digest := "6437b3ac38465133ffb63b75273a8db548c558465d79db03fd359c6cd5bd9d85" })) := by
    decide +kernel
  obtain ⟨n, head, named⟩ := Option.bind_eq_some_iff.1 result
  obtain rfl := Note.eq_returned named
  obtain ⟨session, download, pieces, content, delivered, -⟩ := fetch_delivers _ (.empty []) _ 2 _
    ⟨"games/one", .n64⟩ "caller" sampleArrivals _ rfl returns head
  exact ⟨rfl, returns, avoids, _, head, rfl, rfl, session, download, pieces, content, delivered⟩

end Dock

end TitleDock
