import TitleDock.Transfer.Dock

/-! In which order a fetch may call on a device, and when. `Asked` says so for the calls and the
answers alone: a device is asked for its info, lists its titles twice, takes a request, reports
until the extraction is completed, and hands over the payload. No call is made before the last one
was answered, and the answer has to allow it. The calls and answers of a fetch follow such a row up
to a phase, and that makes them disciplined. -/

namespace TitleDock

inductive Call.Succeeds : Call → Answer → Prop
  | info (d : Device) (info : DeviceInfo) : Succeeds (.info d) (.info (.ok info))
  | titles (d : Device) (ts : List Title) : Succeeds (.titles d) (.titles (.ok ts))
  | extract (d : Device) (request : ExtractionRequest) (id : String) :
    Succeeds (.extract d request) (.accepted (.ok id))
  | status (d : Device) (id : String) (session : Session) :
    Succeeds (.status d id) (.status (.ok session))
  | download (d : Device) (id : String) (download : Download) :
    Succeeds (.download d id) (.download (.ok download))

/-- The first of the titles with an id is one that can be extracted. -/
def Offers (ts : List Title) (titleId : String) (title : Title) : Prop :=
  ts.find? (·.titleId = titleId) = some title ∧ title.extractable = true

/-- The last call that a fetch of a title has made, and the ones before it with their answers. -/
inductive Asked (settings : TransferSettings) (titleId : String) :
    List (Call × Answer) → Call → Prop
  | probes (probe : Device) : Asked settings titleId [] (.info probe)
  | connects (probe d : Device) (info : DeviceInfo) :
    Asked settings titleId [(.info probe, .info (.ok info))] (.titles d)
  | lists (probe d : Device) (info : DeviceInfo) (ts : List Title) :
    Asked settings titleId
      [(.info probe, .info (.ok info)), (.titles d, .titles (.ok ts))] (.titles d)
  | requests (probe d : Device) (info : DeviceInfo) (ts : List Title) {offered : List Title}
    {title : Title} (offers : Offers offered titleId title) :
    Asked settings titleId
      [(.info probe, .info (.ok info)), (.titles d, .titles (.ok ts)),
        (.titles d, .titles (.ok offered))]
      (.extract d (Dock.requestFor settings title))
  | polls {before : List (Call × Answer)} {d : Device} {request : ExtractionRequest} (id : String)
    (asked : Asked settings titleId before (.extract d request)) :
    Asked settings titleId (before ++ [(.extract d request, .accepted (.ok id))]) (.status d id)
  | pollsAgain {before : List (Call × Answer)} {d : Device} {id : String} {session : Session}
    (status : session.status ≠ .completed) (asked : Asked settings titleId before (.status d id)) :
    Asked settings titleId (before ++ [(.status d id, .status (.ok session))]) (.status d id)
  | downloads {before : List (Call × Answer)} {d : Device} {id : String} {session : Session}
    (status : session.status = .completed) (asked : Asked settings titleId before (.status d id)) :
    Asked settings titleId (before ++ [(.status d id, .status (.ok session))])
      (.download d session.operationId)

namespace Asked

variable {settings : TransferSettings} {titleId id : String} {before : List (Call × Answer)}
  {last : Call} {d : Device} {request : ExtractionRequest}

theorem succeeds (h : Asked settings titleId before last) : ∀ x ∈ before, x.1.Succeeds x.2 := by
  induction h with
  | probes | connects | lists | requests =>
    simp only [List.forall_mem_cons, List.not_mem_nil, false_imp_iff, implies_true, and_true]
    repeat' constructor
  | polls id asked ih =>
    rw [List.forall_mem_append]
    exact ⟨ih, by simpa using .extract ..⟩
  | pollsAgain status asked ih | downloads status asked ih =>
    rw [List.forall_mem_append]
    exact ⟨ih, by simpa using .status ..⟩

theorem calls_of_status (h : Asked settings titleId before (.status d id)) :
    ∃ probe request n, before.map Prod.fst =
      [.info probe, .titles d, .titles d, .extract d request] ++ List.replicate n (.status d id) := by
  generalize same : Call.status d id = last at h
  induction h generalizing d id with
  | probes | connects | lists | requests | downloads => cases same
  | polls id asked _ =>
    obtain ⟨rfl, rfl⟩ := Call.status.inj same
    cases asked with
    | requests probe d info ts offers => exact ⟨probe, _, 0, rfl⟩
  | pollsAgain status asked ih =>
    obtain ⟨rfl, rfl⟩ := Call.status.inj same
    obtain ⟨probe, request, n, calls⟩ := ih rfl
    refine ⟨probe, request, n + 1, ?_⟩
    rw [List.map_append, calls, List.replicate_succ', List.append_assoc]
    rfl

theorem isPrefix (h : Asked settings titleId before last) : ∃ probe d request id n final,
    before.map Prod.fst ++ [last] <+: [.info probe, .titles d, .titles d, .extract d request] ++
      List.replicate (n + 1) (.status d id) ++ [.download d final] := by
  let other := Dock.requestFor settings
    { titleId, name := "", version := "", size := 0, kind := .other, extractable := true }
  cases h with
  | probes probe => exact ⟨probe, probe, other, "", 0, "", _, rfl⟩
  | connects probe d => exact ⟨probe, d, other, "", 0, "", _, rfl⟩
  | lists probe d => exact ⟨probe, d, other, "", 0, "", _, rfl⟩
  | requests probe d => exact ⟨probe, d, _, "", 0, "", _, rfl⟩
  | @polls _ d _ id asked =>
    cases asked with
    | requests probe => exact ⟨probe, d, _, id, 0, "", _, rfl⟩
  | @pollsAgain _ d id _ status asked =>
    obtain ⟨probe, request, n, calls⟩ := asked.calls_of_status
    refine ⟨probe, d, request, id, n + 1, "", [.download d ""], ?_⟩
    simp [calls, List.replicate_succ']
  | @downloads _ d id session status asked =>
    obtain ⟨probe, request, n, calls⟩ := asked.calls_of_status
    refine ⟨probe, d, request, id, n, session.operationId, [], ?_⟩
    simp [calls, List.replicate_succ']

theorem offers_of_extract (h : Asked settings titleId before last)
    (member : .extract d request ∈ before.map Prod.fst ++ [last]) :
    ∃ offered title, (before.map Prod.snd)[2]? = some (.titles (.ok offered)) ∧
      Offers offered titleId title ∧ request = Dock.requestFor settings title := by
  induction h with
  | probes | connects | lists => simp at member
  | @requests probe d' info ts offered title offers =>
    obtain ⟨-, rfl⟩ : d = d' ∧ request = Dock.requestFor settings title := by simpa using member
    exact ⟨offered, title, rfl, offers, rfl⟩
  | polls id asked ih | pollsAgain status asked ih | downloads status asked ih =>
    obtain ⟨offered, title, third, offers, same⟩ := ih (by simpa using member)
    refine ⟨offered, title, ?_, offers, same⟩
    rw [List.map_append, List.getElem?_append_left, third]
    exact (List.getElem?_eq_some_iff.1 third).1

theorem download_not_mem (h : Asked settings titleId before last) (d : Device) (id : String) :
    .download d id ∉ before.map Prod.fst := by
  induction h with
  | probes | connects | lists | requests => simp
  | polls _ _ ih | pollsAgain _ _ ih | downloads _ _ ih => simpa using ih

theorem completed_of_download (h : Asked settings titleId before last)
    (member : .download d id ∈ before.map Prod.fst ++ [last]) :
    last = .download d id ∧ ∃ earlier session, session.status = .completed ∧
      session.operationId = id ∧ before.map Prod.snd = earlier ++ [.status (.ok session)] := by
  have same : .download d id = last := by
    simpa [h.download_not_mem] using List.mem_append.1 member
  cases h with
  | probes | connects | lists | requests | polls | pollsAgain => cases same
  | @downloads earlier _ _ session status asked =>
    obtain ⟨rfl, rfl⟩ := Call.download.inj same
    exact ⟨rfl, earlier.map Prod.snd, session, status, rfl, by simp⟩

end Asked

inductive Phase where
  /-- The last call is still to be answered. -/
  | waits (last : Call)
  /-- All calls were answered, and this one comes next. -/
  | rests (next : Call)
  /-- The last call was answered, and no other comes. -/
  | answered (last : Call)

def Phase.Follows (settings : TransferSettings) (titleId : String) (calls : List Call)
    (answers : List Answer) : Phase → Prop
  | .waits last => ∃ before, Asked settings titleId before last ∧
      calls = before.map Prod.fst ++ [last] ∧ answers = before.map Prod.snd
  | .rests next => ∃ before, Asked settings titleId before next ∧
      calls = before.map Prod.fst ∧ answers = before.map Prod.snd
  | .answered last => ∃ before final, Asked settings titleId before last ∧
      calls = before.map Prod.fst ++ [last] ∧ answers = before.map Prod.snd ++ [final]

/-- What holds of the calls of a fetch, in order, and the answers that came in for them: no call but
the last one can have failed, the request is for a title on offer, and the download is the last call
and of what is completed. -/
structure Disciplined (settings : TransferSettings) (titleId : String) (calls : List Call)
    (answers : List Answer) : Prop where
  row : ∃ probe d request id n final,
    calls <+: [.info probe, .titles d, .titles d, .extract d request] ++
      List.replicate (n + 1) (.status d id) ++ [.download d final]
  paired : answers.length ≤ calls.length ∧ calls.length ≤ answers.length + 1
  succeeded : ∀ i, i + 1 < calls.length →
    ∃ c r, calls[i]? = some c ∧ answers[i]? = some r ∧ c.Succeeds r
  offered : ∀ d request, .extract d request ∈ calls →
    ∃ offered title, answers[2]? = some (.titles (.ok offered)) ∧ Offers offered titleId title ∧
      request = Dock.requestFor settings title
  completed : ∀ d id, .download d id ∈ calls →
    ∃ earlier session, calls = earlier ++ [.download d id] ∧
      (∀ d' id', .download d' id' ∉ earlier) ∧
      (answers.take earlier.length).getLast? = some (.status (.ok session)) ∧
      session.status = .completed ∧ session.operationId = id

section Phases

variable {settings : TransferSettings} {titleId : String} {calls : List Call}
  {answers : List Answer} {last next : Call}

theorem disciplined_nil : Disciplined settings titleId [] [] := by
  let device : Device := ⟨.v4 ⟨0, 0, 0, 0⟩ 0, "", "", 0⟩
  let request := Dock.requestFor settings ⟨"", "", "", 0, .other, true⟩
  refine ⟨⟨device, device, request, "", 0, "", List.nil_prefix⟩, ?_, ?_, ?_, ?_⟩ <;> simp

theorem Asked.disciplined {before : List (Call × Answer)} (h : Asked settings titleId before last)
    {made : List Call} {rest : List Answer} (may : made <+: [last])
    (paired : rest.length ≤ made.length) :
    Disciplined settings titleId (before.map Prod.fst ++ made) (before.map Prod.snd ++ rest) := by
  have part : before.map Prod.fst ++ made <+: before.map Prod.fst ++ [last] :=
    (List.prefix_append_right_inj _).2 may
  have one : made.length ≤ 1 := may.length_le
  refine ⟨?_, ?_, ?_, ?_, ?_⟩
  · obtain ⟨probe, d, request, id, n, final, row⟩ := h.isPrefix
    exact ⟨probe, d, request, id, n, final, part.trans row⟩
  · simp only [List.length_append, List.length_map]
    omega
  · intro i more
    have within : i < before.length := by
      simp only [List.length_append, List.length_map] at more
      omega
    refine ⟨before[i].1, before[i].2, ?_, ?_, h.succeeds _ (List.getElem_mem within)⟩
    · rw [List.getElem?_append_left (by simpa using within)]
      simp [within]
    · rw [List.getElem?_append_left (by simpa using within)]
      simp [within]
  · intro d request member
    obtain ⟨offered, title, third, offers, same⟩ := h.offers_of_extract (part.subset member)
    refine ⟨offered, title, ?_, offers, same⟩
    rw [List.getElem?_append_left (List.getElem?_eq_some_iff.1 third).1, third]
  · intro d id member
    obtain ⟨rfl, earlier, session, status, named, split⟩ :=
      h.completed_of_download (part.subset member)
    obtain rfl : made = [.download d id] := by
      have member' : .download d id ∈ made := by
        simpa [h.download_not_mem] using List.mem_append.1 member
      exact may.eq_of_length_le (List.length_pos_of_mem member')
    refine ⟨before.map Prod.fst, session, rfl, h.download_not_mem, ?_, status, named⟩
    rw [List.take_left' (by simp), split]
    simp

namespace Phase.Follows

theorem disciplined {phase : Phase} (h : phase.Follows settings titleId calls answers) :
    Disciplined settings titleId calls answers := by
  cases phase with
  | waits last =>
    obtain ⟨before, asked, rfl, rfl⟩ := h
    have none : ([] : List Answer).length ≤ [last].length := Nat.zero_le _
    simpa using asked.disciplined (List.prefix_refl _) none
  | rests next =>
    obtain ⟨before, asked, rfl, rfl⟩ := h
    have none : ([] : List Answer).length ≤ ([] : List Call).length := Nat.zero_le _
    simpa using asked.disciplined List.nil_prefix none
  | answered last =>
    obtain ⟨before, final, asked, rfl, rfl⟩ := h
    exact asked.disciplined (List.prefix_refl _) (by simp)

theorem answered (h : (Phase.waits last).Follows settings titleId calls answers) (r : Answer) :
    (Phase.answered last).Follows settings titleId calls (answers ++ [r]) := by
  obtain ⟨before, asked, rfl, rfl⟩ := h
  exact ⟨before, r, asked, rfl, rfl⟩

theorem mem (h : (Phase.answered last).Follows settings titleId calls answers) : last ∈ calls := by
  obtain ⟨before, final, -, rfl, -⟩ := h
  simp

theorem goesOn (h : (Phase.waits last).Follows settings titleId calls answers) {r : Answer}
    (leads : ∀ before, Asked settings titleId before last →
      Asked settings titleId (before ++ [(last, r)]) next) :
    (Phase.rests next).Follows settings titleId calls (answers ++ [r]) := by
  obtain ⟨before, asked, rfl, rfl⟩ := h
  exact ⟨before ++ [(last, r)], leads before asked, by simp, by simp⟩

theorem made (h : (Phase.rests next).Follows settings titleId calls answers) :
    (Phase.waits next).Follows settings titleId (calls ++ [next]) answers := by
  obtain ⟨before, asked, rfl, rfl⟩ := h
  exact ⟨before, asked, rfl, rfl⟩

end Phase.Follows

end Phases

end TitleDock
