import TitleDock.Command.Errand
import TitleDock.Proofs.Command.Steering
import TitleDock.Proofs.Transfer.Cancelled

/-! How a fetch goes as an errand: the device is asked for its info, a dock connects to it, the
titles are listed once more, and the dock fetches the first one with the id that is asked for. Along
the way the calls and the answers belong to a phase, and the files are as the fetch found them until
the content is written. Only the progress of a download can make it crash, and then no call is under
way. -/

namespace TitleDock

open Files Files.Tree

def ErrandStage.temporaries : ErrandStage → List Place
  | .fetching _ dock => dock.temporaries
  | _ => []

namespace Errand

def run (e : Errand) (inputs : List (Nat × Arrival)) : Errand :=
  inputs.foldl (fun e input => e.resume input.1 input.2) e

def along {α : Type} (bring : Errand → Nat → Arrival → Option α) (e : Errand) :
    List (Nat × Arrival) → List α
  | [] => []
  | (now, a) :: later => (bring e now a).toList ++ (e.resume now a).along bring later

def answer? (e : Errand) (now : Nat) (a : Arrival) : Option Answer :=
  (e.stage.await? now).bind (·.answer? a)

/-- The content that is moved to the output with an arrival. -/
def written? (e : Errand) (now : Nat) (a : Arrival) : Option Bytes :=
  match e.stage with
  | .fetching _ dock => (dock.step (.disk (e.disk now))).written? a
  | _ => none

section Runs

variable {α : Type} (e : Errand) (inputs : List (Nat × Arrival)) (now : Nat) (a : Arrival)

theorem run_concat : e.run (inputs ++ [(now, a)]) = (e.run inputs).resume now a :=
  List.foldl_concat ..

theorem along_concat (bring : Errand → Nat → Arrival → Option α) :
    e.along bring (inputs ++ [(now, a)]) =
      e.along bring inputs ++ (bring (e.run inputs) now a).toList := by
  induction inputs generalizing e with
  | nil => simp [along, run]
  | cons input later ih => simp [along, run, ih]

end Runs

theorem resume_of_ended {e : Errand} {r : Except String Unit} (stage : e.stage = .ended r)
    (now : Nat) (a : Arrival) : e.resume now a = e := by
  unfold resume
  rw [stage]

theorem resume_of_crashed {e : Errand} {message : String} (stage : e.stage = .crashed message)
    (now : Nat) (a : Arrival) : e.resume now a = e := by
  unfold resume
  rw [stage]

theorem run_of_ended {e : Errand} {r : Except String Unit} (stage : e.stage = .ended r)
    (inputs : List (Nat × Arrival)) : e.run inputs = e :=
  List.foldl_fixed' (fun input => resume_of_ended stage input.1 input.2) inputs

/-! ### What a dock makes an errand show -/

structure Shows (e e' : Errand) (calls : List Call) : Prop where
  purpose : e'.purpose = e.purpose
  settings : e'.settings = e.settings
  disk : e'.disk = e.disk
  calls : e'.calls = calls.reverse ++ e.calls

theorem Shows.refl (e : Errand) : Shows e e [] := ⟨rfl, rfl, rfl, rfl⟩

theorem Shows.called {e shown : Errand} {made : List Call} (shows : Shows e shown made) (c : Call) :
    Shows e { shown with calls := c :: shown.calls } (made ++ [c]) :=
  ⟨shows.purpose, shows.settings, shows.disk, by simp [shows.calls]⟩

theorem Shows.trans {e e' e'' : Errand} {made made' : List Call} (h : Shows e e' made)
    (h' : Shows e' e'' made') : Shows e e'' (made ++ made') :=
  ⟨h'.purpose.trans h.purpose, h'.settings.trans h.settings, h'.disk.trans h.disk,
    by simp [h'.calls, h.calls]⟩

def IsCrashed (e : Errand) : Prop := ∃ message, e.stage = .crashed message

theorem reveal_of_crashed {e : Errand} (h : e.IsCrashed) (now : Nat) (n : Note) :
    e.reveal now n = e := by
  obtain ⟨message, stage⟩ := h
  rw [reveal, stage]

section Revealing

variable {e : Errand} (on : ¬ e.IsCrashed) (now : Nat)

include on

theorem reveal_of_not_crashed (n : Note) : e.reveal now n = e.tell now n := by
  rw [reveal]
  split
  case h_1 message stage => exact absurd ⟨message, stage⟩ on
  case h_2 => rfl

theorem reveal_cases (n : Note) :
    (e.reveal now n).stage = e.stage ∧
        Shows e (e.reveal now n) (n.await?.bind Await.call?).toList ∨
      (e.reveal now n).IsCrashed ∧ Shows e (e.reveal now n) [] ∧
        ∃ count total, n.move? = some (.downloadProgress count total) := by
  rw [reveal_of_not_crashed on]
  rcases n with event | record | (_ | _ | _ | _ | _) | _ | _
  case event =>
    rw [tell]
    dsimp only
    split
    case h_1 => exact .inl ⟨rfl, rfl, rfl, rfl, rfl⟩
    case h_2 message panics =>
      refine .inr ⟨⟨message, rfl⟩, ⟨rfl, rfl, rfl, rfl⟩, ?_⟩
      cases event with
      | downloadProgress count total => exact ⟨count, total, rfl⟩
      | _ => cases panics
  all_goals exact .inl ⟨rfl, rfl, rfl, rfl, rfl⟩

theorem foldl_reveal_cases (notes : List Note) :
    let e' := notes.foldl (reveal now) e
    let calls := (notes.filterMap Note.await?).filterMap Await.call?
    e'.stage = e.stage ∧ Shows e e' calls ∨
      e'.IsCrashed ∧ (∃ made, made <+: calls ∧ Shows e e' made) ∧
        ∃ count total, .downloadProgress count total ∈ notes.filterMap Note.move? := by
  induction notes generalizing e with
  | nil => exact .inl ⟨rfl, .refl e⟩
  | cons n later ih =>
    have calls : ((n :: later).filterMap Note.await?).filterMap Await.call? =
        (n.await?.bind Await.call?).toList ++
          (later.filterMap Note.await?).filterMap Await.call? := by
      cases waited : n.await? with
      | none => simp [waited]
      | some w => cases called : w.call? <;> simp [waited, called]
    rw [List.foldl_cons, calls]
    obtain ⟨stage, first⟩ | ⟨crashed, first, count, total, told⟩ := reveal_cases on now n
    · have on' : ¬ (e.reveal now n).IsCrashed := by rwa [IsCrashed, stage]
      obtain ⟨stage', rest⟩ | ⟨crashed, ⟨made, part, rest⟩, count, total, told⟩ := ih on'
      · exact .inl ⟨stage'.trans stage, first.trans rest⟩
      · refine .inr ⟨crashed, ⟨_, (List.prefix_append_right_inj _).2 part, first.trans rest⟩, ?_⟩
        exact ⟨count, total, List.mem_filterMap.2 (by
          obtain ⟨m, member, same⟩ := List.mem_filterMap.1 told
          exact ⟨m, List.mem_cons_of_mem _ member, same⟩)⟩
    · rw [List.foldl_fixed' (reveal_of_crashed crashed now) later]
      refine .inr ⟨crashed, ⟨[], List.nil_prefix, first⟩, count, total, ?_⟩
      exact List.mem_filterMap.2 ⟨n, List.mem_cons_self, told⟩

end Revealing

section Driving

variable {e : Errand} {now : Nat} {dock : Dock} {i : DockInput} {moves : List TransferEvent}
  {waits : List Await}

theorem drive_cases (on : ¬ e.IsCrashed) :
    let m := dock.step (.disk (e.disk now))
    Dock.Adds m (m.step i) moves waits →
      (∃ shown, e.drive now dock i = (shown, m.step i) ∧ shown.stage = e.stage ∧
        Shows e shown (waits.filterMap Await.call?) ∧ shown.files = (m.step i).files) ∨
      ∃ shown, e.drive now dock i = (shown, (m.step i).drop) ∧ shown.IsCrashed ∧
        (∃ made, made <+: waits.filterMap Await.call? ∧ Shows e shown made) ∧
          shown.files = (m.step i).drop.files ∧
            ∃ count total, .downloadProgress count total ∈ moves := by
  rintro m ⟨notes, split, told, waited⟩
  have new : ((dock.step (.disk (e.disk now))).step i).journal.take
      (((dock.step (.disk (e.disk now))).step i).journal.length - dock.journal.length) = notes := by
    rw [split, ← show m.journal = dock.journal from rfl]
    simp
  have cases := foldl_reveal_cases on now notes.reverse
  rw [told, waited] at cases
  rw [drive, new]
  obtain ⟨stage, shows⟩ | ⟨⟨message, crashed⟩, ⟨made, part, shows⟩, progress⟩ := cases
  · refine .inl ⟨{ notes.reverse.foldl (reveal now) e with files := (m.step i).files }, ?_, stage,
      ⟨shows.purpose, shows.settings, shows.disk, shows.calls⟩, rfl⟩
    split
    case h_1 message crashed => exact absurd ⟨message, stage ▸ crashed⟩ on
    case h_2 => rfl
  · refine .inr ⟨{ notes.reverse.foldl (reveal now) e with files := (m.step i).drop.files }, ?_,
      ⟨message, crashed⟩, ⟨made, part, shows.purpose, shows.settings, shows.disk, shows.calls⟩, rfl,
      progress⟩
    split
    case h_1 => rfl
    case h_2 other => exact absurd crashed (other message)

theorem drive_of_quiet (on : ¬ e.IsCrashed) :
    let m := dock.step (.disk (e.disk now))
    Dock.Adds m (m.step i) moves waits → (∀ count total, .downloadProgress count total ∉ moves) →
      ∃ shown, e.drive now dock i = (shown, m.step i) ∧ shown.stage = e.stage ∧
        Shows e shown (waits.filterMap Await.call?) ∧ shown.files = (m.step i).files := by
  intro m adds quiet
  obtain shown | ⟨_, -, -, -, -, count, total, told⟩ := drive_cases on adds
  · exact shown
  · exact absurd told (quiet count total)

end Driving

/-! ### Where a fetch stands -/

/-- Whenever it is, the disk does not draw the last name of the path for a spool. -/
def DiskAvoids (disk : Nat → Disk) (path : String) : Prop := ∀ now, (disk now).Avoids path

/-- The calls and the answers of a fetch, its stage, its files, and what it has written. -/
inductive Standing (settings : TransferSettings) (disk : Nat → Disk) (found : Tree)
    (titleId : String) (target : FetchTarget) :
    List Call → List Answer → ErrandStage → Tree → List Bytes → Prop
  | refused (reason : String) :
    Standing settings disk found titleId target [] [] (.ended (.error reason)) found []
  | probing (address : SocketAddress) (probe : Device) :
    Standing settings disk found titleId target [.info probe] [] (.probing address) found []
  | docking (probe d : Device) (info : DeviceInfo) (present : Disk) :
    Standing settings disk found titleId target [.info probe, .titles d] [.info (.ok info)]
      (.docking d (Dock.connecting settings found connectTicket d present)) found []
  | choosing (probe d : Device) (info : DeviceInfo) (ts : List Title) {dock : Dock}
      (ready : dock.AtHand d) (fresh : fetchTicket ∉ dock.returned) (same : dock.settings = settings)
      (kept : dock.files = found) :
    Standing settings disk found titleId target [.info probe, .titles d, .titles d]
      [.info (.ok info), .titles (.ok ts)] (.choosing d dock) found []
  | fetching (title : Title) {calls : List Call} {answers : List Answer} {called dock : Dock}
      {job : Job} {stage : Stage} (same : called.settings = settings) (kept : called.files = found)
      (ticket : job.ticket = fetchTicket) (aim : job.target = target)
      (carries : Dock.Carries called job stage dock)
      (follows : (stage.phase job).Follows settings titleId calls answers)
      (apart : DiskAvoids disk target.output → stage.Apart target.output) :
    Standing settings disk found titleId target calls answers (.fetching title dock) dock.files []
  | crashed (message : String) {calls : List Call} {answers : List Answer} {files : Tree}
      {last : Call} (follows : (Phase.answered last).Follows settings titleId calls answers)
      (grown : Grown (target.folders settings) found files) :
    Standing settings disk found titleId target calls answers (.crashed message) files []
  | failed (reason : String) {calls : List Call} {answers : List Answer} {files : Tree}
      {last : Call} (follows : (Phase.answered last).Follows settings titleId calls answers)
      (grown : Grown (target.folders settings) found files) :
    Standing settings disk found titleId target calls answers (.ended (.error reason)) files []
  | saved (content : Bytes) {calls : List Call} {answers : List Answer} {files : Tree}
      {d : Device} {id : String}
      (follows : (Phase.answered (.download d id)).Follows settings titleId calls answers)
      (stored : (∃ p, StoredAt (target.folders settings) target.output content found files p) ∨
        ¬ DiskAvoids disk target.output ∧ Grown (target.folders settings) found files) :
    Standing settings disk found titleId target calls answers (.ended (.ok ())) files [content]

structure Pursues (settings : TransferSettings) (disk : Nat → Disk) (titleId : String)
    (target : FetchTarget) (e : Errand) : Prop where
  purpose : e.purpose = .fetch titleId target
  settings : e.settings = settings
  disk : e.disk = disk

structure Stands (settings : TransferSettings) (disk : Nat → Disk) (found : Tree) (titleId : String)
    (target : FetchTarget) (answers : List Answer) (written : List Bytes) (e : Errand) : Prop where
  pursues : Pursues settings disk titleId target e
  standing :
    Standing settings disk found titleId target e.calls.reverse answers e.stage e.files written

theorem stands_start (settings : TransferSettings) (presence : Presence) (found : Tree)
    (disk : Nat → Disk) (host : String) (port now : Nat) (titleId : String) (target : FetchTarget) :
    Stands settings disk found titleId target [] []
      (start (.fetch titleId target) settings presence found disk host port now) := by
  unfold start
  cases manualAddress host port with
  | error f => exact ⟨⟨rfl, rfl, rfl⟩, .refused _⟩
  | ok address => exact ⟨⟨rfl, rfl, rfl⟩, .probing address _⟩

section Steps

variable {settings : TransferSettings} {disk : Nat → Disk} {found : Tree} {titleId : String}
  {target : FetchTarget} {answers : List Answer} {written : List Bytes} {e shown : Errand}
  {now : Nat} {made : List Call} {address : SocketAddress} {probe d : Device} {info : DeviceInfo}
  {ts : List Title} {title : Title} {dock next : Dock} {present : Disk} {a : Arrival}

theorem Shows.pursues (shows : Shows e shown made)
    (pursues : e.Pursues settings disk titleId target) :
    shown.Pursues settings disk titleId target :=
  ⟨shows.purpose.trans pursues.purpose, shows.settings.trans pursues.settings,
    shows.disk.trans pursues.disk⟩

theorem Shows.calls_eq (shows : Shows e shown made) :
    shown.calls.reverse = e.calls.reverse ++ made := by
  rw [shows.calls, List.reverse_append, List.reverse_reverse]

theorem Shows.stands (shows : Shows e shown made)
    (pursues : e.Pursues settings disk titleId target) {stage : ErrandStage}
    (standing : Standing settings disk found titleId target (e.calls.reverse ++ made) answers stage
      shown.files written) :
    Stands settings disk found titleId target answers written { shown with stage } := by
  have aims := shows.pursues pursues
  rw [← shows.calls_eq] at standing
  exact ⟨⟨aims.purpose, aims.settings, aims.disk⟩, standing⟩

theorem not_isCrashed_of_stage {stage : ErrandStage} (at_ : e.stage = stage)
    (other : ∀ message, stage ≠ .crashed message) : ¬ e.IsCrashed :=
  fun ⟨message, crashed⟩ => other message (at_.symm.trans crashed)

theorem resume_of_probing (stage : e.stage = .probing address) (deaf : ∀ r, a ≠ .answer (.info r)) :
    e.resume now a = e := by
  unfold resume
  rw [stage]
  rcases a with (r | _ | _ | _ | _) | _ | _ | _ | _ | _
  case answer.info => exact absurd rfl (deaf r)
  all_goals rfl

theorem stands_probed (pursues : e.Pursues settings disk titleId target)
    (stage : e.stage = .probing address) (calls : e.calls.reverse = [.info probe])
    (files : e.files = found) (now : Nat) (info : DeviceInfo) :
    Stands settings disk found titleId target [.info (.ok info)] []
      (e.probed now address (.ok info)) := by
  let d := Device.ofInfo address info now
  let added := (additions (!e.presence.known.isKnown address) d).foldl record
    { e with presence := (e.presence.upsert d).2 }
  have stage' : added.stage = .probing address := stage
  obtain ⟨connected, adds⟩ := Dock.adds_connect_new settings found connectTicket d (added.disk now)
  rw [← connected] at adds
  obtain ⟨shown, driven, shownStage, shows, files'⟩ := drive_of_quiet
    (not_isCrashed_of_stage stage' nofun) adds (by simp)
  have docked : e.probed now address (.ok info) = { shown with
      stage := .docking d (Dock.connecting settings found connectTicket d (added.disk now)) } := by
    rw [Errand.probed]
    dsimp only [Presence.finishAdd]
    rw [show added.purpose = .fetch titleId target from pursues.purpose,
      show added.settings = settings from pursues.settings, show added.files = found from files]
    dsimp only
    rw [driven, Errand.docked, shownStage, stage', connected]
    rfl
  rw [docked]
  refine shows.stands (e := added) ⟨pursues.purpose, pursues.settings, pursues.disk⟩ ?_
  rw [show added.calls = e.calls from rfl, calls, files', connected]
  exact .docking probe d info _

theorem stands_probing (pursues : e.Pursues settings disk titleId target)
    (stage : e.stage = .probing address) (calls : e.calls.reverse = [.info probe])
    (files : e.files = found) (a : Arrival) :
    Stands settings disk found titleId target (e.answer? now a).toList (e.written? now a).toList
      (e.resume now a) := by
  have silent : e.written? now a = none := by simp [written?, stage]
  have heard : e.answer? now a = (Await.answer (.info (.probe address now))).answer? a := by
    rw [answer?, stage]
    rfl
  rw [silent, heard]
  obtain ⟨r, rfl, answered⟩ | ⟨deaf, unanswered⟩ := Await.answer?_info (.probe address now) a
  · have resumed : e.resume now (.answer (.info r)) = e.probed now address r := by
      unfold resume
      rw [stage]
    rw [resumed, answered]
    cases r with
    | error f =>
      refine (Shows.refl e).stands pursues ?_
      rw [calls, files]
      exact .failed _ ⟨[], _, .probes probe, rfl, rfl⟩ (.refl _ _)
    | ok info => exact stands_probed pursues stage calls files now info
  · rw [resume_of_probing stage deaf, unanswered]
    exact ⟨pursues, by rw [calls, stage, files]; exact .probing address probe⟩

theorem resume_of_docking (stage : e.stage = .docking d dock)
    (driven : e.drive now dock (.arrive a) = (shown, next)) :
    e.resume now a = shown.docked now d next := by
  unfold resume
  rw [stage]
  dsimp only
  rw [driven]

theorem stands_docking (pursues : e.Pursues settings disk titleId target)
    (stage : e.stage = .docking d (Dock.connecting settings found connectTicket d present))
    (calls : e.calls.reverse = [.info probe, .titles d]) (a : Arrival) :
    Stands settings disk found titleId target (.info (.ok info) :: (e.answer? now a).toList)
      (e.written? now a).toList (e.resume now a) := by
  have silent : e.written? now a = none := by simp [written?, stage]
  have heard : e.answer? now a = (Await.answer (.titles d)).answer? a := by
    rw [answer?, stage]
    rfl
  have on : ¬ e.IsCrashed := not_isCrashed_of_stage stage nofun
  have turned := Dock.connecting_disk settings found connectTicket d present (e.disk now)
  rw [silent, heard]
  obtain ⟨r, rfl, answered⟩ | ⟨deaf, unanswered⟩ := Await.answer?_titles d a
  · rw [answered]
    cases r with
    | error f =>
      obtain ⟨returned, adds⟩ := Dock.connecting_fault settings found connectTicket d (e.disk now) f
      rw [← turned] at returned adds
      obtain ⟨shown, driven, shownStage, shows, files⟩ := drive_of_quiet on adds (by simp)
      rw [resume_of_docking stage driven, docked, shownStage, stage, returned]
      refine shows.stands pursues ?_
      rw [calls, files]
      exact .failed _ ⟨[_], _, .connects probe d info, rfl, rfl⟩ (.refl _ _)
    | ok ts =>
      obtain ⟨ready, returned, adds⟩ :=
        Dock.connecting_titles settings found connectTicket d (e.disk now) ts
      rw [← turned] at ready returned adds
      obtain ⟨shown, driven, shownStage, shows, files⟩ := drive_of_quiet on adds (by simp)
      have fresh : fetchTicket ∉ ({connectTicket} : Multiset Nat) := by decide
      rw [resume_of_docking stage driven, docked, shownStage, stage, returned]
      refine (shows.called (.titles d)).stands pursues ?_
      rw [calls, show Errand.files _ = shown.files from rfl, files]
      exact .choosing probe d info ts ready fresh rfl rfl
  · have still := Dock.connecting_deaf settings found connectTicket d (e.disk now) deaf
    rw [← turned] at still
    obtain ⟨shown, driven, shownStage, shows, files⟩ :=
      drive_of_quiet on (Dock.adds_of_eq (congrArg Dock.journal still)) (by simp)
    rw [still, turned] at driven files
    rw [resume_of_docking stage driven, docked, shownStage, stage, unanswered]
    refine shows.stands pursues ?_
    rw [calls, files]
    exact .docking probe d info _

theorem resume_of_choosing (stage : e.stage = .choosing d dock)
    (deaf : ∀ r, a ≠ .answer (.titles r)) : e.resume now a = e := by
  unfold resume
  rw [stage]
  rcases a with (_ | r | _ | _ | _) | _ | _ | _ | _ | _
  case answer.titles => exact absurd rfl (deaf r)
  all_goals rfl

theorem fetched_of_none (on : ¬ e.IsCrashed) (h : dock.result? fetchTicket = none) :
    e.fetched title dock = { e with stage := .fetching title dock } := by
  rw [fetched, h]
  split
  case h_1 message crashed => exact absurd ⟨message, crashed⟩ on
  all_goals first | rfl | contradiction

theorem stands_chosen (pursues : e.Pursues settings disk titleId target)
    (stage : e.stage = .choosing d dock)
    (calls : e.calls.reverse = [.info probe, .titles d, .titles d]) (files : e.files = found)
    (ready : dock.AtHand d) (fresh : fetchTicket ∉ dock.returned) (same : dock.settings = settings)
    (kept : dock.files = found) (info : DeviceInfo) (ts : List Title) (now : Nat)
    (r : Except Fault (List Title)) :
    Stands settings disk found titleId target [.info (.ok info), .titles (.ok ts), .titles r] []
      (e.chosen now d dock r) := by
  have ended (reason : String) :
      Stands settings disk found titleId target
        [.info (.ok info), .titles (.ok ts), .titles r] [] (e.finish (.error reason)) := by
    refine (Shows.refl e).stands pursues ?_
    rw [calls, files]
    exact .failed reason ⟨[_, _], _, .lists probe d info ts, rfl, rfl⟩ (.refl _ _)
  cases r with
  | error f => exact ended (toString f)
  | ok offered =>
    rw [chosen]
    dsimp only
    rw [pursues.purpose]
    dsimp only
    cases first : offered.find? (·.titleId = titleId) with
    | none => exact ended _
    | some title =>
      dsimp only
      split
      case isTrue extractable =>
        have offers : Offers offered titleId title := ⟨first, extractable⟩
        obtain ⟨carries, adds⟩ := (ready.disk (e.disk now)).fetch fresh title target shutdown
        obtain ⟨shown, driven, shownStage, shows, files'⟩ :=
          drive_of_quiet (not_isCrashed_of_stage stage nofun) adds (by simp)
        have on : ¬ shown.IsCrashed := not_isCrashed_of_stage (shownStage.trans stage) nofun
        rw [driven]
        dsimp only
        rw [fetched_of_none on (Dock.result?_of_fresh carries.fresh)]
        refine shows.stands pursues ?_
        rw [calls, files']
        have same' : (dock.step (.disk (e.disk now))).settings = settings := same
        refine .fetching title same' kept rfl rfl carries ?_ ?_
        · rw [← same]
          exact ⟨[_, _, _], .requests probe d info ts offers, rfl, rfl⟩
        · simp [Stage.Apart, Stage.temporaries]
      case isFalse no => exact ended _

theorem stands_choosing (pursues : e.Pursues settings disk titleId target)
    (stage : e.stage = .choosing d dock)
    (calls : e.calls.reverse = [.info probe, .titles d, .titles d]) (files : e.files = found)
    (ready : dock.AtHand d) (fresh : fetchTicket ∉ dock.returned) (same : dock.settings = settings)
    (kept : dock.files = found) (a : Arrival) :
    Stands settings disk found titleId target
      ([.info (.ok info), .titles (.ok ts)] ++ (e.answer? now a).toList) (e.written? now a).toList
      (e.resume now a) := by
  have silent : e.written? now a = none := by simp [written?, stage]
  have heard : e.answer? now a = (Await.answer (.titles d)).answer? a := by
    rw [answer?, stage]
    rfl
  rw [silent, heard]
  obtain ⟨r, rfl, answered⟩ | ⟨deaf, unanswered⟩ := Await.answer?_titles d a
  · have resumed : e.resume now (.answer (.titles r)) = e.chosen now d dock r := by
      unfold resume
      rw [stage]
    rw [resumed, answered]
    exact stands_chosen pursues stage calls files ready fresh same kept info ts now r
  · rw [resume_of_choosing stage deaf, unanswered]
    refine ⟨pursues, ?_⟩
    rw [calls, stage, files]
    exact .choosing probe d info ts ready fresh same kept

theorem resume_of_fetching (stage : e.stage = .fetching title dock)
    (driven : e.drive now dock (.arrive a) = (shown, next)) :
    e.resume now a = shown.fetched title next := by
  unfold resume
  rw [stage]
  dsimp only
  rw [driven]

theorem fetched_of_crashed {message : String} (crashed : e.stage = .crashed message) :
    e.fetched title dock = e := by
  rw [fetched, crashed]

/-- The errand waits for its dock to fetch a title. -/
structure Fetches (settings : TransferSettings) (disk : Nat → Disk) (found : Tree)
    (titleId : String) (target : FetchTarget) (answers : List Answer) (title : Title)
    (called : Dock) (job : Job) (stage : Stage) (dock : Dock) (e : Errand) : Prop where
  pursues : e.Pursues settings disk titleId target
  waits : e.stage = .fetching title dock
  same : called.settings = settings
  kept : called.files = found
  ticket : job.ticket = fetchTicket
  aim : job.target = target
  carries : Dock.Carries called job stage dock
  follows : (stage.phase job).Follows settings titleId e.calls.reverse answers
  apart : DiskAvoids disk target.output → stage.Apart target.output

section Fetches

variable {called : Dock} {job : Job} {stage following : Stage} {moves : List TransferEvent}

theorem Fetches.on
    (h : Fetches settings disk found titleId target answers title called job stage dock e) :
    ¬ e.IsCrashed :=
  not_isCrashed_of_stage h.waits nofun

theorem Fetches.answer?_eq
    (h : Fetches settings disk found titleId target answers title called job stage dock e) (now : Nat)
    (a : Arrival) : e.answer? now a = (stage.await job).answer? a := by
  obtain ⟨heard, way⟩ := h.carries.way
  rw [answer?, h.waits, ErrandStage.await?, way.flight]
  rfl

theorem Fetches.goesOn
    (h : Fetches settings disk found titleId target answers title called job stage dock e)
    {answers' : List Answer} (driven : e.drive now dock (.arrive a) = (shown, next))
    (still : shown.stage = e.stage) (shows : Shows e shown made) (files : shown.files = next.files)
    (carries : Dock.Carries called job following next)
    (follows : (following.phase job).Follows settings titleId (e.calls.reverse ++ made) answers')
    (apart : DiskAvoids disk target.output → following.Apart target.output) :
    Stands settings disk found titleId target answers' [] (e.resume now a) := by
  have waits := Dock.result?_of_fresh carries.fresh
  rw [h.ticket] at waits
  have on : ¬ shown.IsCrashed := not_isCrashed_of_stage (still.trans h.waits) nofun
  rw [resume_of_fetching h.waits driven, fetched_of_none on waits]
  refine shows.stands h.pursues ?_
  rw [files]
  exact .fetching title h.same h.kept h.ticket h.aim carries follows apart

theorem Fetches.crashes
    (h : Fetches settings disk found titleId target answers title called job stage dock e)
    {count total : Nat} (driven : e.drive now dock (.arrive a) = (shown, next.drop))
    (crashed : shown.IsCrashed) (shows : Shows e shown made)
    (part : made <+: (following.await job).call?.toList) (files : shown.files = next.drop.files)
    (leads : stage.Leads a moves following) (told : .downloadProgress count total ∈ moves)
    (carries : Dock.Carries called job following next) :
    Stands settings disk found titleId target (answers ++ ((stage.await job).answer? a).toList) []
      (e.resume now a) := by
  obtain ⟨message, crashed⟩ := crashed
  obtain ⟨⟨last, answered⟩, uncalled, unanswered⟩ := leads.phase_of_progress job told
  rw [uncalled] at part
  obtain rfl := List.eq_nil_of_prefix_nil part
  have follows := h.follows
  rw [answered] at follows
  obtain ⟨heard, way⟩ := carries.way
  have cleared : next.drop.files = following.cleared next.files := by
    rw [Dock.drop, way.flight]
    rfl
  have grown := way.intact.grown
  rw [h.same, h.kept, h.aim, ← cleared, ← files] at grown
  rw [resume_of_fetching h.waits driven, fetched_of_crashed crashed]
  refine ⟨shows.pursues h.pursues, ?_⟩
  rw [shows.calls_eq, crashed, unanswered]
  simpa using Standing.crashed message follows grown

theorem Fetches.leads
    (h : Fetches settings disk found titleId target answers title called job stage dock e)
    (leads : stage.Leads a moves following) :
    let m := dock.step (.disk (e.disk now))
    Dock.Adds m (m.step (.arrive a)) moves [following.await job] →
      Dock.Carries called job following (m.step (.arrive a)) →
        Stands settings disk found titleId target
          (answers ++ ((stage.await job).answer? a).toList) [] (e.resume now a) := by
  intro m adds carries
  have made : [following.await job].filterMap Await.call? = (following.await job).call?.toList := by
    cases asked : (following.await job).call? <;> simp [asked]
  have cases := drive_cases h.on adds
  rw [made] at cases
  obtain ⟨shown, driven, still, shows, files⟩ |
    ⟨shown, driven, crashed, ⟨_, part, shows⟩, files, count, total, told⟩ := cases
  · refine h.goesOn driven still shows files carries (leads.phase h.follows) fun avoids => ?_
    exact (h.carries.disk _).apart carries (h.pursues.disk ▸ avoids now) (h.apart avoids)
  · exact h.crashes driven crashed shows part files leads told carries

theorem Fetches.fails
    (h : Fetches settings disk found titleId target answers title called job stage dock e)
    {f : Fault} :
    let m := dock.step (.disk (e.disk now))
    let left := m.step (.arrive a)
    stage.Closes m job a (.error f) → Dock.Adds m left [.state (.closing (.error f))] [] →
      left.result? job.ticket = some (.fetched (.error f)) →
        Grown (job.target.folders called.settings) called.files left.files →
          Stands settings disk found titleId target
            (answers ++ ((stage.await job).answer? a).toList) [] (e.resume now a) := by
  intro m left closes adds returned grown
  obtain ⟨shown, driven, still, shows, files⟩ := drive_of_quiet h.on adds (by simp)
  obtain ⟨last, answered, -⟩ := closes.phase h.follows
  rw [h.ticket] at returned
  rw [resume_of_fetching h.waits driven, fetched, still, h.waits, returned]
  refine shows.stands h.pursues ?_
  rw [files]
  rw [h.same, h.kept, h.aim] at grown
  simpa using Standing.failed _ answered grown

theorem Fetches.saves
    (h : Fetches settings disk found titleId target answers title called job stage dock e)
    {outcome : FetchOutcome} {content : Bytes} :
    let m := dock.step (.disk (e.disk now))
    let left := m.step (.arrive a)
    let paths := job.target.folders called.settings
    stage.Closes m job a (.ok outcome) → Dock.Adds m left [.state .succeeded] [] →
      left.result? job.ticket = some (.fetched (.ok outcome)) →
        ((∃ p, StoredAt paths job.target.output content called.files left.files p) ∨
          ¬ stage.Apart job.target.output ∧ Grown paths called.files left.files) →
            Stands settings disk found titleId target
              (answers ++ ((stage.await job).answer? a).toList) [content] (e.resume now a) := by
  intro m left paths closes adds returned stored
  obtain ⟨shown, driven, still, shows, files⟩ := drive_of_quiet h.on adds (by simp)
  have printed : Shows e (shown.print (savedText title outcome)) [] :=
    ⟨shows.purpose, shows.settings, shows.disk, shows.calls⟩
  obtain ⟨last, answered, whole⟩ := closes.phase h.follows
  obtain ⟨d, id, rfl⟩ := whole outcome rfl
  rw [h.ticket] at returned
  rw [resume_of_fetching h.waits driven, fetched, still, h.waits, returned]
  refine printed.stands h.pursues ?_
  rw [show (shown.print _).files = shown.files from rfl, files]
  have same : paths = target.folders settings := by rw [← h.same, ← h.aim]
  rw [same, h.kept, h.aim] at stored
  have drawn : ¬ stage.Apart target.output → ¬ DiskAvoids disk target.output := mt h.apart
  simpa using Standing.saved content answered (stored.imp_right (And.imp_left drawn))

theorem Fetches.resume
    (h : Fetches settings disk found titleId target answers title called job stage dock e) (now : Nat)
    (a : Arrival) :
    Stands settings disk found titleId target (answers ++ (e.answer? now a).toList)
      (e.written? now a).toList (e.resume now a) := by
  have put : e.written? now a = (dock.step (.disk (e.disk now))).written? a := by
    rw [written?, h.waits]
  rw [h.answer?_eq now a, put]
  have ready := h.carries.disk (e.disk now)
  cases ready.step a with
  | aside deaf silent still =>
    obtain ⟨shown, driven, shownStill, shows, files⟩ :=
      drive_of_quiet h.on (Dock.adds_of_eq (congrArg Dock.journal still)) (by simp)
    rw [still] at driven files
    rw [Stage.answer?_of_deaf deaf, silent]
    exact h.goesOn driven shownStill shows files ready (by simpa using h.follows) h.apart
  | leads leads adds silent carries =>
    rw [silent]
    exact h.leads leads adds carries
  | fails f closes adds returned silent grown =>
    rw [silent]
    exact h.fails closes adds returned grown
  | saves outcome closes adds returned content written stored =>
    rw [written]
    exact h.saves closes adds returned stored

end Fetches

theorem Stands.resume (h : Stands settings disk found titleId target answers written e) (now : Nat)
    (a : Arrival) :
    Stands settings disk found titleId target (answers ++ (e.answer? now a).toList)
      (written ++ (e.written? now a).toList) (e.resume now a) := by
  obtain ⟨pursues, standing⟩ := h
  have stays (still : e.resume now a = e) (waits : e.stage.await? now = none)
      (away : ∀ title dock, e.stage ≠ .fetching title dock) :
      Stands settings disk found titleId target (answers ++ (e.answer? now a).toList)
        (written ++ (e.written? now a).toList) (e.resume now a) := by
    have unanswered : e.answer? now a = none := by simp [answer?, waits]
    have unwritten : e.written? now a = none := by
      rw [written?]
      split
      case h_1 title dock stage => exact absurd stage (away title dock)
      case h_2 => rfl
    rw [still, unanswered, unwritten, Option.toList_none, Option.toList_none, List.append_nil,
      List.append_nil]
    exact ⟨pursues, standing⟩
  -- where the fetch stands says at which stage it is, and each stage hears in its own way
  generalize callsEq : e.calls.reverse = calls at standing
  generalize stageEq : e.stage = stage at standing
  generalize filesEq : e.files = files at standing
  cases standing with
  | refused | failed | saved =>
    exact stays (resume_of_ended stageEq now a) (by rw [stageEq]; rfl) (by simp [stageEq])
  | crashed =>
    exact stays (resume_of_crashed stageEq now a) (by rw [stageEq]; rfl) (by simp [stageEq])
  | probing address probe => exact stands_probing pursues stageEq callsEq filesEq a
  | docking probe d info present => exact stands_docking pursues stageEq callsEq a
  | choosing probe d info ts ready fresh same kept =>
    exact stands_choosing pursues stageEq callsEq filesEq ready fresh same kept a
  | fetching title same kept ticket aim carries follows apart =>
    subst callsEq
    exact Fetches.resume ⟨pursues, stageEq, same, kept, ticket, aim, carries, follows, apart⟩ now a

theorem Stands.run (h : Stands settings disk found titleId target [] [] e)
    (inputs : List (Nat × Arrival)) :
    Stands settings disk found titleId target (e.along answer? inputs) (e.along written? inputs)
      (e.run inputs) := by
  induction inputs using List.reverseRecOn with
  | nil => exact h
  | append_singleton inputs input ih =>
    obtain ⟨now, a⟩ := input
    rw [along_concat, along_concat, run_concat]
    exact ih.resume now a

end Steps

/-! ### What follows from where it stands -/

section Standing

variable {settings : TransferSettings} {disk : Nat → Disk} {found files : Tree} {titleId : String}
  {target : FetchTarget} {calls : List Call} {answers : List Answer} {written : List Bytes}
  {stage : ErrandStage}

theorem Standing.disciplined
    (h : Standing settings disk found titleId target calls answers stage files written) :
    Disciplined settings titleId calls answers := by
  cases h with
  | refused => exact disciplined_nil
  | probing address probe =>
    have follows : (Phase.waits (.info probe)).Follows settings titleId [.info probe] [] :=
      ⟨[], .probes probe, rfl, rfl⟩
    exact follows.disciplined
  | docking probe d info =>
    have follows : (Phase.waits (.titles d)).Follows settings titleId _ _ :=
      ⟨[_], .connects probe d info, rfl, rfl⟩
    exact follows.disciplined
  | choosing probe d info ts =>
    have follows : (Phase.waits (.titles d)).Follows settings titleId _ _ :=
      ⟨[_, _], .lists probe d info ts, rfl, rfl⟩
    exact follows.disciplined
  | fetching _ _ _ _ _ _ follows => exact follows.disciplined
  | crashed _ follows => exact follows.disciplined
  | failed _ follows => exact follows.disciplined
  | saved _ follows => exact follows.disciplined

theorem Standing.succeeds_iff
    (h : Standing settings disk found titleId target calls answers stage files written) :
    stage = .ended (.ok ()) ↔ written ≠ [] := by
  cases h <;> simp

theorem Standing.complete
    (h : Standing settings disk found titleId target calls answers stage files written)
    (ended : stage = .ended (.ok ())) : ∃ d id, .download d id ∈ calls := by
  cases h with
  | saved _ follows => exact ⟨_, _, follows.mem⟩
  | _ => cases ended

theorem Standing.stored
    (h : Standing settings disk found titleId target calls answers stage files written)
    {content : Bytes} (member : content ∈ written) :
    ∃ p, (∀ q, q ≠ p → Kept (target.folders settings) found files q) ∧
      (DiskAvoids disk target.output →
        files.locate target.output = .ok p ∧ files.get? p = some (.file content)) := by
  cases h with
  | saved _ follows stored =>
    obtain rfl := List.mem_singleton.1 member
    obtain ⟨p, stored⟩ | ⟨drawn, grown⟩ := stored
    · exact ⟨p, stored.others, fun _ => ⟨stored.leads, stored.held⟩⟩
    · exact ⟨[], fun q _ => grown.places q, fun avoids => absurd avoids drawn⟩
  | _ => cases member

theorem Standing.kept
    (h : Standing settings disk found titleId target calls answers stage files written)
    (nothing : written = []) {p : Place} (lasting : p ∉ stage.temporaries) :
    Kept (target.folders settings) found files p := by
  cases h with
  | refused | probing | docking | choosing => exact .inl rfl
  | @fetching _ _ _ called dock job stage same kept ticket aim carries =>
    obtain ⟨heard, way⟩ := carries.way
    have temporaries : dock.temporaries = stage.temporaries := by rw [Dock.temporaries, way.flight]
    rw [ErrandStage.temporaries, temporaries] at lasting
    have place := way.intact.kept lasting
    rw [same, kept, aim] at place
    exact place
  | crashed message follows grown => exact grown.places p
  | failed reason follows grown => exact grown.places p
  | saved => cases nothing

end Standing

/-- Whatever a device answers to a fetch, and whenever: its calls are disciplined, and it makes none
if the address is invalid. It succeeds if and only if it has written content, and then it has made
all of them. Then all places but one are as they were, but for new folders, and that one is where
its output leads and holds the content, as long as the disk does not draw the name of the output for
the spool. Until then, if it fails and if it crashes, nothing has changed at all but for such
folders and the temporary files of the stage. -/
theorem fetch_keeps_discipline (settings : TransferSettings) (presence : Presence) (files : Tree)
    (disk : Nat → Disk) (host : String) (port now : Nat) (titleId : String) (target : FetchTarget)
    (inputs : List (Nat × Arrival)) :
    let start := start (.fetch titleId target) settings presence files disk host port now
    let e := start.run inputs
    let written := start.along written? inputs
    let folders := target.folders settings
    Disciplined settings titleId e.calls.reverse (start.along answer? inputs) ∧
      (∀ f, manualAddress host port = .error f → e.calls = []) ∧
      (e.stage = .ended (.ok ()) ↔ written ≠ []) ∧
      (e.stage = .ended (.ok ()) → ∃ d id, .download d id ∈ e.calls) ∧
      (∀ content ∈ written, ∃ p, (∀ q, q ≠ p → Kept folders files e.files q) ∧
        (DiskAvoids disk target.output →
          e.files.locate target.output = .ok p ∧ e.files.get? p = some (.file content))) ∧
      (written = [] → ∀ p ∉ e.stage.temporaries, Kept folders files e.files p) := by
  intro start e written folders
  have stands :=
    (stands_start settings presence files disk host port now titleId target).run inputs
  have standing := stands.standing
  refine ⟨standing.disciplined, ?_, standing.succeeds_iff, ?_, ?_, ?_⟩
  · intro f invalid
    have stopped : start.stage = .ended (.error (toString f)) ∧ start.calls = [] := by
      simp only [start]
      rw [Errand.start, invalid]
      exact ⟨rfl, rfl⟩
    rw [show e = start from run_of_ended stopped.1 inputs]
    exact stopped.2
  · intro ended
    obtain ⟨d, id, member⟩ := standing.complete ended
    exact ⟨d, id, List.mem_reverse.1 member⟩
  · exact fun content member => standing.stored member
  · exact fun nothing p lasting => standing.kept nothing lasting

/-- The title is offered only when the titles are listed again, and is fetched. -/
theorem sample_fetch_keeps_discipline :
    let title : Title :=
      { titleId := "0100", name := "Game", version := "", size := 0, kind := .other
        extractable := true }
    let session : Session :=
      { operationId := "op-1", status := .completed, bytesTransferred := 0, totalBytes := 0
        errorMessage := none }
    let stream : PayloadStream := { bytes := [97], chunk := none, delay := 0, ending := .finished }
    let arrivals : List Arrival :=
      [.answer (.info (.ok [])), .answer (.titles (.ok [])), .answer (.titles (.ok [title])),
        .answer (.accepted (.ok "op-1")), .rested, .answer (.status (.ok session)),
        .answer (.download (.ok ⟨none, stream⟩)), .piece (.ok [97]), .piece (.ok []), .stored,
        .decoded (.ok [97]), .stored, .stored]
    let start := start (.fetch "0100" ⟨"games/one", .n64⟩) (Dock.sample "spool").settings (.new 1)
      (.empty []) (fun _ => .willing) "10.0.0.5" 8080 0
    let inputs := arrivals.map (0, ·)
    let e := start.run inputs
    Disciplined (Dock.sample "spool").settings "0100" e.calls.reverse
        (start.along answer? inputs) ∧
      e.calls.length = 6 ∧ e.stage = .ended (.ok ()) ∧ start.along written? inputs = [[97]] ∧
        ∃ p, e.files.locate "games/one" = .ok p ∧ e.files.get? p = some (.file [97]) := by
  intro title session stream arrivals start inputs e
  have written : start.along written? inputs = [[97]] := by decide +kernel
  have called : e.calls.length = 6 := by decide +kernel
  have avoids : DiskAvoids (fun _ => .willing) "games/one" :=
    fun _ => Files.Disk.avoids _ (by decide)
  obtain ⟨disciplined, -, succeeds, -, stored, -⟩ :=
    fetch_keeps_discipline (Dock.sample "spool").settings (.new 1) (.empty []) (fun _ => .willing)
      "10.0.0.5" 8080 0 "0100" ⟨"games/one", .n64⟩ inputs
  obtain ⟨p, -, there⟩ := stored [97] (written ▸ List.mem_singleton_self _)
  have wrote : start.along written? inputs ≠ [] := written ▸ List.cons_ne_nil _ _
  exact ⟨disciplined, called, succeeds.2 wrote, written, p, there avoids⟩

end Errand

end TitleDock
