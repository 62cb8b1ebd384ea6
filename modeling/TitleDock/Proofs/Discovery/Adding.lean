import TitleDock.Discovery.Run
import TitleDock.Proofs.Discovery.Keyed
import TitleDock.Proofs.Net.Literal
import TitleDock.Remote.Client

/-! Adding a device by hand while others use the registry. The address is checked before anything is
asked, the device is asked once, and when its answer comes the presence is changed in one move or
not at all. Whatever others do in between is kept. -/

namespace TitleDock

inductive AddingStage where
  | asking (address : SocketAddress)
  | returned (result : Except Fault Device)

structure Adding where
  presence : Presence
  stage : AddingStage
  /-- The calls that were made to devices. -/
  calls : List Call

/-- What happens meanwhile: others do something with the presence, or the device answers. -/
inductive AddingMoment where
  | other (change : Presence → Presence)
  | answer (now : Nat) (info : Except Fault DeviceInfo)

namespace AddingMoment

def others (moments : List AddingMoment) (p : Presence) : Presence :=
  moments.foldl (fun p m => match m with
    | other change => change p
    | answer .. => p) p

def isAnswer : AddingMoment → Bool
  | other _ => false
  | answer .. => true

theorem silent_or_answer (moments : List AddingMoment) :
    (∀ m ∈ moments, m.isAnswer = false) ∨ ∃ before now info after,
      moments = before ++ .answer now info :: after ∧ ∀ m ∈ before, m.isAnswer = false := by
  induction moments with
  | nil => exact .inl (List.forall_mem_nil _)
  | cons m moments ih =>
    cases m with
    | answer now info => exact .inr ⟨[], now, info, moments, rfl, List.forall_mem_nil _⟩
    | other change =>
      obtain silent | ⟨before, now, info, after, rfl, silent⟩ := ih
      · exact .inl (List.forall_mem_cons.2 ⟨rfl, silent⟩)
      · exact .inr ⟨.other change :: before, now, info, after, rfl, List.forall_mem_cons.2 ⟨rfl, silent⟩⟩

theorem others_append (earlier later : List AddingMoment) (p : Presence) :
    others (earlier ++ later) p = others later (others earlier p) :=
  List.foldl_append

end AddingMoment

namespace Adding

def start (p : Presence) (host : String) (port now : Nat) : Adding :=
  match manualAddress host port with
  | .error f => { presence := p, stage := .returned (.error f), calls := [] }
  | .ok a => { presence := p, stage := .asking a, calls := [.info (.probe a now)] }

def step (s : Adding) : AddingMoment → Adding
  | .other change => { s with presence := change s.presence }
  | .answer now info =>
    match s.stage with
    | .asking a =>
      let (result, presence) := s.presence.finishAdd now a info
      { s with presence, stage := .returned result }
    | .returned _ => s

def run (s : Adding) (moments : List AddingMoment) : Adding := moments.foldl step s

section Runs

variable {s : Adding} {moments : List AddingMoment} {a : SocketAddress}

theorem run_append (s : Adding) (earlier later : List AddingMoment) :
    s.run (earlier ++ later) = (s.run earlier).run later :=
  List.foldl_append

theorem calls_step (s : Adding) (m : AddingMoment) : (s.step m).calls = s.calls := by
  cases m with
  | other change => rfl
  | answer now info =>
    rw [step]
    split <;> rfl

theorem calls_run (s : Adding) (moments : List AddingMoment) : (s.run moments).calls = s.calls := by
  induction moments generalizing s with
  | nil => rfl
  | cons m moments ih => exact (ih (s.step m)).trans (calls_step s m)

theorem run_of_returned {r : Except Fault Device} (returned : s.stage = .returned r)
    (moments : List AddingMoment) :
    s.run moments = { s with presence := AddingMoment.others moments s.presence } := by
  induction moments generalizing s with
  | nil => rfl
  | cons m moments ih =>
    cases m with
    | other change => exact ih (s := s.step (.other change)) returned
    | answer now info =>
      have same : s.step (.answer now info) = s := by
        simp only [step, returned]
      exact (congrArg (run · moments) same).trans (ih returned)

theorem run_of_silent (silent : ∀ m ∈ moments, m.isAnswer = false) (s : Adding) :
    s.run moments = { s with presence := AddingMoment.others moments s.presence } := by
  induction moments generalizing s with
  | nil => rfl
  | cons m moments ih =>
    obtain ⟨first, later⟩ := List.forall_mem_cons.1 silent
    cases m with
    | other change => exact ih later (s.step (.other change))
    | answer => cases first

end Runs

end Adding

/-- The address that a host and a port name: a literal, blanks aside, and a number of 16 bits other
than zero. -/
structure NamesAddress (host : String) (port : Nat) (a : SocketAddress) : Prop where
  host : a.ip.IsPadded host.toList
  port : a.port.toNat = port
  valid : a.port ≠ 0
  plain : a = .ofIp a.ip a.port

section Checking

variable {host : String} {port : Nat} {a : SocketAddress}

theorem namesAddress_ofIp {ip : IpAddress} (literal : IpAddress.ofText? (Text.trim host.toList) = some ip)
    (least : 1 ≤ port) (most : port ≤ 65535) : NamesAddress host port (.ofIp ip port.toUInt16) := by
  have value : port.toUInt16.toNat = port := by
    simpa using Nat.mod_eq_of_lt (show port < 65536 by omega)
  have valid : port.toUInt16 ≠ 0 := fun zero => by
    have : port = 0 := value.symm.trans (congrArg UInt16.toNat zero)
    omega
  have padded := IpAddress.ofText?_trim_eq_some_iff.1 literal
  cases ip <;> exact ⟨padded, value, valid, rfl⟩

theorem manualAddress_cases (host : String) (port : Nat) :
    (∃ a, NamesAddress host port a ∧ manualAddress host port = .ok a) ∨
      (¬ ∃ a, NamesAddress host port a) ∧
        ∃ text, manualAddress host port = .error (.invalidAddress text) := by
  rw [manualAddress]
  cases literal : IpAddress.ofText? (Text.trim host.toList) with
  | none =>
    refine .inr ⟨?_, _, rfl⟩
    rintro ⟨a, names⟩
    cases literal.symm.trans (IpAddress.ofText?_trim_eq_some_iff.2 names.host)
  | some ip =>
    by_cases range : 1 ≤ port ∧ port ≤ Decimal.largest16
    · exact .inl ⟨_, namesAddress_ofIp literal range.1 range.2, if_pos range⟩
    · refine .inr ⟨?_, _, if_neg range⟩
      rintro ⟨a, names⟩
      refine range ⟨Nat.pos_of_ne_zero fun zero => names.valid ?_, ?_⟩
      · exact UInt16.toNat_inj.1 (names.port.trans zero)
      · rw [← names.port]
        exact Nat.le_of_lt_succ a.port.toNat_lt

theorem manualAddress_refused (invalid : ¬ ∃ a, NamesAddress host port a) :
    ∃ text, manualAddress host port = .error (.invalidAddress text) := by
  obtain ⟨a, names, -⟩ | ⟨-, refused⟩ := manualAddress_cases host port
  · exact absurd ⟨a, names⟩ invalid
  · exact refused

theorem NamesAddress.manualAddress_eq (h : NamesAddress host port a) :
    manualAddress host port = .ok a := by
  obtain ⟨b, names, checked⟩ | ⟨invalid, -⟩ := manualAddress_cases host port
  · have same : a.ip = b.ip := Option.some.inj <|
      (IpAddress.ofText?_trim_eq_some_iff.2 h.host).symm.trans
        (IpAddress.ofText?_trim_eq_some_iff.2 names.host)
    have port : a.port = b.port := UInt16.toNat_inj.1 (h.port.trans names.port.symm)
    rw [checked, h.plain, names.plain, same, port]
  · exact absurd ⟨a, h⟩ invalid

end Checking

/-- Storing a device: it is found under its address, the rest is found as before, and it is told of
if its address was unknown. -/
structure Presence.Stored (p : Presence) (d : Device) (q : Presence) : Prop where
  found : q.known.get? d.address = some d
  others : ∀ a, a ≠ d.address → q.known.get? a = p.known.get? a
  told : q.channel = p.channel.sendAll
    (if p.known.get? d.address = none then [.discovered d] else [])

theorem Presence.stored_upsert (p : Presence) (d : Device) : p.Stored d (p.upsert d).2 := by
  refine ⟨?_, fun a other => ?_, ?_⟩
  · exact (DeviceMap.get?_put p.known d.address d.address d).trans (if_pos rfl)
  · exact (DeviceMap.get?_put p.known d.address a d).trans (if_neg other)
  · rw [Presence.upsert, Presence.apply, DeviceMap.upsert, DeviceMap.isKnown]
    by_cases unknown : p.known.get? d.address = none
    · simp [unknown]
    · simp [unknown, Option.isSome_iff_ne_none.2 unknown]

namespace Adding

section Ends

variable {p : Presence} {host : String} {port started : Nat} {a : SocketAddress}
  {moments : List AddingMoment}

theorem run_of_refused (invalid : ¬ ∃ a, NamesAddress host port a) (p : Presence) (started : Nat)
    (moments : List AddingMoment) : ∃ text, (start p host port started).run moments =
      { presence := AddingMoment.others moments p
        stage := .returned (.error (.invalidAddress text)), calls := [] } := by
  obtain ⟨text, refused⟩ := manualAddress_refused invalid
  refine ⟨text, ?_⟩
  rw [start, refused]
  exact run_of_returned rfl moments

theorem start_of_names (names : NamesAddress host port a) (p : Presence) (started : Nat) :
    start p host port started =
      { presence := p, stage := .asking a, calls := [.info (.probe a started)] } := by
  rw [start, names.manualAddress_eq]

theorem run_of_waiting (names : NamesAddress host port a)
    (silent : ∀ m ∈ moments, m.isAnswer = false) : (start p host port started).run moments =
      { presence := AddingMoment.others moments p, stage := .asking a
        calls := [.info (.probe a started)] } := by
  rw [run_of_silent silent, start_of_names names]

theorem run_of_answer (names : NamesAddress host port a) {before after : List AddingMoment}
    (silent : ∀ m ∈ before, m.isAnswer = false) (now : Nat) (info : Except Fault DeviceInfo) :
    let q := (AddingMoment.others before p).finishAdd now a info
    (start p host port started).run (before ++ .answer now info :: after) =
      { presence := AddingMoment.others after q.2, stage := .returned q.1
        calls := [.info (.probe a started)] } := by
  intro q
  rw [run_append, run_of_waiting names silent]
  exact run_of_returned rfl after

theorem stage_ne_invalidAddress (names : NamesAddress host port a) (text : String) :
    ((start p host port started).run moments).stage ≠ .returned (.error (.invalidAddress text)) := by
  obtain silent | ⟨before, now, info, after, rfl, silent⟩ := AddingMoment.silent_or_answer moments
  · rw [run_of_waiting names silent]
    simp
  · rw [run_of_answer names silent]
    cases info <;> simp [Presence.finishAdd, Fault.ofProbe]

end Ends

end Adding

theorem DiscoveryRun.add_is_adding (r : DiscoveryRun) (host : String) (port latency : Nat)
    (info : Except Fault DeviceInfo) : ∃ moments result asked,
    let s := (Adding.start r.presence host port r.now).run moments
    (r.add host port latency info).1 = .added result asked ∧ s.stage = .returned result ∧
      s.calls = asked.toList.map (fun a => .info (.probe a r.now)) ∧
      (r.add host port latency info).2.presence = s.presence := by
  obtain ⟨a, names, checked⟩ | ⟨invalid, -⟩ := manualAddress_cases host port
  · by_cases now : latency = 0
    · refine ⟨[.answer r.now info], (r.presence.finishAdd r.now a info).1, some a, ?_⟩
      rw [Adding.start_of_names names, add, checked]
      simp [now, changed, Adding.run, Adding.step]
    · refine ⟨[.other fun p => (r.feed.settle r.now p).2, .answer (r.now + latency) info],
        (r.settled.presence.finishAdd (r.now + latency) a info).1, some a, ?_⟩
      rw [Adding.start_of_names names, add, checked]
      simp [now, changed, Adding.run, Adding.step, settled]
  · obtain ⟨text, refused⟩ := manualAddress_refused invalid
    refine ⟨[], .error (.invalidAddress text), none, ?_⟩
    rw [Adding.start, add, refused]
    exact ⟨rfl, rfl, rfl, rfl⟩

/-- While a device is added by hand, others may do anything in between. An invalid address is
refused, and nothing is asked. For any other the device is asked for its info, once. Until it
answers, and if the address is invalid or the answer is a fault, the presence is what others make of
it alone. If the answer is its info, the device is stored under its address, as it is returned;
nothing else changes, and it is told of if its address was unknown at that time. -/
theorem manual_add_is_atomic (p : Presence) (host : String) (port started : Nat)
    (moments : List AddingMoment) :
    let s := (Adding.start p host port started).run moments
    ((∃ text, s.stage = .returned (.error (.invalidAddress text))) ↔
        ¬ ∃ a, NamesAddress host port a) ∧
      ((¬ ∃ a, NamesAddress host port a) →
        s.calls = [] ∧ s.presence = AddingMoment.others moments p) ∧
      ∀ a, NamesAddress host port a → s.calls = [.info (.probe a started)] ∧
        ((∀ m ∈ moments, m.isAnswer = false) →
          s.stage = .asking a ∧ s.presence = AddingMoment.others moments p) ∧
        ∀ before now info after, moments = before ++ .answer now info :: after →
          (∀ m ∈ before, m.isAnswer = false) →
          (∀ f, info = .error f → s.presence = AddingMoment.others moments p ∧
            s.stage = .returned (.error (.connection
              ("Failed to connect to device at " ++ toString a ++ ": " ++ toString f)))) ∧
          ∀ i, info = .ok i → ∃ d q, s.stage = .returned (.ok d) ∧ d.address = a ∧
            d.name = (i.get? "name").getD "Unknown Device" ∧
            d.version = (i.get? "version").getD "Unknown" ∧ d.lastSeen = now ∧
            (AddingMoment.others before p).Stored d q ∧
            s.presence = AddingMoment.others after q := by
  intro s
  refine ⟨⟨?_, fun invalid => ?_⟩, fun invalid => ?_, fun a names => ⟨?_, fun silent => ?_, ?_⟩⟩
  · rintro ⟨text, invalid⟩ ⟨a, names⟩
    exact Adding.stage_ne_invalidAddress names text invalid
  · obtain ⟨text, refused⟩ := Adding.run_of_refused invalid p started moments
    exact ⟨text, congrArg Adding.stage refused⟩
  · obtain ⟨text, refused⟩ := Adding.run_of_refused invalid p started moments
    exact ⟨congrArg Adding.calls refused, congrArg Adding.presence refused⟩
  · have asked := Adding.calls_run (Adding.start p host port started) moments
    exact asked.trans (by rw [Adding.start_of_names names])
  · have waits : s = _ := Adding.run_of_waiting names silent
    exact ⟨congrArg Adding.stage waits, congrArg Adding.presence waits⟩
  · rintro before now info after rfl silent
    have ends : s = _ := Adding.run_of_answer names silent now info
    constructor
    · rintro f rfl
      refine ⟨?_, congrArg Adding.stage ends⟩
      rw [congrArg Adding.presence ends, AddingMoment.others_append]
      rfl
    · rintro i rfl
      exact ⟨.ofInfo a i now, ((AddingMoment.others before p).upsert _).2, congrArg Adding.stage ends,
        rfl, rfl, rfl, rfl, Presence.stored_upsert _ _, congrArg Adding.presence ends⟩

/-- Someone else stores the address while the device is asked; the device does not give its name. It
is stored instead, and nobody is told of it again. -/
theorem manual_add_replaces_what_came_first :
    let a : SocketAddress := .v4 ⟨10, 0, 0, 7⟩ 6064
    let first : Device := { address := a, name := "Attic", version := "1.0", lastSeen := 3 }
    let before : List AddingMoment := [.other fun p => (p.upsert first).2]
    let p := AddingMoment.others before (.new 4)
    let s := (Adding.start (.new 4) " 10.0.0.7\t" 6064 1).run
      (before ++ .answer 5 (.ok [("version", "2.0")]) :: [])
    p.channel.kept = [.discovered first] ∧ s.calls = [.info (.probe a 1)] ∧
      ∃ d, s.stage = .returned (.ok d) ∧ d.name = "Unknown Device" ∧ d.version = "2.0" ∧
        s.presence.known.get? a = some d ∧ s.presence.channel = p.channel.sendAll [] := by
  intro a first before p s
  have names : NamesAddress " 10.0.0.7\t" 6064 a :=
    ⟨⟨[' '], a.ip.text, ['\t'], by decide, by simp [Text.isBlank], by simp [Text.isBlank], rfl⟩,
      by decide, by decide, rfl⟩
  obtain ⟨asked, -, answered⟩ :=
    (manual_add_is_atomic (.new 4) " 10.0.0.7\t" 6064 1 _).2.2 a names
  obtain ⟨-, stored⟩ := answered before 5 (.ok [("version", "2.0")]) [] rfl (by decide)
  obtain ⟨d, q, returned, same, name, version, -, kept, presence⟩ := stored _ rfl
  refine ⟨by decide, asked, d, returned, name, version, ?_, ?_⟩
  · rw [presence, ← same]
    exact kept.found
  · rw [presence]
    refine kept.told.trans ?_
    rw [same]
    rfl

end TitleDock
