import TitleDock.Discovery.Beacon
import TitleDock.Proofs.Discovery.Replay

/-! What a beacon makes of replies and sweeps. Each reply opens a silence at its address, and a
sweep that finds it too old makes it overdue. The registry holds the devices whose last silence is
not overdue. At every address a device is discovered by the first reply and by each one after an
overdue silence, and it is lost once in every overdue silence. -/

namespace TitleDock

theorem SocketAddress.ofIp_inj {ip ip' : IpAddress} {port port' : UInt16} :
    ofIp ip port = ofIp ip' port' ↔ ip = ip' ∧ port = port' := by
  cases ip <;> cases ip' <;> simp [ofIp]

namespace DeviceMap

variable {m : DeviceMap}

theorem Keyed.lose {c : Change (List Device)} (h : Keyed c.map) (a : SocketAddress) :
    Keyed (DeviceMap.lose c a).map := by
  rw [DeviceMap.lose]
  split
  · exact h.erase a
  · exact h

theorem get?_lose (c : Change (List Device)) (a b : SocketAddress) :
    (DeviceMap.lose c b).map.get? a = if a = b then none else c.map.get? a := by
  rw [DeviceMap.lose]
  split
  case h_1 => exact get?_erase c.map a b
  case h_2 missing =>
    split
    case isTrue same => rw [same, missing]
    case isFalse => rfl

theorem Keyed.events_lose {c : Change (List Device)} (h : Keyed c.map) (a b : SocketAddress) :
    (DeviceMap.lose c b).events.filter (·.address = a) = c.events.filter (·.address = a) ++
      if a = b then (c.map.get? a).toList.map .lost else [] := by
  rw [DeviceMap.lose]
  split
  case h_1 d found =>
    obtain rfl := h.address_of_get? found
    by_cases here : a = d.address
    · subst here
      simp [found, RegistryEvent.address]
    · simp [RegistryEvent.address, here, eq_comm]
  case h_2 missing =>
    split
    case isTrue same => simp [same, missing]
    case isFalse => simp

theorem Keyed.foldl_lose {c : Change (List Device)} (h : Keyed c.map) (stale : List SocketAddress)
    (a : SocketAddress) :
    (stale.foldl DeviceMap.lose c).map.get? a = (if a ∈ stale then none else c.map.get? a) ∧
      (stale.foldl DeviceMap.lose c).events.filter (·.address = a) =
        c.events.filter (·.address = a) ++
          if a ∈ stale then (c.map.get? a).toList.map .lost else [] := by
  induction stale generalizing c with
  | nil => simp
  | cons b stale ih =>
    obtain ⟨left, told⟩ := ih (h.lose b)
    rw [List.foldl_cons, left, told, get?_lose, h.events_lose]
    by_cases here : a = b <;> simp [here]

theorem Keyed.mem_stale (h : Keyed m) (now maxAge : Nat) (a : SocketAddress) :
    a ∈ (m.filter fun e => maxAge < e.2.age now).map (·.2.address) ↔
      ∃ d, m.get? a = some d ∧ maxAge < d.age now := by
  simp only [List.mem_map, List.mem_filter, decide_eq_true_eq]
  constructor
  · rintro ⟨e, ⟨member, old⟩, rfl⟩
    exact ⟨e.2, h.get?_eq_some.2 (h.own e member ▸ member), old⟩
  · rintro ⟨d, found, old⟩
    exact ⟨(a, d), ⟨mem_of_get? found, old⟩, h.address_of_get? found⟩

theorem Keyed.evict (h : Keyed m) (now maxAge : Nat) (a : SocketAddress) :
    (m.evict now maxAge).map.get? a = ((m.get? a).filter fun d => d.age now ≤ maxAge) ∧
      (m.evict now maxAge).events.filter (·.address = a) =
        ((m.get? a).filter fun d => maxAge < d.age now).toList.map .lost := by
  let start : Change (List Device) := { map := m, events := [], answer := [] }
  obtain ⟨left, told⟩ := Keyed.foldl_lose (c := start) h
    ((m.filter fun e => maxAge < e.2.age now).map (·.2.address)) a
  rw [DeviceMap.evict, left, told]
  simp only [h.mem_stale, start]
  cases found : m.get? a with
  | none => simp
  | some d => by_cases old : maxAge < d.age now <;> simp [Option.filter, old, Nat.not_lt.1]

theorem Keyed.sight (h : Keyed m) {d : Device} {now : Nat} (fresh : d.lastSeen = now)
    (a : SocketAddress) :
    (m.sight now d).map.get? a = (if a = d.address then some d else m.get? a) ∧
      (m.sight now d).events.filter (·.address = a) =
        if a = d.address ∧ m.get? a = none then [.discovered d] else [] := by
  subst fresh
  rw [DeviceMap.sight]
  split
  case h_1 known found =>
    have same : { known with lastSeen := d.lastSeen, name := d.name, version := d.version } = d := by
      obtain ⟨address, name, version, seen⟩ := d
      cases known
      simpa using h.address_of_get? found
    rw [same]
    refine ⟨get?_put m d.address a d, (if_neg ?_).symm⟩
    rintro ⟨rfl, missing⟩
    simp [found] at missing
  case h_2 missing =>
    refine ⟨get?_put m d.address a d, ?_⟩
    by_cases here : d.address = a
    · subst here
      simp [missing, RegistryEvent.address]
    · simp [RegistryEvent.address, here, Ne.symm here]

end DeviceMap

/-- What follows a reply at its address: the device that it told of, and the times of the sweeps
until the next reply, the last one first. -/
structure Silence where
  device : Device
  sweeps : List Nat

namespace Silence

def isOverdue (staleAfter : Nat) (s : Silence) : Bool :=
  s.sweeps.any fun now => staleAfter < s.device.age now

def swept (s : Silence) (now : Nat) : Silence := { s with sweeps := now :: s.sweeps }

@[simp] theorem device_swept (s : Silence) (now : Nat) : (s.swept now).device = s.device := rfl

@[simp] theorem isOverdue_swept (staleAfter : Nat) (s : Silence) (now : Nat) :
    (s.swept now).isOverdue staleAfter =
      (decide (staleAfter < s.device.age now) || s.isOverdue staleAfter) :=
  List.any_cons

/-- The device that is there after silences, the last one first. -/
def present? (staleAfter : Nat) : List Silence → Option Device
  | [] => none
  | s :: _ => if s.isOverdue staleAfter then none else some s.device

/-- What is told of silences, the last one first: that the device was discovered, unless it still
was there, and that it was lost, if the silence is overdue. -/
def told (staleAfter : Nat) : List Silence → List RegistryEvent
  | [] => []
  | s :: earlier =>
    told staleAfter earlier ++
      (if (present? staleAfter earlier).isNone then [.discovered s.device] else []) ++
        if s.isOverdue staleAfter then [.lost s.device] else []

end Silence

namespace Beacon

def sign? : Nat × BeaconInput → Option (Nat × Option Device)
  | (now, .tick) => some (now, none)
  | (now, .datagram source bytes) =>
    (Reply.ofDatagram? (bytes.take maxDatagram)).map fun reply =>
      (now, some (reply.toDevice source.ip now))

def callFor (staleAfter : Nat) : Nat × Option Device → RegistryCall
  | (now, none) => .evict now staleAfter
  | (now, some d) => .sight now d

def heed (a : SocketAddress) (ss : List Silence) : Nat × Option Device → List Silence
  | (now, none) => ss.modifyHead (·.swept now)
  | (_, some d) => if d.address = a then { device := d, sweeps := [] } :: ss else ss

def silences (a : SocketAddress) (signs : List (Nat × Option Device)) : List Silence :=
  signs.foldl (heed a) []

theorem silences_concat (a : SocketAddress) (signs : List (Nat × Option Device))
    (sign : Nat × Option Device) :
    silences a (signs ++ [sign]) = heed a (silences a signs) sign :=
  List.foldl_concat ..

section Heed

variable {staleAfter : Nat} {a : SocketAddress} {ss : List Silence}

theorem present?_heed_sweep (now : Nat) :
    Silence.present? staleAfter (heed a ss (now, none)) =
      (Silence.present? staleAfter ss).filter fun d => d.age now ≤ staleAfter := by
  cases ss with
  | nil => rfl
  | cons s earlier =>
    cases overdue : s.isOverdue staleAfter with
    | true => simp [heed, Silence.present?, overdue]
    | false =>
      by_cases old : staleAfter < s.device.age now
      · simp [heed, Silence.present?, Option.filter, overdue, old]
      · simp [heed, Silence.present?, Option.filter, overdue, old, Nat.not_lt.1 old]

theorem told_heed_sweep (now : Nat) :
    Silence.told staleAfter (heed a ss (now, none)) = Silence.told staleAfter ss ++
      ((Silence.present? staleAfter ss).filter fun d => staleAfter < d.age now).toList.map .lost := by
  cases ss with
  | nil => rfl
  | cons s earlier =>
    cases overdue : s.isOverdue staleAfter with
    | true => simp [heed, Silence.told, Silence.present?, overdue]
    | false =>
      by_cases old : staleAfter < s.device.age now <;>
        simp [heed, Silence.told, Silence.present?, Option.filter, overdue, old]

theorem present?_heed_reply (now : Nat) (d : Device) :
    Silence.present? staleAfter (heed a ss (now, some d)) =
      if a = d.address then some d else Silence.present? staleAfter ss := by
  by_cases here : d.address = a
  · simp [heed, here, Silence.present?, Silence.isOverdue]
  · simp [heed, here, Ne.symm here]

theorem told_heed_reply (now : Nat) (d : Device) :
    Silence.told staleAfter (heed a ss (now, some d)) = Silence.told staleAfter ss ++
      if a = d.address ∧ Silence.present? staleAfter ss = none then [.discovered d] else [] := by
  by_cases here : d.address = a
  · simp [heed, here, Silence.told, Silence.isOverdue]
  · simp [heed, here, Ne.symm here]

end Heed

/-- The registry and what it told, as replies and sweeps say. -/
structure Reflects (staleAfter : Nat) (signs : List (Nat × Option Device))
    (es : List RegistryEvent) (q : Presence) : Prop where
  keyed : q.known.Keyed
  holds : ∀ a, q.known.get? a = Silence.present? staleAfter (silences a signs)
  told : ∀ a, es.filter (·.address = a) = Silence.told staleAfter (silences a signs)

section Reflects

variable {staleAfter : Nat} {signs : List (Nat × Option Device)} {es : List RegistryEvent}
  {q : Presence}

theorem Reflects.sweep (h : Reflects staleAfter signs es q) {shuffled : DeviceMap}
    (same : q.known.Perm shuffled) (now : Nat) :
    Reflects staleAfter (signs ++ [(now, none)])
      (es ++ (RegistryCall.change shuffled (.evict now staleAfter)).events)
      (RegistryCall.perform { q with known := shuffled } (.evict now staleAfter)).2 := by
  have keyed := h.keyed.perm same
  rw [RegistryCall.perform_eq]
  refine ⟨keyed.change _, fun a => ?_, fun a => ?_⟩
  · have left := (keyed.evict now staleAfter a).1
    rw [silences_concat, present?_heed_sweep, ← h.holds, ← h.keyed.get?_perm same]
    exact left
  · have lost := (keyed.evict now staleAfter a).2
    rw [silences_concat, told_heed_sweep, ← h.told, ← h.holds, ← h.keyed.get?_perm same,
      List.filter_append]
    exact congrArg _ lost

theorem Reflects.reply (h : Reflects staleAfter signs es q) {shuffled : DeviceMap}
    (same : q.known.Perm shuffled) {now : Nat} {d : Device} (fresh : d.lastSeen = now) :
    Reflects staleAfter (signs ++ [(now, some d)])
      (es ++ (RegistryCall.change shuffled (.sight now d)).events)
      (RegistryCall.perform { q with known := shuffled } (.sight now d)).2 := by
  have keyed := h.keyed.perm same
  rw [RegistryCall.perform_eq]
  refine ⟨keyed.change _, fun a => ?_, fun a => ?_⟩
  · have left := (keyed.sight fresh a).1
    rw [silences_concat, present?_heed_reply, ← h.holds, ← h.keyed.get?_perm same]
    exact left
  · have found := (keyed.sight fresh a).2
    rw [silences_concat, told_heed_reply, ← h.told, ← h.holds, ← h.keyed.get?_perm same,
      List.filter_append]
    exact congrArg _ found

theorem reflects_runs {capacity : Nat} (fresh : ∀ sign ∈ signs, ∀ d ∈ sign.2, d.lastSeen = sign.1)
    (run : (Presence.new capacity).Runs (signs.map (callFor staleAfter)) es q) :
    Reflects staleAfter signs es q := by
  induction signs using List.reverseRecOn generalizing es q with
  | nil =>
    obtain ⟨rfl, rfl⟩ := run.of_nil
    exact ⟨DeviceMap.keyed_nil, fun a => rfl, fun a => rfl⟩
  | append_singleton signs sign ih =>
    rw [List.map_append] at run
    obtain ⟨es', q', shuffled, run', same, rfl, rfl⟩ := run.of_concat
    have before := ih (fun sign member => fresh sign (List.mem_append_left _ member)) run'
    obtain ⟨now, _ | d⟩ := sign
    · exact before.sweep same now
    · exact before.reply same (fresh (now, some d) (by simp) d rfl)

end Reflects

def replyFrom? (ip : IpAddress) (port : UInt16) : Nat × BeaconInput → Option Device
  | (_, .tick) => none
  | (now, .datagram source bytes) =>
    if source.ip = ip then
      ((Reply.ofDatagram? (bytes.take maxDatagram)).filter (·.port = port)).map (·.toDevice ip now)
    else none

def latest? (ip : IpAddress) (port : UInt16) (inputs : List (Nat × BeaconInput)) : Option Device :=
  (inputs.filterMap (replyFrom? ip port)).getLast?

section Inputs

variable {staleAfter : Nat} {signs : List (Nat × Option Device)} {a : SocketAddress}

theorem replyFrom?_eq (ip : IpAddress) (port : UInt16) (x : Nat × BeaconInput) :
    replyFrom? ip port x =
      (sign? x).bind fun sign => sign.2.filter (·.address = .ofIp ip port) := by
  obtain ⟨now, _ | ⟨source, bytes⟩⟩ := x
  · rfl
  · rw [replyFrom?, sign?]
    cases Reply.ofDatagram? (bytes.take maxDatagram) with
    | none => simp
    | some reply =>
      by_cases host : source.ip = ip <;> by_cases named : reply.port = port <;>
        simp [Reply.toDevice, SocketAddress.ofIp_inj, Option.filter, host, named]

theorem step_eq (staleAfter : Nat) (p : Presence) (x : Nat × BeaconInput) :
    step staleAfter p x = match sign? x with
      | some sign => ((callFor staleAfter sign).perform p).2
      | none => p := by
  obtain ⟨now, _ | ⟨source, bytes⟩⟩ := x
  · rfl
  · rw [step, hear, sign?]
    cases Reply.ofDatagram? (bytes.take maxDatagram) <;> rfl

theorem run_eq (staleAfter : Nat) (inputs : List (Nat × BeaconInput)) (p : Presence) :
    run staleAfter inputs p =
      (inputs.filterMap sign?).foldl (fun p sign => ((callFor staleAfter sign).perform p).2) p := by
  induction inputs generalizing p with
  | nil => rfl
  | cons x inputs ih =>
    have first := step_eq staleAfter p x
    rw [run, List.foldl_cons, first]
    cases shown : sign? x with
    | none =>
      rw [List.filterMap_cons_none shown]
      exact ih p
    | some sign =>
      rw [List.filterMap_cons_some shown]
      exact ih _

theorem runs_foldl (staleAfter : Nat) (signs : List (Nat × Option Device)) (p : Presence) :
    ∃ es, p.Runs (signs.map (callFor staleAfter)) es
      (signs.foldl (fun p sign => ((callFor staleAfter sign).perform p).2) p) := by
  induction signs using List.reverseRecOn with
  | nil => exact ⟨[], .stay⟩
  | append_singleton signs sign ih =>
    obtain ⟨es, runs⟩ := ih
    rw [List.map_append, List.foldl_concat]
    exact ⟨_, .call runs (.refl _) (callFor staleAfter sign)⟩

theorem device_of_head_silences (a : SocketAddress) (signs : List (Nat × Option Device)) :
    (silences a signs).head?.map Silence.device =
      (signs.filterMap fun sign => sign.2.filter (·.address = a)).getLast? := by
  induction signs using List.reverseRecOn with
  | nil => rfl
  | append_singleton signs sign ih =>
    obtain ⟨now, _ | d⟩ := sign
    · rw [silences_concat, List.filterMap_append, List.filterMap_cons_none rfl, List.filterMap_nil,
        List.append_nil, ← ih]
      cases silences a signs <;> rfl
    · rw [silences_concat]
      by_cases here : d.address = a
      · simp [heed, here, Option.filter]
      · simp [heed, here, ih, Option.filter]

theorem mem_of_mem_sweeps {s : Silence} {now : Nat} (member : s ∈ silences a signs)
    (swept : now ∈ s.sweeps) : (now, none) ∈ signs := by
  induction signs using List.reverseRecOn generalizing s with
  | nil => simp [silences] at member
  | append_singleton signs sign ih =>
    rw [silences_concat] at member
    obtain ⟨time, _ | d⟩ := sign
    · cases before : silences a signs with
      | nil => simp [before, heed] at member
      | cons t earlier =>
        rw [before] at ih
        obtain rfl | later : s = t.swept time ∨ s ∈ earlier := by simpa [before, heed] using member
        · obtain rfl | old : now = time ∨ now ∈ t.sweeps := by simpa [Silence.swept] using swept
          · simp
          · exact List.mem_append_left _ (ih (List.mem_cons_self ..) old)
        · exact List.mem_append_left _ (ih (List.mem_cons_of_mem _ later) swept)
    · by_cases here : d.address = a
      · obtain rfl | earlier : s = { device := d, sweeps := [] } ∨ s ∈ silences a signs := by
          simpa [heed, here] using member
        · cases swept
        · exact List.mem_append_left _ (ih earlier swept)
      · exact List.mem_append_left _ (ih (by simpa [heed, here] using member) swept)

theorem present?_silences_sweep {now : Nat} (swept : ∀ time, (time, none) ∈ signs → time ≤ now) :
    Silence.present? staleAfter (silences a (signs ++ [(now, none)])) =
      ((silences a signs).head?.map Silence.device).filter fun d => d.age now ≤ staleAfter := by
  rw [silences_concat, present?_heed_sweep]
  cases all : silences a signs with
  | nil => rfl
  | cons s earlier =>
    cases overdue : s.isOverdue staleAfter with
    | false => simp [Silence.present?, overdue]
    | true =>
      obtain ⟨time, member, late⟩ := List.any_eq_true.1 overdue
      have before : time ≤ now := swept time (mem_of_mem_sweeps (a := a) (by simp [all]) member)
      have old : staleAfter < time - s.device.lastSeen := of_decide_eq_true late
      have older : ¬ s.device.age now ≤ staleAfter := by
        rw [Device.age]
        omega
      simp [Silence.present?, Option.filter, overdue, older]

theorem mem_signs {inputs : List (Nat × BeaconInput)} {sign : Nat × Option Device}
    (member : sign ∈ inputs.filterMap sign?) :
    (∃ x ∈ inputs, x.1 = sign.1) ∧
      ∀ d ∈ sign.2, d.lastSeen = sign.1 ∧ ∃ ip port, d.address = .ofIp ip port := by
  obtain ⟨⟨now, i⟩, there, shown⟩ := List.mem_filterMap.1 member
  cases i with
  | tick =>
    obtain rfl : _ = sign := Option.some.inj shown
    exact ⟨⟨_, there, rfl⟩, by simp⟩
  | datagram source bytes =>
    obtain ⟨reply, -, rfl⟩ := Option.map_eq_some_iff.1 shown
    refine ⟨⟨_, there, rfl⟩, fun d told => ?_⟩
    obtain rfl : reply.toDevice source.ip now = d := by simpa using told
    exact ⟨rfl, source.ip, reply.port, rfl⟩

theorem latest?_eq (ip : IpAddress) (port : UInt16) (inputs : List (Nat × BeaconInput)) :
    latest? ip port inputs = ((inputs.filterMap sign?).filterMap fun sign =>
      sign.2.filter (·.address = .ofIp ip port)).getLast? := by
  rw [latest?, List.filterMap_filterMap]
  exact congrArg (fun f => (inputs.filterMap f).getLast?) (funext (replyFrom?_eq ip port))

theorem address_of_latest {inputs : List (Nat × BeaconInput)} {d : Device}
    (latest : ((inputs.filterMap sign?).filterMap fun sign =>
      sign.2.filter (·.address = a)).getLast? = some d) : ∃ ip port, a = .ofIp ip port := by
  obtain ⟨sign, member, kept⟩ := List.mem_filterMap.1 (List.mem_of_getLast? latest)
  obtain ⟨told, same⟩ := Option.filter_eq_some_iff.1 kept
  obtain ⟨-, ip, port, address⟩ := (mem_signs member).2 d told
  exact ⟨ip, port, (of_decide_eq_true same).symm.trans address⟩

theorem lost_told (staleAfter : Nat) (ss : List Silence) :
    (Silence.told staleAfter ss).filter (!·.isDiscovered) =
      (ss.reverse.filter (·.isOverdue staleAfter)).map (.lost ·.device) := by
  induction ss with
  | nil => rfl
  | cons s earlier ih =>
    rw [Silence.told, List.filter_append, List.filter_append, ih, List.reverse_cons,
      List.filter_append, List.map_append]
    cases overdue : s.isOverdue staleAfter <;>
      cases there : Silence.present? staleAfter earlier <;> simp [overdue]

end Inputs

/-- However the entries change places, a beacon whose inputs are in order of time does to an empty
registry what the replies and the sweeps among them say; what else it meets, and the ports from
which it is sent, makes no difference. Right after a sweep the registry holds a device exactly if it
is that of the latest reply from a host with a port, and that is not too old. At every address the
device is discovered with the first reply and with each one after an overdue silence, and lost once
in every overdue silence. -/
theorem presence_follows_replies (capacity staleAfter : Nat) (inputs : List (Nat × BeaconInput))
    (ordered : inputs.Pairwise fun x y => x.1 ≤ y.1) :
    let signs := inputs.filterMap sign?
    let calls := signs.map (callFor staleAfter)
    (∃ es, (Presence.new capacity).Runs calls es (run staleAfter inputs (.new capacity))) ∧
      (∀ others, others.filterMap sign? = signs →
        run staleAfter others (.new capacity) = run staleAfter inputs (.new capacity)) ∧
      ∀ es q, (Presence.new capacity).Runs calls es q →
        (∀ earlier now, inputs = earlier ++ [(now, .tick)] → ∀ a d,
          q.known.get? a = some d ↔
            ∃ ip port, a = .ofIp ip port ∧ latest? ip port earlier = some d ∧
              d.age now ≤ staleAfter) ∧
        ∀ a, es.filter (·.address = a) = Silence.told staleAfter (silences a signs) ∧
          es.filter (fun e => e.address = a ∧ e.isDiscovered = false) =
            ((silences a signs).reverse.filter (·.isOverdue staleAfter)).map (.lost ·.device) := by
  intro signs calls
  refine ⟨?_, fun others same => ?_, fun es q runs => ?_⟩
  · rw [run_eq]
    exact runs_foldl staleAfter signs _
  · rw [run_eq, run_eq, same]
  · have fresh : ∀ sign ∈ signs, ∀ d ∈ sign.2, d.lastSeen = sign.1 := fun sign member d told =>
      ((mem_signs member).2 d told).1
    have reflects := reflects_runs fresh runs
    refine ⟨fun earlier now last a d => ?_, fun a => ⟨reflects.told a, ?_⟩⟩
    · have before : ∀ time, (time, none) ∈ earlier.filterMap sign? → time ≤ now := by
        intro time member
        obtain ⟨⟨x, there, rfl⟩, -⟩ := mem_signs member
        rw [last] at ordered
        exact (List.pairwise_append.1 ordered).2.2 x there _ (List.mem_singleton_self _)
      have seen : signs = earlier.filterMap sign? ++ [(now, none)] := by
        simp only [signs, last, List.filterMap_append]
        rfl
      rw [reflects.holds, seen, present?_silences_sweep before, device_of_head_silences,
        Option.filter_eq_some_iff]
      constructor
      · rintro ⟨latest, young⟩
        obtain ⟨ip, port, rfl⟩ := address_of_latest latest
        exact ⟨ip, port, rfl, (latest?_eq ip port earlier).trans latest, by simpa using young⟩
      · rintro ⟨ip, port, rfl, latest, young⟩
        exact ⟨(latest?_eq ip port earlier).symm.trans latest, by simpa using young⟩
    · rw [← lost_told, ← reflects.told, List.filter_filter]
      exact List.filter_congr fun e _ => by simp [Bool.and_comm]

/-- A device replies once, is still there at a sweep, is gone at the next, and stays so. -/
theorem silent_device_is_lost :
    let source : SocketAddress := .v4 ⟨10, 0, 0, 7⟩ 40000
    let reply : Reply := { port := 6064, name := "Dock", version := "1.0" }
    let d := reply.toDevice source.ip 0
    let inputs : List (Nat × BeaconInput) :=
      [(0, .datagram source (Utf8.encode reply.text)), (10, .tick), (30, .tick), (35, .tick)]
    let q := run 20 inputs (.new 4)
    inputs.Pairwise (fun x y => x.1 ≤ y.1) ∧ q.known.get? d.address = none ∧
      ∃ es, (Presence.new 4).Runs ((inputs.filterMap sign?).map (callFor 20)) es q ∧
        es.filter (·.address = d.address) = [.discovered d, .lost d] := by
  intro source reply d inputs q
  have ordered : inputs.Pairwise fun x y => x.1 ≤ y.1 := by simp [inputs]
  obtain ⟨⟨es, runs⟩, -, follows⟩ := presence_follows_replies 4 20 inputs ordered
  obtain ⟨holds, told⟩ := follows es q runs
  refine ⟨ordered, ?_, es, runs, (told d.address).1.trans (by decide +kernel)⟩
  refine Option.eq_none_iff_forall_ne_some.2 fun other found => ?_
  obtain ⟨ip, port, same, latest, young⟩ := (holds (inputs.take 3) 35 rfl _ other).1 found
  obtain ⟨rfl, rfl⟩ : source.ip = ip ∧ reply.port = port := SocketAddress.ofIp_inj.1 same
  have last : latest? source.ip reply.port (inputs.take 3) = some d := by decide +kernel
  obtain rfl : d = other := Option.some.inj (last.symm.trans latest)
  exact absurd young (by decide)

end Beacon

end TitleDock
