import TitleDock.Discovery.Presence
import TitleDock.Proofs.Discovery.Keyed
import TitleDock.Proofs.Discovery.Observer

/-! Calls on the registry and what observers hear of them. From wherever an observer joins, the
events queued since lead from the addresses known then to those known now: nothing is discovered
twice, and nothing is lost that was not there. Calls come in any order and at any time, and between
two calls the entries of the map may change places. -/

namespace TitleDock

inductive RegistryCall where
  | upsert (d : Device)
  | sight (now : Nat) (d : Device)
  | remove (a : SocketAddress)
  | evict (now maxAge : Nat)

inductive RegistryAnswer where
  | flag (b : Bool)
  | devices (ds : List Device)

def Change.answering {α β : Type} (f : α → β) (c : Change α) : Change β :=
  { map := c.map, events := c.events, answer := f c.answer }

namespace RegistryCall

def change (m : DeviceMap) : RegistryCall → Change RegistryAnswer
  | .upsert d => (m.upsert d).answering .flag
  | .sight now d => (m.sight now d).answering .flag
  | .remove a => (m.remove a).answering .flag
  | .evict now maxAge => (m.evict now maxAge).answering .devices

def perform (p : Presence) : RegistryCall → RegistryAnswer × Presence
  | .upsert d => (.flag (p.upsert d).1, (p.upsert d).2)
  | .sight now d => (.flag (p.sight now d).1, (p.sight now d).2)
  | .remove a => (.flag (p.remove a).1, (p.remove a).2)
  | .evict now maxAge => (.devices (p.evict now maxAge).1, (p.evict now maxAge).2)

theorem perform_eq (p : Presence) (c : RegistryCall) :
    c.perform p = ((c.change p.known).answer,
      { known := (c.change p.known).map
        channel := p.channel.sendAll (c.change p.known).events }) := by
  cases c <;> rfl

/-- The answer of a call agrees with the events that it queued. -/
def Agrees (answer : RegistryAnswer) (es : List RegistryEvent) (c : RegistryCall) : Prop :=
  match c, answer with
  | .upsert d, .flag new | .sight _ d, .flag new => es = if new then [.discovered d] else []
  | .remove a, .flag there =>
    if there then ∃ d, d.address = a ∧ es = [.lost d] else es = []
  | .evict .., .devices lost => es = lost.map .lost
  | _, _ => False

def stores? (a : SocketAddress) : RegistryCall → Option (String × String)
  | .upsert d | .sight _ d => if d.address = a then some (d.name, d.version) else none
  | .remove _ | .evict .. => none

def lastStored (a : SocketAddress) (calls : List RegistryCall) : Option (String × String) :=
  (calls.filterMap (stores? a)).getLast?

theorem lastStored_concat (a : SocketAddress) (calls : List RegistryCall) (c : RegistryCall) :
    lastStored a (calls ++ [c]) = (c.stores? a).or (lastStored a calls) := by
  rw [lastStored, List.filterMap_append]
  cases stored : c.stores? a with
  | none => simp [stored, lastStored]
  | some s => simp [stored]

end RegistryCall

namespace DeviceMap

variable {m : DeviceMap}

/-- Every device carries the name and the version stored last under its address. -/
def Remembers (calls : List RegistryCall) (m : DeviceMap) : Prop :=
  ∀ e ∈ m, RegistryCall.lastStored e.1 calls = some (e.2.name, e.2.version)

structure Dropping (m : DeviceMap) (c : Change (List Device)) : Prop where
  keyed : c.map.Keyed
  part : c.map ⊆ m
  replays : replay m.addresses c.events = some c.map.addresses
  events : c.events = c.answer.map .lost
  held : ∀ d ∈ c.answer, (d.address, d) ∈ m

theorem Dropping.lose {c : Change (List Device)} (h : Dropping m c) (a : SocketAddress) :
    Dropping m (DeviceMap.lose c a) := by
  unfold DeviceMap.lose
  split
  case h_1 d found =>
    have member := mem_of_get? found
    obtain rfl := h.keyed.address_of_get? found
    refine ⟨h.keyed.erase _, fun e kept => h.part (mem_erase.1 kept).1, ?_, ?_, ?_⟩
    · rw [replay_append, h.replays, addresses_erase]
      exact replay_lost (mem_addresses.2 ⟨_, member, rfl⟩)
    · rw [h.events, List.map_append, List.map_singleton]
    · intro e gone
      obtain earlier | last := List.mem_append.1 gone
      · exact h.held e earlier
      · rw [List.mem_singleton.1 last]
        exact h.part member
  case h_2 => exact h

theorem Keyed.dropping (h : Keyed m) (now maxAge : Nat) : Dropping m (m.evict now maxAge) := by
  have none : Dropping m { map := m, events := [], answer := [] } :=
    ⟨h, fun _ => id, rfl, rfl, List.forall_mem_nil _⟩
  rw [evict]
  generalize (m.filter fun e => maxAge < e.2.age now).map (·.2.address) = stale
  generalize ({ map := m, events := [], answer := [] } : Change (List Device)) = c at none ⊢
  induction stale generalizing c with
  | nil => exact none
  | cons a stale ih => exact ih _ (none.lose a)

theorem Keyed.change (h : Keyed m) (c : RegistryCall) : Keyed (c.change m).map := by
  cases c with
  | upsert d => exact h.put rfl
  | sight now d =>
    rw [RegistryCall.change, sight]
    split
    case h_1 known found => exact h.put (h.address_of_get? found).symm
    case h_2 => exact h.put rfl
  | remove a =>
    rw [RegistryCall.change, remove]
    split
    · exact h.erase a
    · exact h
  | evict now maxAge => exact (h.dropping now maxAge).keyed

theorem Keyed.replay_change (h : Keyed m) (c : RegistryCall) :
    replay m.addresses (c.change m).events = some (c.change m).map.addresses := by
  cases c with
  | upsert d =>
    simp only [RegistryCall.change, upsert, Change.answering, addresses_put]
    by_cases known : d.address ∈ m.addresses
    · rw [if_pos (isKnown_iff.2 known), Finset.insert_eq_of_mem known]
      rfl
    · rw [if_neg (mt isKnown_iff.1 known)]
      exact replay_discovered known
  | sight now d =>
    rw [RegistryCall.change, sight]
    split
    case h_1 known found =>
      have there := mem_addresses.2 ⟨_, mem_of_get? found, rfl⟩
      simp only [Change.answering, addresses_put, Finset.insert_eq_of_mem there]
      rfl
    case h_2 missing =>
      simp only [Change.answering, addresses_put]
      exact replay_discovered (get?_eq_none.1 missing)
  | remove a =>
    rw [RegistryCall.change, remove]
    split
    case h_1 d found =>
      obtain rfl := h.address_of_get? found
      simp only [Change.answering, addresses_erase]
      exact replay_lost (mem_addresses.2 ⟨_, mem_of_get? found, rfl⟩)
    case h_2 => rfl
  | evict now maxAge => exact (h.dropping now maxAge).replays

theorem Keyed.agrees (h : Keyed m) (c : RegistryCall) :
    c.Agrees (c.change m).answer (c.change m).events := by
  cases c with
  | upsert d =>
    simp only [RegistryCall.Agrees, RegistryCall.change, upsert, Change.answering]
    cases m.isKnown d.address <;> rfl
  | sight now d =>
    rw [RegistryCall.change, sight]
    split <;> rfl
  | remove a =>
    rw [RegistryCall.change, remove]
    split
    case h_1 d found => exact ⟨d, h.address_of_get? found, rfl⟩
    case h_2 => rfl
  | evict now maxAge => exact (h.dropping now maxAge).events

theorem Keyed.mem_of_lost (h : Keyed m) {c : RegistryCall} {d : Device}
    (lost : .lost d ∈ (c.change m).events) : (d.address, d) ∈ m := by
  cases c with
  | upsert e =>
    simp only [RegistryCall.change, upsert, Change.answering] at lost
    split at lost <;> simp at lost
  | sight now e =>
    rw [RegistryCall.change, sight] at lost
    split at lost <;> simp [Change.answering] at lost
  | remove a =>
    rw [RegistryCall.change, remove] at lost
    split at lost
    case h_1 e found =>
      obtain rfl : d = e := by simpa [Change.answering] using lost
      obtain rfl := h.address_of_get? found
      exact mem_of_get? found
    case h_2 => simp [Change.answering] at lost
  | evict now maxAge =>
    have dropping := h.dropping now maxAge
    rw [RegistryCall.change, Change.answering, dropping.events] at lost
    exact dropping.held d (by simpa using lost)

theorem Remembers.perm {m' : DeviceMap} {calls : List RegistryCall} (h : Remembers calls m)
    (p : m.Perm m') : Remembers calls m' :=
  fun e member => h e (p.mem_iff.2 member)

theorem Remembers.put {calls : List RegistryCall} (h : Remembers calls m) {c : RegistryCall}
    {a : SocketAddress} {d : Device} (stored : c.stores? a = some (d.name, d.version))
    (other : ∀ b, b ≠ a → c.stores? b = none) : Remembers (calls ++ [c]) (m.put a d) := by
  intro e member
  rw [RegistryCall.lastStored_concat]
  obtain rfl | ⟨kept, ne⟩ := mem_put.1 member
  · rw [stored]
    rfl
  · rw [other e.1 ne]
    exact h e kept

theorem Remembers.change {calls : List RegistryCall} (h : Remembers calls m) (keyed : Keyed m)
    (c : RegistryCall) : Remembers (calls ++ [c]) (c.change m).map := by
  have part {m' : DeviceMap} (sub : m' ⊆ m) (silent : ∀ a, c.stores? a = none) :
      Remembers (calls ++ [c]) m' := by
    intro e member
    rw [RegistryCall.lastStored_concat, silent]
    exact h e (sub member)
  cases c with
  | upsert d => exact h.put (if_pos rfl) fun b ne => if_neg ne.symm
  | sight now d =>
    rw [RegistryCall.change, sight]
    split <;> exact h.put (if_pos rfl) fun b ne => if_neg ne.symm
  | remove a =>
    rw [RegistryCall.change, remove]
    split
    · exact part (fun e member => (mem_erase.1 member).1) fun _ => rfl
    · exact part (fun e => id) fun _ => rfl
  | evict now maxAge => exact part (keyed.dropping now maxAge).part fun _ => rfl

end DeviceMap

namespace Presence

/-- A run of calls from one presence to another, with the events that the calls queued. Before each
call the entries of the map may change places. -/
inductive Runs (p : Presence) : List RegistryCall → List RegistryEvent → Presence → Prop
  | stay : Runs p [] [] p
  | call {calls : List RegistryCall} {es : List RegistryEvent} {q : Presence}
      {shuffled : DeviceMap} (run : Runs p calls es q) (same : q.known.Perm shuffled)
      (c : RegistryCall) :
      Runs p (calls ++ [c]) (es ++ (c.change shuffled).events)
        (c.perform { q with known := shuffled }).2

section Runs

variable {p q : Presence} {calls : List RegistryCall} {es : List RegistryEvent} {c : RegistryCall}

theorem Runs.of_nil (h : p.Runs [] es q) : es = [] ∧ q = p := by
  generalize none : [] = calls at h
  cases h with
  | stay => exact ⟨rfl, rfl⟩
  | call => simp at none

theorem Runs.of_concat (h : p.Runs (calls ++ [c]) es q) :
    ∃ es' q' shuffled, p.Runs calls es' q' ∧ q'.known.Perm shuffled ∧
      es = es' ++ (c.change shuffled).events ∧ q = (c.perform { q' with known := shuffled }).2 := by
  generalize split : calls ++ [c] = all at h
  cases h with
  | stay => simp at split
  | call run same c' =>
    obtain ⟨rfl, last⟩ := List.append_inj' split rfl
    obtain rfl : c = c' := by simpa using last
    exact ⟨_, _, _, run, same, rfl, rfl⟩

theorem Runs.keyed (h : p.Runs calls es q) (keyed : p.known.Keyed) : q.known.Keyed := by
  induction h with
  | stay => exact keyed
  | call run same c ih =>
    rw [RegistryCall.perform_eq]
    exact (ih.perm same).change c

theorem Runs.replays (h : p.Runs calls es q) (keyed : p.known.Keyed) :
    replay p.known.addresses es = some q.known.addresses := by
  induction h with
  | stay => rfl
  | call run same c ih =>
    rw [RegistryCall.perform_eq, replay_append, ih, DeviceMap.addresses_perm same]
    exact ((run.keyed keyed).perm same).replay_change c

theorem Runs.channel (h : p.Runs calls es q) : q.channel = p.channel.sendAll es := by
  induction h with
  | stay => rfl
  | call run same c ih =>
    rw [RegistryCall.perform_eq, ih, Channel.sendAll, Channel.sendAll, Channel.sendAll,
      List.foldl_append]

theorem Runs.remembers {earlier : List RegistryCall} (h : p.Runs calls es q)
    (keyed : p.known.Keyed) (remembers : p.known.Remembers earlier) :
    q.known.Remembers (earlier ++ calls) := by
  induction h with
  | stay => rwa [List.append_nil]
  | call run same c ih =>
    rw [RegistryCall.perform_eq, ← List.append_assoc]
    exact (ih.perm same).change ((run.keyed keyed).perm same) c

end Runs

/-- Whenever an observer joins, the events queued since then lead from the addresses known then to
those known now, and alternate at every address. The answers of the next call agree with its events,
and a device is lost with the name and the version stored last under its address. The listing goes
strictly upward by address, has one entry for every key, and agrees with looking up and counting. -/
theorem events_replay_to_known (capacity : Nat) {earlier calls : List RegistryCall}
    {before es : List RegistryEvent} {p q : Presence}
    (joined : (new capacity).Runs earlier before p) (run : p.Runs calls es q) :
    (replay p.known.addresses es = some q.known.addresses ∧ q.channel = p.channel.sendAll es ∧
        ∀ a, (kindsAt a p.known.addresses es).IsChain (· ≠ ·)) ∧
      (∀ (shuffled : DeviceMap) (c : RegistryCall), q.known.Perm shuffled →
        let r := c.perform { q with known := shuffled }
        c.Agrees r.1 (c.change shuffled).events ∧
          ∀ d, .lost d ∈ (c.change shuffled).events →
            RegistryCall.lastStored d.address (earlier ++ calls) = some (d.name, d.version)) ∧
      (∀ e ∈ q.known, e.1 = e.2.address) ∧
      q.table.Pairwise (fun d e => d.address.code < e.address.code) ∧
      (q.table.map Device.address).Perm (q.known.map Prod.fst) ∧
      (∀ a d, q.known.get? a = some d ↔ d ∈ q.table ∧ d.address = a) ∧
      q.table.length = q.known.size ∧ (q.known.isEmpty = true ↔ q.table = []) := by
  have keyed := joined.keyed DeviceMap.keyed_nil
  have keyed' := run.keyed keyed
  have nothing : (new capacity).known.Remembers [] := List.forall_mem_nil _
  have remembers := joined.remembers DeviceMap.keyed_nil nothing
  have replays := run.replays keyed
  refine ⟨⟨replays, run.channel, alternates_of_replay replays⟩, ?_, keyed'.own, keyed'.list_increasing,
    keyed'.map_address_list, ?_, DeviceMap.length_list _, DeviceMap.isEmpty_iff _⟩
  · intro shuffled c same r
    have shuffledKeyed := keyed'.perm same
    refine ⟨?_, fun d lost => ?_⟩
    · rw [show r.1 = _ from congrArg Prod.fst (c.perform_eq _)]
      exact shuffledKeyed.agrees c
    · exact run.remembers keyed remembers _ (same.mem_iff.2 (shuffledKeyed.mem_of_lost lost))
  · intro a d
    constructor
    · intro found
      obtain rfl := keyed'.address_of_get? found
      exact ⟨keyed'.mem_list.2 found, rfl⟩
    · rintro ⟨member, rfl⟩
      exact keyed'.mem_list.1 member

/-- A device is seen, and seen again under another name after an observer joined; then it is lost.
-/
theorem events_replay_after_sightings :
    let d : Device :=
      { address := .v4 ⟨10, 0, 0, 7⟩ 6064, name := "Dock", version := "1.0", lastSeen := 0 }
    let renamed : Device := { d with name := "Hall", lastSeen := 3 }
    let p := (RegistryCall.perform (new 4) (.upsert d)).2
    let q := (RegistryCall.perform p (.sight 3 renamed)).2
    p.Runs [.sight 3 renamed] [] q ∧ p.known.addresses = q.known.addresses ∧
      (RegistryCall.change q.known (.remove d.address)).events = [.lost renamed] ∧
      RegistryCall.lastStored d.address [.upsert d, .sight 3 renamed] = some ("Hall", "1.0") := by
  intro d renamed p q
  have joined : (new 4).Runs [.upsert d] [.discovered d] p := .call .stay (.refl _) (.upsert d)
  have run : p.Runs [.sight 3 renamed] [] q := .call .stay (.refl _) (.sight 3 renamed)
  have told := events_replay_to_known 4 joined run
  have lost := (told.2.1 _ (.remove d.address) (.refl _)).2 renamed (List.mem_singleton_self _)
  exact ⟨run, Option.some.inj told.1.1, rfl, lost⟩

end Presence

end TitleDock
