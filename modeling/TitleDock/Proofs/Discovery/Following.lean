import Mathlib.Data.Nat.Log
import TitleDock.Proofs.Discovery.Replay

/-! An observer that keeps up with the registry. It takes in one event after the other, and looks at
the listing again when it is told that it missed some. What it received and what it missed add up to
what was queued, and once nothing waits for it, it knows the addresses that are known; for events
that are older than the listing change nothing if the later ones come in as well. -/

namespace TitleDock

theorem powerAbove_eq (n : Nat) : powerAbove n = Nat.pow 2 (Nat.clog 2 n) := by
  unfold powerAbove
  split
  case isTrue small => rw [Nat.clog_of_right_le_one small]
  case isFalse large =>
    have above : n ≤ 2 ^ ((n - 1).log2 + 1) := by
      have := Nat.lt_log2_self (n := n - 1)
      omega
    have below : 2 ^ (n - 1).log2 < n := by
      have := Nat.log2_self_le (n := n - 1) (by omega)
      omega
    have le := Nat.clog_le_of_le_pow above
    have lt := (Nat.lt_clog_iff_pow_lt Nat.one_lt_two).2 below
    rw [show Nat.clog 2 n = (n - 1).log2 + 1 by omega]

def Received.event? {α : Type} : Received α → Option α
  | .event a => some a
  | .lagged _ => none

def Received.missed {α : Type} : Received α → Nat
  | .event _ => 0
  | .lagged n => n

namespace Channel

variable {α : Type} {log : List α} {capacity next next' : Nat} {item : Received α}

@[simp] theorem capacity_sendAll (c : Channel α) (as : List α) :
    (c.sendAll as).capacity = c.capacity := by
  induction as generalizing c with
  | nil => rfl
  | cons a as ih => exact ih (c.send a)

theorem sendAll_concat (c : Channel α) (as : List α) (a : α) :
    c.sendAll (as ++ [a]) = (c.sendAll as).send a :=
  List.foldl_concat ..

theorem kept_sendAll_new (capacity : Nat) (log : List α) :
    ((new capacity).sendAll log).kept = log.drop (log.length - powerAbove capacity) := by
  induction log using List.reverseRecOn with
  | nil => simp [new, sendAll]
  | append_singleton log a ih =>
    rw [sendAll_concat, send, ih, capacity_sendAll, ← List.drop_append_of_le_length (by omega),
      List.drop_drop]
    simp [new]
    omega

theorem oldest_sendAll_new (capacity : Nat) (log : List α) :
    ((new capacity).sendAll log).oldest = log.length - powerAbove capacity := by
  rw [oldest, kept_sendAll_new, sent_sendAll, List.length_drop]
  simp [new]
  omega

theorem receive?_sendAll_new (capacity : Nat) (log : List α) (next : Nat) :
    ((new capacity).sendAll log).receive? next =
      if next < log.length - powerAbove capacity then
        some (.lagged (log.length - powerAbove capacity - next), log.length - powerAbove capacity)
      else log[next]?.map fun a => (.event a, next + 1) := by
  rw [receive?, oldest_sendAll_new, kept_sendAll_new]
  by_cases behind : next < log.length - powerAbove capacity
  · rw [if_pos behind, if_pos behind]
  · rw [if_neg behind, if_neg behind, List.getElem?_drop, show log.length - powerAbove capacity +
      (next - (log.length - powerAbove capacity)) = next by omega]

theorem receive?_cases (h : ((new capacity).sendAll log).receive? next = some (item, next')) :
    (∃ n, item = .lagged n ∧ next' = next + n ∧ 0 < n ∧
        next + n + powerAbove capacity = log.length) ∨
      ∃ a, item = .event a ∧ next' = next + 1 ∧ log[next]? = some a := by
  rw [receive?_sendAll_new] at h
  split at h
  case isTrue behind =>
    obtain ⟨rfl, rfl⟩ : _ = item ∧ _ = next' := by simpa using h
    exact .inl ⟨_, rfl, by omega, by omega, by omega⟩
  case isFalse =>
    obtain ⟨a, found, same⟩ := Option.map_eq_some_iff.1 h
    obtain ⟨rfl, rfl⟩ : _ = item ∧ _ = next' := by simpa using same
    exact .inr ⟨a, rfl, rfl, found⟩

theorem receive?_eq_none (h : ((new capacity).sendAll log).receive? next = none) :
    log.length ≤ next := by
  rw [receive?_sendAll_new] at h
  split at h
  · cases h
  · simpa using h

end Channel

/-- An observer takes in an event, whatever it knows. -/
def follow (view : Finset SocketAddress) : RegistryEvent → Finset SocketAddress
  | .discovered d => insert d.address view
  | .lost d => view.erase d.address

theorem follow_of_observe {known known' : Finset SocketAddress} {e : RegistryEvent}
    (h : observe known e = some known') : follow known e = known' := by
  cases e with
  | discovered d | lost d =>
    rw [observe] at h
    split at h <;> simp_all [follow]

theorem foldl_follow_of_replay {known known' : Finset SocketAddress} {es : List RegistryEvent}
    (h : replay known es = some known') : es.foldl follow known = known' := by
  induction es generalizing known with
  | nil => exact Option.some.inj h
  | cons e es ih =>
    obtain ⟨next, observed, rest⟩ := Option.bind_eq_some_iff.1 h
    rw [List.foldl_cons, follow_of_observe observed]
    exact ih rest

def lastAt (a : SocketAddress) (es : List RegistryEvent) : Option Bool :=
  (es.filter (·.address = a)).getLast?.map RegistryEvent.isDiscovered

theorem lastAt_concat (a : SocketAddress) (es : List RegistryEvent) (e : RegistryEvent) :
    lastAt a (es ++ [e]) = if e.address = a then some e.isDiscovered else lastAt a es := by
  rw [lastAt, List.filter_append]
  by_cases here : e.address = a <;> simp [here, lastAt]

theorem mem_follow (view : Finset SocketAddress) (e : RegistryEvent) (a : SocketAddress) :
    a ∈ follow view e ↔ if e.address = a then e.isDiscovered = true else a ∈ view := by
  cases e with
  | discovered d | lost d =>
    by_cases here : d.address = a <;>
      simp [follow, RegistryEvent.address, RegistryEvent.isDiscovered, here, eq_comm (a := a)]

theorem mem_foldl_follow (view : Finset SocketAddress) (es : List RegistryEvent)
    (a : SocketAddress) :
    a ∈ es.foldl follow view ↔ (lastAt a es).getD (decide (a ∈ view)) = true := by
  induction es using List.reverseRecOn with
  | nil => simp [lastAt]
  | append_singleton es e ih =>
    rw [List.foldl_concat, mem_follow, lastAt_concat]
    split
    · rw [Option.getD_some]
    · exact ih

theorem foldl_follow_idem (view : Finset SocketAddress) (es : List RegistryEvent) :
    es.foldl follow (es.foldl follow view) = es.foldl follow view := by
  ext a
  simp only [mem_foldl_follow]
  cases lastAt a es <;> simp

/-- An observer: how many events were queued before it joined, the number of the one that it wants
next, what it received since, and the addresses that it knows, if it has looked since it last missed
something. -/
structure Follower where
  joined : Nat
  next : Nat
  items : List (Received RegistryEvent)
  view : Option (Finset SocketAddress)

namespace Follower

def join (p : Presence) : Follower :=
  { joined := p.channel.sent, next := p.channel.join, items := [], view := none }

def look (f : Follower) (p : Presence) : Follower :=
  { f with view := some (p.table.map Device.address).toFinset }

def take (f : Follower) (item : Received RegistryEvent) (next : Nat) : Follower :=
  { f with next, items := f.items ++ [item]
           view := item.event?.bind fun e => f.view.map (follow · e) }

def received (f : Follower) : List RegistryEvent := f.items.filterMap Received.event?

def missed (f : Follower) : Nat := f.items.foldl (fun n item => n + item.missed) 0

@[simp] theorem joined_take (f : Follower) (item : Received RegistryEvent) (next : Nat) :
    (f.take item next).joined = f.joined := rfl

@[simp] theorem received_take (f : Follower) (item : Received RegistryEvent) (next : Nat) :
    (f.take item next).received = f.received ++ item.event?.toList := by
  cases item <;> simp [received, take, Received.event?]

@[simp] theorem missed_take (f : Follower) (item : Received RegistryEvent) (next : Nat) :
    (f.take item next).missed = f.missed + item.missed := by
  simp [missed, take]

end Follower

/-- A registry at work with a follower: the events that were queued, those of the call under way
that are still to be queued, the follower and the registry. While a call is under way nobody can
look at the listing, but the follower can join and receive at any time. -/
inductive Followed (capacity : Nat) :
    List RegistryEvent → List RegistryEvent → Follower → Presence → Prop
  | new : Followed capacity [] [] (.join (.new capacity)) (.new capacity)
  | call {log : List RegistryEvent} {f : Follower} {p : Presence} {shuffled : DeviceMap}
      (h : Followed capacity log [] f p) (same : p.known.Perm shuffled) (c : RegistryCall) :
      Followed capacity log (c.change shuffled).events f
        { p with known := (c.change shuffled).map }
  | queue {log pending : List RegistryEvent} {e : RegistryEvent} {f : Follower} {p : Presence}
      (h : Followed capacity log (e :: pending) f p) :
      Followed capacity (log ++ [e]) pending f { p with channel := p.channel.send e }
  | join {log pending : List RegistryEvent} {f : Follower} {p : Presence}
      (h : Followed capacity log pending f p) : Followed capacity log pending (.join p) p
  | look {log : List RegistryEvent} {f : Follower} {p : Presence}
      (h : Followed capacity log [] f p) : Followed capacity log [] (f.look p) p
  | receive {log pending : List RegistryEvent} {f : Follower} {p : Presence}
      {item : Received RegistryEvent} {next : Nat} (h : Followed capacity log pending f p)
      (received : p.channel.receive? f.next = some (item, next)) :
      Followed capacity log pending (f.take item next) p

/-- The registry and its channel hold what was queued, the follower stands where what it received
and missed has brought it, and what still waits for it leads from what it knows to what is known. -/
structure Abreast (capacity : Nat) (log pending : List RegistryEvent) (f : Follower)
    (p : Presence) : Prop where
  keyed : p.known.Keyed
  channel : p.channel = (Channel.new capacity).sendAll log
  known : (log ++ pending).foldl follow ∅ = p.known.addresses
  next : f.next = f.joined + (f.received.length + f.missed)
  bound : f.next ≤ log.length
  order : f.received.Sublist ((log.drop f.joined).take (f.received.length + f.missed))
  view : ∀ view, f.view = some view →
    (log.drop f.next ++ pending).foldl follow view = p.known.addresses

section Abreast

variable {capacity : Nat} {log pending : List RegistryEvent} {f : Follower} {p : Presence}

theorem Abreast.join (h : Abreast capacity log pending f p) :
    Abreast capacity log pending (.join p) p := by
  have sent : p.channel.sent = log.length := by
    rw [h.channel, Channel.sent_sendAll, Channel.new, Nat.zero_add]
  refine ⟨h.keyed, h.channel, h.known, rfl, ?_, .slnil, ?_⟩
  · exact le_of_eq sent
  · rintro view ⟨⟩

theorem Abreast.new : Abreast capacity [] [] (.join (.new capacity)) (.new capacity) := by
  refine ⟨DeviceMap.keyed_nil, rfl, rfl, rfl, le_refl _, .slnil, ?_⟩
  rintro view ⟨⟩

theorem Abreast.call (h : Abreast capacity log [] f p) {shuffled : DeviceMap}
    (same : p.known.Perm shuffled) (c : RegistryCall) :
    Abreast capacity log (c.change shuffled).events f
      { p with known := (c.change shuffled).map } := by
  have keyed := h.keyed.perm same
  have leads : (c.change shuffled).events.foldl follow p.known.addresses =
      (c.change shuffled).map.addresses := by
    rw [DeviceMap.addresses_perm same]
    exact foldl_follow_of_replay (keyed.replay_change c)
  refine ⟨keyed.change c, h.channel, ?_, h.next, h.bound, h.order, fun view seen => ?_⟩
  · rw [List.foldl_append, ← leads, ← h.known, List.append_nil]
  · have before := h.view view seen
    rw [List.append_nil] at before
    rw [List.foldl_append, before, leads]

theorem Abreast.queue {e : RegistryEvent} (h : Abreast capacity log (e :: pending) f p) :
    Abreast capacity (log ++ [e]) pending f { p with channel := p.channel.send e } := by
  have bound := h.bound
  refine ⟨h.keyed, ?_, ?_, h.next, ?_, ?_, fun view seen => ?_⟩
  · rw [Channel.sendAll_concat, h.channel]
  · rw [List.append_assoc]
    exact h.known
  · rw [List.length_append]
    omega
  · have earlier : (log.drop f.joined).take (f.received.length + f.missed) =
        ((log ++ [e]).drop f.joined).take (f.received.length + f.missed) := by
      have := h.next
      rw [List.drop_append_of_le_length (by omega), List.take_append_of_le_length]
      rw [List.length_drop]
      omega
    rw [← earlier]
    exact h.order
  · rw [List.drop_append_of_le_length bound, List.append_assoc]
    exact h.view view seen

theorem Abreast.look (h : Abreast capacity log [] f p) : Abreast capacity log [] (f.look p) p := by
  refine ⟨h.keyed, h.channel, h.known, h.next, h.bound, h.order, fun view seen => ?_⟩
  have listed : (p.table.map Device.address).toFinset = p.known.addresses :=
    List.toFinset_eq_of_perm _ _ h.keyed.map_address_list
  obtain rfl : p.known.addresses = view := listed ▸ Option.some.inj seen
  have known := h.known
  rw [List.append_nil, ← List.take_append_drop f.next log, List.foldl_append] at known
  rw [List.append_nil]
  rw [← known]
  exact foldl_follow_idem _ _

theorem Abreast.receive (h : Abreast capacity log pending f p) {item : Received RegistryEvent}
    {next : Nat} (received : p.channel.receive? f.next = some (item, next)) :
    Abreast capacity log pending (f.take item next) p := by
  have position := h.next
  have bound := h.bound
  rw [h.channel] at received
  obtain ⟨n, rfl, rfl, -, behind⟩ | ⟨e, rfl, rfl, found⟩ := Channel.receive?_cases received
  · have items : (f.take (.lagged n) (f.next + n)).received = f.received := by
      simp [Received.event?]
    have count : (f.take (.lagged n) (f.next + n)).missed = f.missed + n := by
      simp [Received.missed]
    refine ⟨h.keyed, h.channel, h.known, ?_, ?_, ?_, by rintro view ⟨⟩⟩
    · rw [items, count]
      change f.next + n = f.joined + _
      omega
    · change f.next + n ≤ _
      omega
    · rw [items, count]
      exact h.order.trans (List.take_sublist_take_left (by omega))
  · have items : (f.take (.event e) (f.next + 1)).received = f.received ++ [e] := by
      simp [Received.event?]
    have count : (f.take (.event e) (f.next + 1)).missed = f.missed := by
      simp [Received.missed]
    obtain ⟨inside, here⟩ := List.getElem?_eq_some_iff.1 found
    refine ⟨h.keyed, h.channel, h.known, ?_, inside, ?_, ?_⟩
    · rw [items, count, List.length_append, List.length_singleton]
      change f.next + 1 = f.joined + _
      omega
    · have there : (log.drop f.joined)[f.received.length + f.missed]? = some e := by
        rw [List.getElem?_drop, ← position, found]
      rw [items, count, Follower.joined_take, List.length_append, List.length_singleton,
        Nat.add_right_comm, List.take_add_one, there]
      exact h.order.append (.refl _)
    · intro view seen
      obtain ⟨before, known, rfl⟩ : ∃ before, f.view = some before ∧ follow before e = view := by
        simpa [Follower.take, Received.event?] using seen
      have ahead := h.view before known
      rwa [List.drop_eq_getElem_cons inside, here] at ahead

theorem Followed.abreast (h : Followed capacity log pending f p) :
    Abreast capacity log pending f p := by
  induction h with
  | new => exact .new
  | call h same c ih => exact ih.call same c
  | queue h ih => exact ih.queue
  | join h ih => exact ih.join
  | look h ih => exact ih.look
  | receive h received ih => exact ih.receive received

end Abreast

theorem Followed.perform {capacity : Nat} {log : List RegistryEvent} {f : Follower} {p : Presence}
    {shuffled : DeviceMap} (h : Followed capacity log [] f p) (same : p.known.Perm shuffled)
    (c : RegistryCall) :
    Followed capacity (log ++ (c.change shuffled).events) [] f
      (c.perform { p with known := shuffled }).2 := by
  have queued {log es : List RegistryEvent} {p : Presence} (h : Followed capacity log es f p) :
      Followed capacity (log ++ es) [] f { p with channel := p.channel.sendAll es } := by
    induction es generalizing log p with
    | nil => simpa [Channel.sendAll] using h
    | cons e es ih => simpa [Channel.sendAll] using ih h.queue
  rw [RegistryCall.perform_eq]
  exact queued (h.call same c)

/-- At every moment what a follower received comes from the events that were queued since it joined,
in their order. It is told that it missed some only if more events wait for it than it may fall
behind by. When nothing waits for it, what it received and what it missed add up to what was queued,
and it knows the addresses that are known, unless it has yet to look at the listing. -/
theorem follower_keeps_up {capacity : Nat} {log pending : List RegistryEvent} {f : Follower}
    {p : Presence} (h : Followed capacity log pending f p) :
    let since := log.drop f.joined
    let waiting := since.length - (f.received.length + f.missed)
    f.received.Sublist since ∧
      (∀ n next, p.channel.receive? f.next = some (.lagged n, next) →
        0 < n ∧ waiting = n + Nat.pow 2 (Nat.clog 2 capacity) ∧ capacity < waiting) ∧
      (p.channel.receive? f.next = none →
        f.received.length + f.missed = since.length ∧
          (pending = [] → ∀ view, f.view = some view → view = p.known.addresses)) := by
  intro since waiting
  have abreast := h.abreast
  have next := abreast.next
  have bound := abreast.bound
  have length : since.length = log.length - f.joined := List.length_drop
  rw [abreast.channel]
  refine ⟨abreast.order.trans (List.take_sublist _ _), fun n after reported => ?_, fun drained => ?_⟩
  · have large := Channel.le_powerAbove capacity
    obtain ⟨m, same, -, some, behind⟩ | ⟨e, same, -⟩ := Channel.receive?_cases reported
    · obtain rfl : n = m := by simpa using same
      rw [powerAbove_eq] at large behind
      exact ⟨some, by omega, by omega⟩
    · cases same
  · have reached := Channel.receive?_eq_none drained
    refine ⟨by omega, ?_⟩
    rintro rfl view seen
    have known := abreast.view view seen
    rwa [List.drop_of_length_le reached] at known

/-- A follower of a registry that keeps one event misses the first of two, and takes in the second
one after it looked at the listing. -/
theorem follower_keeps_up_after_missing :
    let d : Device :=
      { address := .v4 ⟨10, 0, 0, 7⟩ 6064, name := "Dock", version := "1.0", lastSeen := 0 }
    let e : Device := { d with address := .v4 ⟨10, 0, 0, 8⟩ 6064 }
    let p := (RegistryCall.perform (RegistryCall.perform (.new 1) (.upsert d)).2 (.upsert e)).2
    let behind := (Follower.join (.new 1)).look (.new 1)
    let f := ((behind.take (.lagged 1) 1).look p).take (.event (.discovered e)) 2
    Followed 1 [.discovered d, .discovered e] [] f p ∧ f.received.length + f.missed = 2 ∧
      f.view = some p.known.addresses := by
  intro d e p behind f
  have joined : Followed 1 [] [] behind (.new 1) := .look .new
  have missed : Followed 1 [.discovered d, .discovered e] [] (behind.take (.lagged 1) 1) p :=
    .receive ((joined.perform (.refl _) (.upsert d)).perform (.refl _) (.upsert e)) rfl
  have followed : Followed 1 [.discovered d, .discovered e] [] f p := .receive missed.look rfl
  obtain ⟨counted, known⟩ := (follower_keeps_up followed).2.2 rfl
  exact ⟨followed, counted, congrArg some (known rfl _ rfl)⟩

end TitleDock
