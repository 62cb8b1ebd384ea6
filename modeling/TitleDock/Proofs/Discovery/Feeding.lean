import TitleDock.Discovery.Run
import TitleDock.Proofs.Discovery.Replay
import TitleDock.Proofs.Discovery.Sweeping

/-! A feed that nobody stops, and the registry that it fills while others call it. Commands are
queued at any time. Once the feed runs it takes them from the front, one at a time, and anything may
happen between two of them. A device that was announced carries the time of its announcement, and is
refreshed at the time at which the command is carried out. -/

namespace TitleDock

/-! ### What one call leaves -/

namespace RegistryCall

def leaves (a : SocketAddress) (held : Option Device) : RegistryCall → Option Device
  | .upsert d => if a = d.address then some d else held
  | .sight now d =>
    if a = d.address then some { d with lastSeen := if held.isSome then now else d.lastSeen } else held
  | .remove b => if a = b then none else held
  | .evict now maxAge => held.filter (·.age now ≤ maxAge)

/-- The call knows the present time, and brings no device from the future. -/
def IsMadeAt (now : Nat) : RegistryCall → Prop
  | .upsert d => d.lastSeen = now
  | .sight time d => time = now ∧ d.lastSeen ≤ now
  | .remove _ | .evict .. => True

theorem IsMadeAt.leaves {now : Nat} {c : RegistryCall} (made : c.IsMadeAt now) {a : SocketAddress}
    {held : Option Device} {d : Device} (left : c.leaves a held = some d)
    (past : ∀ e ∈ held, e.lastSeen ≤ now) :
    d.lastSeen ≤ now ∧ ∀ e ∈ held, e.lastSeen ≤ d.lastSeen := by
  have kept (same : held = some d) : d.lastSeen ≤ now ∧ ∀ e ∈ held, e.lastSeen ≤ d.lastSeen := by
    subst same
    exact ⟨past d rfl, fun e here => by rw [Option.mem_some.1 here]⟩
  cases c with
  | upsert e =>
    obtain rfl : e.lastSeen = now := made
    rw [RegistryCall.leaves] at left
    split at left
    · obtain rfl := Option.some.inj left
      exact ⟨le_rfl, past⟩
    · exact kept left
  | sight time e =>
    obtain ⟨rfl, before⟩ := made
    rw [RegistryCall.leaves] at left
    split at left
    · obtain rfl := Option.some.inj left
      cases held with
      | none => exact ⟨before, by simp⟩
      | some known => exact ⟨le_rfl, past⟩
    · exact kept left
  | remove b =>
    rw [RegistryCall.leaves] at left
    split at left
    · cases left
    · exact kept left
  | evict time maxAge => exact kept (Option.filter_eq_some_iff.1 left).1

end RegistryCall

theorem DeviceMap.Keyed.get?_change {m : DeviceMap} (h : Keyed m) (c : RegistryCall)
    (a : SocketAddress) : (c.change m).map.get? a = c.leaves a (m.get? a) := by
  cases c with
  | upsert d => exact get?_put m d.address a d
  | sight now d =>
    rw [RegistryCall.change, RegistryCall.leaves, DeviceMap.sight]
    split
    case h_1 known found =>
      have same := h.address_of_get? found
      refine (get?_put m d.address a _).trans ?_
      split
      case isTrue here =>
        subst here
        simp [found, same]
      case isFalse => rfl
    case h_2 missing =>
      refine (get?_put m d.address a d).trans ?_
      split
      case isTrue here => simp [here, missing]
      case isFalse => rfl
  | remove b =>
    rw [RegistryCall.change, RegistryCall.leaves, DeviceMap.remove]
    split
    case h_1 d found => exact get?_erase m a b
    case h_2 missing =>
      split
      case isTrue here => exact here ▸ missing
      case isFalse => rfl
  | evict now maxAge => exact (h.evict now maxAge a).1

/-! ### What happens around a feed -/

/-- What somebody does with a feed and its registry, or the clock, or the feed at work. -/
inductive FeedMove where
  | announce (a : SocketAddress) (name version : String)
  | vanish (a : SocketAddress)
  | start
  | pass (duration : Nat)
  | upsert (a : SocketAddress) (name version : String)
  | sight (a : SocketAddress) (name version : String)
  | remove (a : SocketAddress)
  | evict (maxAge : Nat)
  | work
deriving DecidableEq

namespace FeedMove

def duration : FeedMove → Nat
  | pass d => d
  | _ => 0

def timed (now : Nat) : List FeedMove → List (Nat × FeedMove)
  | [] => []
  | m :: moves => (now, m) :: timed (now + m.duration) moves

def order? : Nat × FeedMove → Option FeedCommand
  | (now, .announce a name version) =>
    some (.announce { address := a, name, version, lastSeen := now })
  | (_, .vanish a) => some (.vanish a)
  | _ => none

def call? : Nat × FeedMove → Option RegistryCall
  | (now, .upsert a name version) => some (.upsert { address := a, name, version, lastSeen := now })
  | (now, .sight a name version) => some (.sight now { address := a, name, version, lastSeen := now })
  | (_, .remove a) => some (.remove a)
  | (now, .evict maxAge) => some (.evict now maxAge)
  | _ => none

end FeedMove

def FeedCommand.call (now : Nat) : FeedCommand → RegistryCall
  | .announce d => .sight now d
  | .vanish a => .remove a

theorem Feed.perform_eq (now : Nat) (p : Presence) (c : FeedCommand) :
    Feed.perform now p c = ((c.call now).perform p).2 := by
  cases c <;> rfl

def Feed.work (f : Feed) (now : Nat) (p : Presence) : Feed × Presence :=
  match f.queue with
  | [] => (f, p)
  | c :: rest => if f.isRunning then ({ f with queue := rest }, perform now p c) else (f, p)

/-- What is done to the registry: somebody calls it, or the feed carries out a command. -/
inductive Deed where
  | call (c : RegistryCall)
  | command (now : Nat) (c : FeedCommand)

namespace Deed

def made : Deed → RegistryCall
  | call c => c
  | command now c => c.call now

def called? : Deed → Option RegistryCall
  | call c => some c
  | command .. => none

def carriedOut? : Deed → Option FeedCommand
  | call _ => none
  | command _ c => some c

def doAll (deeds : List Deed) (p : Presence) : Presence :=
  deeds.foldl (fun p deed => (deed.made.perform p).2) p

end Deed

namespace DiscoveryRun

def move (r : DiscoveryRun) : FeedMove → DiscoveryRun
  | .announce a name version => (r.step (.announce a name version)).2
  | .vanish a => (r.step (.vanish a)).2
  | .start => (r.step .startFeed).2
  | .pass duration => { r with now := r.now + duration }
  | .upsert a name version => (r.step (.upsert a name version)).2
  | .sight a name version => (r.step (.sight a name version)).2
  | .remove a => (r.step (.remove a)).2
  | .evict maxAge => (r.step (.evict maxAge)).2
  | .work =>
    let (feed, presence) := r.feed.work r.now r.presence
    { r with feed, presence }

def moveAll (r : DiscoveryRun) (moves : List FeedMove) : DiscoveryRun := moves.foldl move r

def deed? (r : DiscoveryRun) (m : FeedMove) : Option Deed :=
  match m with
  | .work => if r.feed.isRunning then r.feed.queue.head?.map (.command r.now) else none
  | _ => (FeedMove.call? (r.now, m)).map .call

def deeds (r : DiscoveryRun) : List FeedMove → List Deed
  | [] => []
  | m :: moves => (r.deed? m).toList ++ (r.move m).deeds moves

variable {r : DiscoveryRun} {m : FeedMove} {moves : List FeedMove} {a : SocketAddress}

/-! ### One move -/

section Work

variable {c : FeedCommand} {rest : List FeedCommand}

theorem move_work (running : r.feed.isRunning = true) (queued : r.feed.queue = c :: rest) :
    r.move .work = { r with
      feed := { r.feed with queue := rest }
      presence := ((c.call r.now).perform r.presence).2 } := by
  simp [move, Feed.work, running, queued, Feed.perform_eq]

theorem deed?_work (running : r.feed.isRunning = true) (queued : r.feed.queue = c :: rest) :
    r.deed? .work = some (.command r.now c) := by
  simp [deed?, running, queued]

end Work

theorem work_cases (r : DiscoveryRun) :
    (r.deed? .work = none ∧ r.move .work = r) ∨
      ∃ c rest, r.feed.isRunning = true ∧ r.feed.queue = c :: rest := by
  cases running : r.feed.isRunning with
  | false =>
    refine .inl ⟨by simp [deed?, running], ?_⟩
    cases queued : r.feed.queue <;> simp [move, Feed.work, running, queued]
  | true =>
    cases queued : r.feed.queue with
    | nil => exact .inl ⟨by simp [deed?, queued], by simp [move, Feed.work, queued]⟩
    | cons c rest => exact .inr ⟨c, rest, rfl, rfl⟩

theorem now_move (r : DiscoveryRun) (m : FeedMove) : (r.move m).now = r.now + m.duration := by
  cases m <;> rfl

theorem started_move (r : DiscoveryRun) (m : FeedMove) :
    (r.move m).feed.started = (r.feed.started || decide (m = .start)) := by
  cases m with
  | start => cases started : r.feed.started <;> simp [move, step, Feed.start, started]
  | work =>
    obtain ⟨-, waits⟩ | ⟨c, rest, running, queued⟩ := work_cases r
    · simp [waits]
    · simp [move_work running queued]
  | _ => simp [move, step, changed, Feed.announce, Feed.vanish]

theorem stopped_move (r : DiscoveryRun) (m : FeedMove) :
    (r.move m).feed.stopped = r.feed.stopped := by
  cases m with
  | start => cases started : r.feed.started <;> simp [move, step, Feed.start, started]
  | work =>
    obtain ⟨-, waits⟩ | ⟨c, rest, running, queued⟩ := work_cases r
    · rw [waits]
    · rw [move_work running queued]
  | _ => rfl

theorem presence_move (r : DiscoveryRun) (m : FeedMove) :
    (r.move m).presence = Deed.doAll (r.deed? m).toList r.presence := by
  cases m with
  | work =>
    obtain ⟨none, waits⟩ | ⟨c, rest, running, queued⟩ := work_cases r
    · rw [none, waits]
      rfl
    · rw [deed?_work running queued, move_work running queued]
      rfl
  | _ => rfl

theorem known_move (r : DiscoveryRun) (m : FeedMove) :
    (r.move m).presence.known =
      match r.deed? m with
      | some deed => (deed.made.change r.presence.known).map
      | none => r.presence.known := by
  rw [presence_move]
  cases r.deed? m with
  | none => rfl
  | some deed => exact congrArg (fun done => done.2.known) (deed.made.perform_eq r.presence)

theorem queue_move (r : DiscoveryRun) (m : FeedMove) :
    (r.deed? m).toList.filterMap Deed.carriedOut? ++ (r.move m).feed.queue =
      r.feed.queue ++ (FeedMove.order? (r.now, m)).toList := by
  cases m with
  | start =>
    cases started : r.feed.started <;>
      simp [move, step, deed?, Feed.start, started, FeedMove.call?, FeedMove.order?]
  | work =>
    obtain ⟨none, waits⟩ | ⟨c, rest, running, queued⟩ := work_cases r
    · simp [none, waits, FeedMove.order?]
    · simp [deed?_work running queued, move_work running queued, queued, FeedMove.order?,
        Deed.carriedOut?]
  | _ =>
    simp [move, step, changed, deed?, FeedMove.call?, FeedMove.order?, Deed.carriedOut?,
      Feed.announce, Feed.vanish]

theorem called_deed (r : DiscoveryRun) (m : FeedMove) :
    (r.deed? m).toList.filterMap Deed.called? = (FeedMove.call? (r.now, m)).toList := by
  cases m with
  | work =>
    rw [deed?]
    cases r.feed.isRunning <;> cases r.feed.queue <;> rfl
  | _ => rfl

theorem deed?_of_idle (idle : r.feed.isRunning = false) (m : FeedMove) :
    r.deed? m = (FeedMove.call? (r.now, m)).map .call := by
  cases m with
  | work => simp [deed?, idle, FeedMove.call?]
  | _ => rfl

/-! ### All moves -/

theorem moveAll_append (r : DiscoveryRun) (earlier later : List FeedMove) :
    r.moveAll (earlier ++ later) = (r.moveAll earlier).moveAll later :=
  List.foldl_append

theorem deeds_append (r : DiscoveryRun) (earlier later : List FeedMove) :
    r.deeds (earlier ++ later) = r.deeds earlier ++ (r.moveAll earlier).deeds later := by
  induction earlier generalizing r with
  | nil => rfl
  | cons m earlier ih =>
    rw [List.cons_append, deeds, deeds, ih, List.append_assoc]
    rfl

theorem started_moveAll (r : DiscoveryRun) (moves : List FeedMove) :
    (r.moveAll moves).feed.started = (r.feed.started || decide (.start ∈ moves)) := by
  induction moves generalizing r with
  | nil => simp [moveAll]
  | cons m moves ih =>
    refine (ih (r.move m)).trans ?_
    simp [started_move, Bool.or_assoc, eq_comm]

theorem stopped_moveAll (r : DiscoveryRun) (moves : List FeedMove) :
    (r.moveAll moves).feed.stopped = r.feed.stopped := by
  induction moves generalizing r with
  | nil => rfl
  | cons m moves ih => exact (ih (r.move m)).trans (stopped_move r m)

theorem presence_moveAll (r : DiscoveryRun) (moves : List FeedMove) :
    (r.moveAll moves).presence = Deed.doAll (r.deeds moves) r.presence := by
  induction moves generalizing r with
  | nil => rfl
  | cons m moves ih =>
    refine (ih (r.move m)).trans ?_
    rw [presence_move, deeds, Deed.doAll, Deed.doAll, Deed.doAll, List.foldl_append]

theorem filterMap_timed_cons {α : Type} (f : Nat × FeedMove → Option α) (now : Nat) (m : FeedMove)
    (moves : List FeedMove) : (FeedMove.timed now (m :: moves)).filterMap f =
      (f (now, m)).toList ++ (FeedMove.timed (now + m.duration) moves).filterMap f := by
  rw [FeedMove.timed]
  cases yields : f (now, m) <;> simp [yields]

theorem queue_moveAll (r : DiscoveryRun) (moves : List FeedMove) :
    (r.deeds moves).filterMap Deed.carriedOut? ++ (r.moveAll moves).feed.queue =
      r.feed.queue ++ (FeedMove.timed r.now moves).filterMap FeedMove.order? := by
  induction moves generalizing r with
  | nil => exact (List.append_nil _).symm
  | cons m moves ih =>
    have later := ih (r.move m)
    rw [now_move] at later
    rw [deeds, List.filterMap_append, List.append_assoc, filterMap_timed_cons,
      ← List.append_assoc r.feed.queue, ← queue_move, List.append_assoc, ← later]
    rfl

theorem called_deeds (r : DiscoveryRun) (moves : List FeedMove) :
    (r.deeds moves).filterMap Deed.called? =
      (FeedMove.timed r.now moves).filterMap FeedMove.call? := by
  induction moves generalizing r with
  | nil => rfl
  | cons m moves ih =>
    rw [deeds, List.filterMap_append, ih, now_move, called_deed, filterMap_timed_cons]

theorem deeds_of_idle (idle : r.feed.started = false) (never : .start ∉ moves) :
    r.deeds moves = ((FeedMove.timed r.now moves).filterMap FeedMove.call?).map .call := by
  induction moves generalizing r with
  | nil => rfl
  | cons m moves ih =>
    obtain ⟨other, later⟩ := List.ne_and_not_mem_of_not_mem_cons never
    have still : (r.move m).feed.started = false := by
      rw [started_move, idle, Bool.false_or]
      exact decide_eq_false other.symm
    have waits : r.feed.isRunning = false := by simp [Feed.isRunning, idle]
    rw [deeds, deed?_of_idle waits, ih still later, now_move, filterMap_timed_cons, List.map_append]
    cases FeedMove.call? (r.now, m) <;> rfl

/-! ### Settling -/

theorem settled_of_idle (idle : r.feed.isRunning = false) : r.settled = r := by
  simp [settled, Feed.settle, idle]

theorem settled_of_running (running : r.feed.isRunning = true) :
    r.settled = { r with
      feed := { r.feed with queue := [] }
      presence := r.feed.queue.foldl (Feed.perform r.now) r.presence } := by
  simp [settled, Feed.settle, running]

theorem settled_eq_moveAll (r : DiscoveryRun) :
    r.settled = r.moveAll (List.replicate r.feed.queue.length .work) := by
  cases running : r.feed.isRunning with
  | false =>
    obtain ⟨-, waits⟩ | ⟨c, rest, running', -⟩ := work_cases r
    · rw [settled_of_idle running]
      generalize r.feed.queue.length = n
      induction n with
      | zero => rfl
      | succ n ih => exact ih.trans (congrArg (moveAll · (List.replicate n .work)) waits).symm
    · simp [running] at running'
  | true =>
    -- settling and the feed at work begin with the same command, and one of them is left less
    generalize queued : r.feed.queue = commands
    induction commands generalizing r with
    | nil =>
      have empty : r.feed = { r.feed with queue := [] } := by rw [← queued]
      rw [settled_of_running running, queued, ← empty]
      rfl
    | cons c rest ih =>
      have done := move_work running queued
      have running' : (r.move .work).feed.isRunning = true := by
        rw [done]
        exact running
      calc
        r.settled = (r.move .work).settled := by
          rw [settled_of_running running, settled_of_running running', done, queued,
            List.foldl_cons, Feed.perform_eq]
        _ = (r.move .work).moveAll (List.replicate rest.length .work) :=
          ih (r.move .work) running' (by rw [done])

theorem queue_settled (running : r.feed.isRunning = true) : r.settled.feed.queue = [] := by
  rw [settled_of_running running]

theorem orders_work (now n : Nat) :
    (FeedMove.timed now (List.replicate n .work)).filterMap FeedMove.order? = [] := by
  induction n generalizing now with
  | zero => rfl
  | succ n ih => exact (filterMap_timed_cons _ now _ _).trans (ih _)

theorem carriedOut_settling (running : r.feed.isRunning = true) :
    (r.deeds (List.replicate r.feed.queue.length .work)).filterMap Deed.carriedOut? =
      r.feed.queue := by
  have all := queue_moveAll r (List.replicate r.feed.queue.length .work)
  rwa [← settled_eq_moveAll, queue_settled running, orders_work, List.append_nil,
    List.append_nil] at all

/-! ### The times at which devices were seen -/

/-- No device comes from the future, neither a known one nor one that is announced. -/
structure Timely (r : DiscoveryRun) : Prop where
  keyed : r.presence.known.Keyed
  known : ∀ a d, r.presence.known.get? a = some d → d.lastSeen ≤ r.now
  queued : ∀ d, .announce d ∈ r.feed.queue → d.lastSeen ≤ r.now

theorem timely_new (capacity : Nat) : Timely (new capacity) :=
  ⟨DeviceMap.keyed_nil, nofun, nofun⟩

theorem Timely.isMadeAt (h : Timely r) {deed : Deed} (made : r.deed? m = some deed) :
    deed.made.IsMadeAt r.now := by
  cases m with
  | work =>
    obtain ⟨none, -⟩ | ⟨c, rest, running, queued⟩ := work_cases r
    · cases none.symm.trans made
    · obtain rfl := Option.some.inj ((deed?_work running queued).symm.trans made)
      cases c with
      | announce d => exact ⟨rfl, h.queued d (by simp [queued])⟩
      | vanish a => trivial
  | upsert a name version =>
    obtain rfl := Option.some.inj made
    rfl
  | sight a name version =>
    obtain rfl := Option.some.inj made
    exact ⟨rfl, le_rfl⟩
  | remove a =>
    obtain rfl := Option.some.inj made
    trivial
  | evict maxAge =>
    obtain rfl := Option.some.inj made
    trivial
  | _ => cases made

theorem Timely.get?_move (h : Timely r) (m : FeedMove) (a : SocketAddress) :
    (r.move m).presence.known.get? a =
      match r.deed? m with
      | some deed => deed.made.leaves a (r.presence.known.get? a)
      | none => r.presence.known.get? a := by
  rw [known_move]
  cases r.deed? m with
  | none => rfl
  | some deed => exact h.keyed.get?_change deed.made a

theorem Timely.get?_announced (h : Timely r) {d : Device} {rest : List FeedCommand}
    (running : r.feed.isRunning = true) (queued : r.feed.queue = .announce d :: rest) :
    (r.move .work).presence.known.get? d.address = some { d with
      lastSeen := if r.presence.known.isKnown d.address then r.now else d.lastSeen } := by
  rw [h.get?_move, deed?_work running queued]
  exact if_pos rfl

theorem Timely.seen_move (h : Timely r) {d : Device}
    (found : (r.move m).presence.known.get? a = some d) :
    d.lastSeen ≤ r.now ∧ ∀ e, r.presence.known.get? a = some e → e.lastSeen ≤ d.lastSeen := by
  rw [h.get?_move] at found
  split at found
  case h_1 deed made => exact (h.isMadeAt made).leaves found (h.known a)
  case h_2 =>
    refine ⟨h.known a d found, fun e same => ?_⟩
    obtain rfl := Option.some.inj (found.symm.trans same)
    exact le_rfl

theorem Timely.move (h : Timely r) (m : FeedMove) : Timely (r.move m) := by
  refine ⟨?_, fun a d found => ?_, fun d member => ?_⟩
  · rw [known_move]
    cases r.deed? m with
    | none => exact h.keyed
    | some deed => exact h.keyed.change deed.made
  · rw [now_move]
    exact Nat.le_add_right_of_le (h.seen_move found).1
  · rw [now_move]
    have source : .announce d ∈ r.feed.queue ++ (FeedMove.order? (r.now, m)).toList := by
      rw [← queue_move]
      exact List.mem_append_right _ member
    obtain earlier | new := List.mem_append.1 source
    · exact Nat.le_add_right_of_le (h.queued d earlier)
    · cases m <;> simp [FeedMove.order?] at new
      subst new
      exact Nat.le_add_right _ _

theorem Timely.moveAll (h : Timely r) (moves : List FeedMove) : Timely (r.moveAll moves) := by
  induction moves generalizing r with
  | nil => exact h
  | cons m moves ih => exact ih (h.move m)

def StaysKnown (r : DiscoveryRun) (a : SocketAddress) (moves : List FeedMove) : Prop :=
  ∀ part, part <+: moves → (r.moveAll part).presence.known.isKnown a = true

theorem Timely.seen_moveAll (h : Timely r) (stays : r.StaysKnown a moves) {d d' : Device}
    (found : r.presence.known.get? a = some d)
    (later : (r.moveAll moves).presence.known.get? a = some d') : d.lastSeen ≤ d'.lastSeen := by
  induction moves generalizing r d with
  | nil =>
    obtain rfl := Option.some.inj (found.symm.trans later)
    exact le_rfl
  | cons m moves ih =>
    have next : (r.move m).StaysKnown a moves := fun part before =>
      stays (m :: part) (List.cons_prefix_cons.2 ⟨rfl, before⟩)
    obtain ⟨e, between⟩ := Option.isSome_iff_exists.1 (next [] List.nil_prefix)
    exact ((h.seen_move between).2 d found).trans (ih (h.move m) next between later)

end DiscoveryRun

namespace DiscoveryRun

theorem isRunning_moveAll (capacity : Nat) (moves : List FeedMove) :
    ((new capacity).moveAll moves).feed.isRunning = decide (.start ∈ moves) := by
  rw [Feed.isRunning, started_moveAll, stopped_moveAll]
  simp [new, Feed.new]

end DiscoveryRun

open DiscoveryRun in
/-- A feed that nobody stops, whatever is done around it, and in whichever order. The registry sees
the calls of others, each at its time, and the commands of the feed. The commands that were carried
out and those that are still queued are together all that were queued, in order. Before the feed is
started it carries out nothing. The first start makes it active, and each later one finds it
running. To settle, also after a sleep, is to be at work until nothing is queued; then every command
was carried out, once. A device that was announced is stored with the time of the announcement if
its address is unknown, and otherwise with the time at which the command is carried out. So no known
device was last seen in the future, and while an address stays known the time at which its device
was seen never goes back. -/
theorem feed_carries_out_each_command_once (capacity : Nat) (moves : List FeedMove) :
    let start := DiscoveryRun.new capacity
    let r := start.moveAll moves
    let orders := (FeedMove.timed 0 moves).filterMap FeedMove.order?
    let calls := (FeedMove.timed 0 moves).filterMap FeedMove.call?
    let settling := List.replicate r.feed.queue.length FeedMove.work
    (r.presence = Deed.doAll (start.deeds moves) (.new capacity) ∧
        (start.deeds moves).filterMap Deed.called? = calls ∧
        (start.deeds moves).filterMap Deed.carriedOut? ++ r.feed.queue = orders) ∧
      (.start ∉ moves → start.deeds moves = calls.map .call) ∧
      (r.step .startFeed).1 = .status (if .start ∈ moves then .alreadyRunning else .active) ∧
      (r.step .settle).2 = start.moveAll (moves ++ settling) ∧
      (∀ duration,
        (r.step (.sleep duration)).2 = start.moveAll (moves ++ .pass duration :: settling)) ∧
      (.start ∈ moves →
        (r.step .settle).2.feed.queue = [] ∧
          (start.deeds (moves ++ settling)).filterMap Deed.carriedOut? = orders ∧
          ∀ c rest, r.feed.queue = c :: rest →
            start.deeds (moves ++ [.work]) = start.deeds moves ++ [.command r.now c] ∧
              ∀ d, c = .announce d →
                (r.move .work).presence.known.get? d.address = some { d with
                  lastSeen := if r.presence.known.isKnown d.address then r.now else d.lastSeen }) ∧
      (∀ a d, r.presence.known.get? a = some d → d.lastSeen ≤ r.now) ∧
      ∀ later a d d', r.StaysKnown a later → r.presence.known.get? a = some d →
        (r.moveAll later).presence.known.get? a = some d' → d.lastSeen ≤ d'.lastSeen := by
  intro start r orders calls settling
  have timely : r.Timely := (timely_new capacity).moveAll moves
  have queue : (start.deeds moves).filterMap Deed.carriedOut? ++ r.feed.queue = orders :=
    queue_moveAll start moves
  have runs : r.feed.isRunning = decide (.start ∈ moves) := isRunning_moveAll capacity moves
  refine ⟨⟨presence_moveAll start moves, called_deeds start moves, queue⟩, deeds_of_idle rfl, ?_, ?_,
    fun duration => ?_, fun started => ?_, timely.known,
    fun later a d d' stays found later' => timely.seen_moveAll stays found later'⟩
  · have started : r.feed.started = decide (.start ∈ moves) := started_moveAll start moves
    by_cases again : .start ∈ moves <;> simp [step, Feed.start, started, again]
  · rw [moveAll_append]
    exact settled_eq_moveAll r
  · rw [moveAll_append]
    exact settled_eq_moveAll (r.move (.pass duration))
  · have running : r.feed.isRunning = true := runs.trans (decide_eq_true started)
    refine ⟨queue_settled running, ?_, fun c rest queued => ⟨?_, ?_⟩⟩
    · rw [deeds_append, List.filterMap_append, carriedOut_settling running, queue]
    · rw [deeds_append, deeds, deed?_work running queued]
      rfl
    · rintro d rfl
      exact timely.get?_announced running queued

/-- A device is announced twice before the feed starts. It is stored with the time of the first
announcement, and refreshed when the feed comes to the second. -/
theorem feed_carries_out_what_was_queued_before :
    let a : SocketAddress := .v4 ⟨10, 0, 0, 7⟩ 6064
    let first : Device := { address := a, name := "Dock", version := "1.0", lastSeen := 0 }
    let second : Device := { address := a, name := "Hall", version := "1.1", lastSeen := 7 }
    let early : List FeedMove := [.announce a "Dock" "1.0", .pass 5, .announce a "Hall" "1.1"]
    let r := (DiscoveryRun.new 4).moveAll (early ++ [.start])
    let later : List FeedMove := [.pass 2, .work]
    (DiscoveryRun.new 4).deeds early = [] ∧ (r.step .startFeed).1 = .status .alreadyRunning ∧
      (r.move .work).presence.known.get? a = some first ∧ (r.move .work).StaysKnown a later ∧
      ((r.move .work).moveAll later).presence.known.get? a = some second ∧
      first.lastSeen ≤ second.lastSeen := by
  intro a first second early r later
  obtain ⟨-, idle, -⟩ := feed_carries_out_each_command_once 4 early
  obtain ⟨-, -, again, -, -, works, -⟩ := feed_carries_out_each_command_once 4 (early ++ [.start])
  obtain ⟨-, -, -, -, -, -, -, older⟩ :=
    feed_carries_out_each_command_once 4 (early ++ [.start] ++ [.work])
  obtain ⟨-, -, -, -, -, refreshes, -⟩ :=
    feed_carries_out_each_command_once 4 (early ++ [.start] ++ [.work] ++ [.pass 2])
  have stored : (r.move .work).presence.known.get? a = some first :=
    ((works (by decide)).2.2 _ _ rfl).2 first rfl
  have refreshed : ((r.move .work).moveAll later).presence.known.get? a = some second :=
    ((refreshes (by decide)).2.2 _ _ rfl).2 { second with lastSeen := 5 } rfl
  have stays : (r.move .work).StaysKnown a later := by
    intro part before
    have : ∀ part ∈ later.inits, ((r.move .work).moveAll part).presence.known.isKnown a = true := by
      decide
    exact this part ((List.mem_inits part later).2 before)
  exact ⟨idle (by decide), again, stored, stays, refreshed,
    older later a first second stays stored refreshed⟩

end TitleDock
