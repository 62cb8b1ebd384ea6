import Mathlib.Data.List.Basic
import TitleDock.Event.Log

/-! Calls of a throttle one after the other, and the lines that it lets into the log. What is let
through keeps its distance, and what is held back comes too soon after something that was let
through. Only the progress of downloads asks the throttle, and a complete download is logged
whatever the answer. -/

namespace TitleDock

namespace Throttle

def callAll (t : Throttle) : List Nat → List (Nat × Bool)
  | [] => []
  | now :: later => (now, (t.call now).1) :: (t.call now).2.callAll later

/-- The times of the calls that were let through. -/
def passed (calls : List (Nat × Bool)) : List Nat :=
  (calls.filter Prod.snd).map Prod.fst

section Calls

variable {t : Throttle} {now : Nat} {times : List Nat}

theorem call_of_due (due : t.isDue now = true) : t.call now = (true, { t with last := some now }) :=
  if_pos due

theorem call_of_early (early : t.isDue now = false) : t.call now = (false, t) :=
  if_neg (by simp [early])

theorem isDue_iff : t.isDue now = true ↔ ∀ s ∈ t.last, t.interval ≤ now - s := by
  rw [isDue]
  split <;> simp_all

theorem passed_cons (now : Nat) (pass : Bool) (later : List (Nat × Bool)) :
    passed ((now, pass) :: later) = if pass then now :: passed later else passed later := by
  cases pass <;> rfl

theorem passed_callAll_cons (t : Throttle) (now : Nat) (later : List Nat) :
    passed (t.callAll (now :: later)) =
      if t.isDue now then now :: passed (({ t with last := some now } : Throttle).callAll later)
      else passed (t.callAll later) := by
  rw [callAll, passed_cons, call_fst]
  cases due : t.isDue now with
  | true =>
    rw [call_of_due due]
    rfl
  | false =>
    rw [call_of_early due]
    rfl

theorem times_callAll (t : Throttle) (times : List Nat) :
    (t.callAll times).map Prod.fst = times := by
  induction times generalizing t with
  | nil => rfl
  | cons now later ih => rw [callAll, List.map_cons, ih]

theorem pairwise_passed (since : ∀ s ∈ t.last, ∀ now ∈ times, s ≤ now)
    (rising : times.Pairwise (· ≤ ·)) :
    (t.last.toList ++ passed (t.callAll times)).Pairwise fun s u => s + t.interval ≤ u := by
  induction times generalizing t with
  | nil => cases t.last <;> simp [callAll, passed]
  | cons now later ih =>
    obtain ⟨first, rest⟩ := List.pairwise_cons.1 rising
    rw [passed_callAll_cons]
    split
    case isTrue due =>
      have apart : (now :: passed (({ t with last := some now } : Throttle).callAll later)).Pairwise
          fun s u => s + t.interval ≤ u :=
        ih (t := { t with last := some now }) (by simpa using first) rest
      cases last : t.last with
      | none => exact apart
      | some s =>
        have waited : t.interval ≤ now - s := isDue_iff.1 due s last
        have before : s ≤ now := since s last now List.mem_cons_self
        refine List.pairwise_cons.2 ⟨List.forall_mem_cons.2 ⟨by omega, fun u member => ?_⟩, apart⟩
        have := List.rel_of_pairwise_cons apart member
        omega
    case isFalse =>
      exact ih (fun s last u member => since s last u (List.mem_cons_of_mem _ member)) rest

theorem exists_passed_of_held {earlier later : List (Nat × Bool)}
    (since : ∀ s ∈ t.last, ∀ now ∈ times, s ≤ now) (rising : times.Pairwise (· ≤ ·))
    (calls : t.callAll times = earlier ++ (now, false) :: later) :
    ∃ s ∈ t.last.toList ++ passed earlier, s ≤ now ∧ now < s + t.interval := by
  induction times generalizing t earlier with
  | nil => simp [callAll] at calls
  | cons first rest ih =>
    obtain ⟨least, rest'⟩ := List.pairwise_cons.1 rising
    rw [callAll] at calls
    cases earlier with
    | nil =>
      obtain ⟨same, -⟩ := List.cons.inj calls
      obtain ⟨rfl, early⟩ := Prod.mk.inj same
      rw [call_fst] at early
      obtain ⟨s, last, short⟩ : ∃ s ∈ t.last, first - s < t.interval := by
        by_contra none
        rw [isDue_iff.2 fun s last => Nat.le_of_not_lt fun lt => none ⟨s, last, lt⟩] at early
        cases early
      have before : s ≤ first := since s last first List.mem_cons_self
      exact ⟨s, by simp [Option.mem_def.1 last], before, by omega⟩
    | cons call earlier =>
      obtain ⟨rfl, behind⟩ := List.cons.inj calls
      rw [passed_cons, call_fst]
      cases due : t.isDue first with
      | true =>
        rw [call_of_due due] at behind
        obtain ⟨s, member, close⟩ := ih (t := { t with last := some first }) (by simpa using least)
          rest' behind
        exact ⟨s, List.mem_append_right _ member, close⟩
      | false =>
        rw [call_of_early due] at behind
        exact ih (fun s last u member => since s last u (List.mem_cons_of_mem _ member)) rest' behind

end Calls

end Throttle

namespace WordThrottle

def callAll (t : WordThrottle) : List UInt64 → List (UInt64 × Bool)
  | [] => []
  | now :: later => (now, (t.call now).1) :: (t.call now).2.callAll later

/-- The throttle whose times the words are. -/
def meant (t : WordThrottle) : Throttle :=
  { interval := t.interval.toNat, last := if t.last = never then none else some t.last.toNat }

theorem toNat_since (last now : UInt64) : (since last now).toNat = now.toNat - last.toNat := by
  rw [since]
  split
  case isTrue le => exact UInt64.toNat_sub_of_le _ _ le
  case isFalse gt =>
    rw [UInt64.le_iff_toNat_le] at gt
    exact (Nat.sub_eq_zero_of_le (by omega)).symm

theorem call_meant (t : WordThrottle) {now : UInt64} (valid : now ≠ never) :
    t.meant.call now.toNat = ((t.call now).1, (t.call now).2.meant) := by
  have due : t.meant.isDue now.toNat = true ↔ t.last = never ∨ t.interval ≤ since t.last now := by
    rw [Throttle.isDue_iff, UInt64.le_iff_toNat_le, toNat_since]
    by_cases first : t.last = never
    · simp [meant, first]
    · simp [meant, first]
  rw [call]
  split
  case isTrue now' =>
    rw [Throttle.call_of_due (due.2 now')]
    simp [meant, valid]
  case isFalse early =>
    exact Throttle.call_of_early (Bool.eq_false_iff.2 (mt due.1 early))

theorem call_toUInt64 (t : WordThrottle) {now : Nat} (early : now < never.toNat) :
    t.meant.call now = ((t.call now.toUInt64).1, (t.call now.toUInt64).2.meant) := by
  have size : now.toUInt64.toNat = now :=
    UInt64.toNat_ofNat_of_lt (Nat.lt_trans early (UInt64.toNat_lt never))
  have valid : now.toUInt64 ≠ never := by
    rintro same
    rw [← same, size] at early
    exact Nat.lt_irrefl _ early
  simpa [size] using t.call_meant valid

theorem callAll_meant (t : WordThrottle) {times : List UInt64} (valid : ∀ now ∈ times, now ≠ never) :
    t.meant.callAll (times.map UInt64.toNat) =
      (t.callAll times).map fun (now, pass) => (now.toNat, pass) := by
  induction times generalizing t with
  | nil => rfl
  | cons now later ih =>
    obtain ⟨first, rest⟩ := List.forall_mem_cons.1 valid
    rw [List.map_cons, Throttle.callAll, call_meant t first, callAll, List.map_cons]
    exact congrArg _ (ih (t.call now).2 rest)

end WordThrottle

namespace TransferEvent

def isDownload : TransferEvent → Bool
  | .downloadProgress .. => true
  | _ => false

def isComplete : TransferEvent → Bool
  | .downloadProgress read total => decide (0 < total ∧ read = total)
  | _ => false

end TransferEvent

/-- An event with its time, and what is logged for it. -/
structure LoggedEvent where
  time : Nat
  event : TransferEvent
  line : Option LogRecord
deriving DecidableEq, Repr

def LoggedEvent.isUnfinished (x : LoggedEvent) : Bool :=
  x.event.isDownload && !x.event.isComplete && x.line.isSome

namespace EventLogger

def logAll (l : EventLogger) : List (Nat × TransferEvent) → List LoggedEvent
  | [] => []
  | (now, e) :: later =>
    { time := now, event := e, line := (l.log now e).1 } :: (l.log now e).2.logAll later

section Lines

variable {l : EventLogger} {now : Nat} {e : TransferEvent} {events : List (Nat × TransferEvent)}

theorem exists_download (download : e.isDownload = true) :
    ∃ read total, e = .downloadProgress read total := by
  cases e with
  | downloadProgress read total => exact ⟨read, total, rfl⟩
  | _ => cases download

theorem log_of_not_download (l : EventLogger) (now : Nat) (other : e.isDownload = false) :
    ∃ record, l.log now e = (some record, l) ∧ (new.log 0 e).1 = some record := by
  cases e with
  | state s => cases s <;> exact ⟨_, rfl, rfl⟩
  | status line => exact ⟨_, rfl, rfl⟩
  | extractProgress done total => exact ⟨_, rfl, rfl⟩
  | downloadProgress read total => cases other

theorem log_download (l : EventLogger) (now read total : Nat) :
    l.log now (.downloadProgress read total) =
      (if (l.throttle.call now.toUInt64).1 = true ∨ (0 < total ∧ read = total) then
          some (downloadRecord read total) else none,
        { throttle := (l.throttle.call now.toUInt64).2 }) := rfl

theorem events_logAll (l : EventLogger) (events : List (Nat × TransferEvent)) :
    (l.logAll events).map (fun x => (x.time, x.event)) = events := by
  induction events generalizing l with
  | nil => rfl
  | cons first later ih => rw [logAll, List.map_cons, ih]

theorem line_of_complete {x : LoggedEvent} (member : x ∈ l.logAll events) {read total : Nat}
    (download : x.event = .downloadProgress read total) (known : 0 < total) (all : read = total) :
    x.line = some (downloadRecord read total) := by
  induction events generalizing l with
  | nil => cases member
  | cons first later ih =>
    rw [logAll] at member
    obtain rfl | member := List.mem_cons.1 member
    · dsimp only at download ⊢
      rw [download, log_download]
      exact if_pos (.inr ⟨known, all⟩)
    · exact ih member

theorem line_of_not_download {x : LoggedEvent} (member : x ∈ l.logAll events)
    (other : x.event.isDownload = false) : x.line.isSome ∧ x.line = (new.log 0 x.event).1 := by
  induction events generalizing l with
  | nil => cases member
  | cons first later ih =>
    rw [logAll] at member
    obtain rfl | member := List.mem_cons.1 member
    · obtain ⟨record, logged, alone⟩ := log_of_not_download l first.1 other
      dsimp only at alone ⊢
      rw [logged, alone]
      exact ⟨rfl, rfl⟩
    · exact ih member

theorem filter_logAll (l : EventLogger) (events : List (Nat × TransferEvent)) :
    (l.logAll events).filter (·.event.isDownload) =
      l.logAll (events.filter (·.2.isDownload)) := by
  induction events generalizing l with
  | nil => rfl
  | cons first later ih =>
    obtain ⟨now, e⟩ := first
    cases download : e.isDownload with
    | true =>
      rw [List.filter_cons_of_pos (by simpa using download), logAll, logAll,
        List.filter_cons_of_pos (by simpa using download), ih]
    | false =>
      obtain ⟨record, logged, -⟩ := log_of_not_download l now download
      rw [List.filter_cons_of_neg (by simp [download]), logAll,
        List.filter_cons_of_neg (by simp [download]), logged, ih]

theorem isUnfinished_download (l : EventLogger) (now read total : Nat) :
    let e := TransferEvent.downloadProgress read total
    ({ time := now, event := e, line := (l.log now e).1 } : LoggedEvent).isUnfinished =
      (!e.isComplete && (l.throttle.call now.toUInt64).1) := by
  intro e
  by_cases complete : 0 < total ∧ read = total
  · simp [e, LoggedEvent.isUnfinished, TransferEvent.isComplete, complete]
  · cases pass : (l.throttle.call now.toUInt64).1 <;>
      simp [e, LoggedEvent.isUnfinished, TransferEvent.isDownload, TransferEvent.isComplete,
        log_download, complete, pass]

theorem unfinished_sublist (l : EventLogger)
    (early : ∀ x ∈ events, x.1 < WordThrottle.never.toNat) :
    (((l.logAll events).filter LoggedEvent.isUnfinished).map LoggedEvent.time).Sublist
      (Throttle.passed
        (l.throttle.meant.callAll ((events.filter (·.2.isDownload)).map Prod.fst))) := by
  induction events generalizing l with
  | nil => exact .slnil
  | cons first later ih =>
    obtain ⟨now, e⟩ := first
    obtain ⟨now_lt, later_lt⟩ := List.forall_mem_cons.1 early
    rw [logAll]
    cases download : e.isDownload with
    | false =>
      obtain ⟨record, logged, -⟩ := log_of_not_download l now download
      rw [List.filter_cons_of_neg (by simp [LoggedEvent.isUnfinished, download]),
        List.filter_cons_of_neg (by simp [download]), logged]
      exact ih l later_lt
    | true =>
      obtain ⟨read, total, rfl⟩ := exists_download download
      have rest := ih { throttle := (l.throttle.call now.toUInt64).2 } later_lt
      have asked : ((now, .downloadProgress read total) :: later).filter (·.2.isDownload) =
          (now, .downloadProgress read total) :: later.filter (·.2.isDownload) :=
        List.filter_cons_of_pos download
      rw [asked, List.map_cons, Throttle.callAll, WordThrottle.call_toUInt64 _ now_lt,
        Throttle.passed_cons, List.filter_cons, isUnfinished_download, log_download]
      cases (l.throttle.call now.toUInt64).1 with
      | false => simpa using rest
      | true =>
        cases TransferEvent.isComplete (.downloadProgress read total) with
        | false => exact rest.cons_cons now
        | true => exact rest.cons now

end Lines

end EventLogger

/-- Calls of a throttle at times that do not go back. The first one passes, those that pass are an
interval apart at least, and one that is held back comes less than an interval after one that
passed. The throttle may as well keep its times in words, as long as none is the largest word. Of
events in such an order, all that are no downloads are logged, each once and as if it were alone. A
complete download is logged in any case, and the lines about others are half a second apart at
least, before the time that the largest word stands for. The lines about downloads depend on the
downloads alone. -/
theorem throttled_lines_keep_their_distance (interval : Nat) (times : List Nat)
    (events : List (Nat × TransferEvent)) (rising : times.Pairwise (· ≤ ·))
    (inOrder : (events.map Prod.fst).Pairwise (· ≤ ·)) :
    let calls := (Throttle.new interval).callAll times
    let lines := EventLogger.new.logAll events
    (calls.map Prod.fst = times ∧ calls.head? = times.head?.map (·, true) ∧
        (Throttle.passed calls).Pairwise (fun s u => s + interval ≤ u) ∧
        ∀ earlier now later, calls = earlier ++ (now, false) :: later →
          ∃ s ∈ Throttle.passed earlier, s ≤ now ∧ now < s + interval) ∧
      (∀ (word : UInt64) (words : List UInt64), (∀ now ∈ words, now ≠ WordThrottle.never) →
        (Throttle.new word.toNat).callAll (words.map UInt64.toNat) =
          ((WordThrottle.new word).callAll words).map fun (now, pass) => (now.toNat, pass)) ∧
      lines.map (fun x => (x.time, x.event)) = events ∧
      (∀ x ∈ lines, x.event.isDownload = false →
        x.line.isSome ∧ x.line = (EventLogger.new.log 0 x.event).1) ∧
      (∀ x ∈ lines, ∀ read total, x.event = .downloadProgress read total → 0 < total →
        read = total → x.line = some (EventLogger.downloadRecord read total)) ∧
      ((∀ x ∈ events, x.1 < WordThrottle.never.toNat) →
        ((lines.filter LoggedEvent.isUnfinished).map LoggedEvent.time).Pairwise
          (fun s u => s + 500 ≤ u)) ∧
      ∀ others : List (Nat × TransferEvent),
        others.filter (·.2.isDownload) = events.filter (·.2.isDownload) →
        (EventLogger.new.logAll others).filter (·.event.isDownload) =
          lines.filter (·.event.isDownload) := by
  intro calls lines
  refine ⟨⟨Throttle.times_callAll _ times, ?_, ?_, fun earlier now later split => ?_⟩,
    fun word words valid => ?_, EventLogger.events_logAll _ events,
    fun x member => EventLogger.line_of_not_download member,
    fun x member read total => EventLogger.line_of_complete member, fun early => ?_,
    fun others same => ?_⟩
  · cases times <;> rfl
  · exact Throttle.pairwise_passed (t := .new interval) (by simp [Throttle.new]) rising
  · exact Throttle.exists_passed_of_held (t := .new interval) (by simp [Throttle.new]) rising split
  · exact WordThrottle.callAll_meant (.new word) valid
  · have asked : ((events.filter (·.2.isDownload)).map Prod.fst).Pairwise (· ≤ ·) :=
      inOrder.sublist (List.filter_sublist.map _)
    have apart := Throttle.pairwise_passed (t := .new 500) (by simp [Throttle.new]) asked
    exact apart.sublist (EventLogger.unfinished_sublist .new early)
  · rw [EventLogger.filter_logAll, EventLogger.filter_logAll, same]

/-- The third call comes when the interval is just over. A line between two downloads changes
nothing, and the last download is complete, too early for the throttle. -/
theorem lines_half_a_second_apart :
    let calls := (Throttle.new 30).callAll [0, 29, 30, 31]
    let events : List (Nat × TransferEvent) :=
      [(0, .downloadProgress 1 9), (499, .downloadProgress 4 9), (500, .status ""),
        (500, .downloadProgress 5 9), (501, .downloadProgress 9 9)]
    let lines := EventLogger.new.logAll events
    calls = [(0, true), (29, false), (30, true), (31, false)] ∧
      (Throttle.passed calls).Pairwise (fun s u => s + 30 ≤ u) ∧
      (∃ s ∈ Throttle.passed [(0, true)], s ≤ 29 ∧ 29 < s + 30) ∧
      (lines.filter LoggedEvent.isUnfinished).map LoggedEvent.time = [0, 500] ∧
      ((lines.filter LoggedEvent.isUnfinished).map LoggedEvent.time).Pairwise
        (fun s u => s + 500 ≤ u) ∧
      lines.filter (·.event.isDownload) =
        (EventLogger.new.logAll (events.eraseIdx 2)).filter (·.event.isDownload) := by
  intro calls events lines
  obtain ⟨⟨-, -, apart, close⟩, -, -, -, -, spaced, alone⟩ :=
    throttled_lines_keep_their_distance 30 [0, 29, 30, 31] events (by decide) (by decide)
  exact ⟨by decide, apart, close [(0, true)] 29 _ rfl, by decide, spaced (by decide),
    (alone _ (by decide)).symm⟩

end TitleDock
