import TitleDock.Proofs.Transfer.Outcome

/-! Rows of answers to a fetch that asks for the status again and again. An answer ends the polling
if it is a fault, a report of an end, or a report that the extraction is pending after one that it
was in progress. What the polling comes to with that answer, and what is told of the answers before
it, is said here of the row alone. Answers that go on are all accepted, pending ones first. -/

namespace TitleDock

def Arrival.status? : Arrival → Option (Except Fault Session)
  | .answer (.status r) => some r
  | _ => none

namespace SessionStatus

def rising (m n : Nat) : List SessionStatus :=
  List.replicate m .pending ++ List.replicate n .inProgress

theorem getLastD_rising (m n : Nat) :
    (rising m n).getLastD .pending = if n = 0 then .pending else .inProgress := by
  cases n <;> cases m <;> simp [rising, List.getLastD_eq_getLast?, List.getLast?_append,
    List.getLast?_replicate]

@[simp] theorem rising_concat_pending (m : Nat) :
    rising m 0 ++ [.pending] = rising (m + 1) 0 := by
  simp [rising, List.replicate_succ']

@[simp] theorem rising_concat_inProgress (m n : Nat) :
    rising m n ++ [.inProgress] = rising m (n + 1) := by
  simp [rising, List.replicate_succ']

def IsRising (statuses : List SessionStatus) : Prop := ∃ m n, statuses = rising m n

section Rising

variable {statuses : List SessionStatus} {status : SessionStatus}

theorem isRising_nil : IsRising [] := ⟨0, 0, rfl⟩

theorem isRising_concat : IsRising (statuses ++ [status]) ↔
    IsRising statuses ∧ (status = .inProgress ∨ status = .pending ∧ .inProgress ∉ statuses) := by
  constructor
  · rintro ⟨m, n, split⟩
    cases n with
    | succ n =>
      rw [← rising_concat_inProgress] at split
      obtain ⟨same, last⟩ := List.append_inj' split rfl
      exact ⟨⟨m, n, same⟩, .inl (List.singleton_inj.1 last)⟩
    | zero =>
      cases m with
      | zero => simp [rising] at split
      | succ m =>
        rw [← rising_concat_pending] at split
        obtain ⟨rfl, last⟩ := List.append_inj' split rfl
        exact ⟨⟨m, 0, rfl⟩, .inr ⟨List.singleton_inj.1 last, by simp [rising]⟩⟩
  · rintro ⟨⟨m, n, rfl⟩, rfl | ⟨rfl, none⟩⟩
    · exact ⟨m, n + 1, rising_concat_inProgress m n⟩
    · cases n with
      | zero => exact ⟨m + 1, 0, rising_concat_pending m⟩
      | succ n => simp [rising] at none

theorem IsRising.concat_last (h : IsRising statuses) (last : statuses.getLast? = some status) :
    IsRising (statuses ++ [status]) := by
  obtain ⟨before, rfl⟩ := List.getLast?_eq_some_iff.1 last
  obtain ⟨-, rfl | ⟨rfl, none⟩⟩ := isRising_concat.1 h
  · exact isRising_concat.2 ⟨h, .inl rfl⟩
  · exact isRising_concat.2 ⟨h, .inr ⟨rfl, by simp [none]⟩⟩

end Rising

end SessionStatus

namespace Session

/-- An answer ends the polling, after the answers before it. -/
def EndsPolling (earlier : List (Except Fault Session)) : Except Fault Session → Prop
  | .error _ => True
  | .ok s =>
    match s.status with
    | .completed | .failed => True
    | .pending => ∃ t, .ok t ∈ earlier ∧ t.status = .inProgress
    | .inProgress => False

def GoOn (answers : List (Except Fault Session)) : Prop :=
  ∀ earlier a later, answers = earlier ++ a :: later → ¬ EndsPolling earlier a

/-- What the polling comes to with the answer that ends it. -/
def verdict : Except Fault Session → Except Fault Session
  | .error f => .error (.request ("status poll failed: " ++ toString f))
  | .ok s =>
    match s.status with
    | .pending => .error (.protocol "status regressed from InProgress to Pending")
    | .inProgress | .completed => .ok s
    | .failed => .error (.remoteExtraction s.reason)

def progressTold : Except Fault Session → List TransferEvent
  | .error _ => []
  | .ok s =>
    match s.status with
    | .inProgress =>
      [.extractProgress s.bytesTransferred s.totalBytes, .status s.progressLine]
    | .pending | .completed | .failed => []

/-- The statuses of the answers that are accepted one after the other. -/
def accepted (last : SessionStatus) : List (Except Fault Session) → List SessionStatus
  | [] => []
  | a :: later =>
    match accept last a with
    | .ok s => s.status :: accepted s.status later
    | .error _ => []

def lastAccepted (answers : List (Except Fault Session)) : SessionStatus :=
  (accepted .pending answers).getLastD .pending

section Answers

variable {answers : List (Except Fault Session)} {a : Except Fault Session} {s : Session}
  {last : SessionStatus}

theorem goOn_nil : GoOn [] := by
  intro earlier a later split
  simp at split

theorem goOn_concat : GoOn (answers ++ [a]) ↔ GoOn answers ∧ ¬ EndsPolling answers a := by
  constructor
  · intro h
    refine ⟨fun earlier b later split => ?_, h answers a [] rfl⟩
    exact h earlier b (later ++ [a]) (by simp [split])
  · rintro ⟨h, last⟩ earlier b later split
    rcases List.eq_nil_or_concat later with rfl | ⟨later, c, rfl⟩
    · obtain ⟨rfl, same⟩ := List.append_inj' split rfl
      obtain rfl : a = b := by simpa using same
      exact last
    · rw [List.concat_eq_append, ← List.cons_append, ← List.append_assoc] at split
      exact h earlier b later (List.append_inj_left' split rfl)

theorem goOn_append {later : List (Except Fault Session)} (h : GoOn (answers ++ later)) :
    GoOn answers := by
  intro earlier b rest split
  exact h earlier b (rest ++ later) (by simp [split])

theorem goOn_map_ok (sessions : List Session) :
    GoOn (sessions.map .ok) ↔ SessionStatus.IsRising (sessions.map (·.status)) := by
  induction sessions using List.reverseRecOn with
  | nil => exact iff_of_true goOn_nil SessionStatus.isRising_nil
  | append_singleton sessions s ih =>
    simp only [List.map_append, List.map_singleton]
    rw [goOn_concat, SessionStatus.isRising_concat, ih, and_congr_right_iff]
    intro _
    cases status : s.status <;> simp [EndsPolling, status]

theorem accept_pending (s : Session) : accept .pending (.ok s) = .ok s := by
  refine accept_eq_ok ?_
  cases s.status <;> rfl

theorem accept_inProgress (other : s.status ≠ .pending) : accept .inProgress (.ok s) = .ok s := by
  refine accept_eq_ok ?_
  cases status : s.status with
  | pending => exact absurd status other
  | inProgress | completed | failed => rfl

theorem accepted_concat (all : (accepted last answers).length = answers.length)
    (a : Except Fault Session) :
    accepted last (answers ++ [a]) = accepted last answers ++
      match accept ((accepted last answers).getLastD last) a with
      | .ok s => [s.status]
      | .error _ => [] := by
  induction answers generalizing last with
  | nil => cases taken : accept last a <;> simp [accepted, taken]
  | cons b answers ih =>
    cases taken : accept last b with
    | error f => simp [accepted, taken] at all
    | ok s =>
      have rest : (accepted s.status answers).length = answers.length := by
        simpa [accepted, taken] using all
      simp only [List.cons_append, accepted, taken, List.getLastD_cons]
      rw [ih rest]

theorem GoOn.accepted_eq (h : GoOn answers) :
    ∃ m n, accepted .pending answers = SessionStatus.rising m n ∧
      (accepted .pending answers).length = answers.length ∧
        (n = 0 ↔ ∀ t, .ok t ∈ answers → t.status ≠ .inProgress) := by
  induction answers using List.reverseRecOn with
  | nil => exact ⟨0, 0, rfl, rfl, by simp⟩
  | append_singleton answers a ih =>
    obtain ⟨before, goes⟩ := goOn_concat.1 h
    obtain ⟨m, n, all, length, never⟩ := ih before
    have next := accepted_concat length a
    rw [all, SessionStatus.getLastD_rising] at next
    cases a with
    | error f => exact absurd trivial goes
    | ok s =>
      cases status : s.status with
      | completed | failed => simp [EndsPolling, status] at goes
      | pending =>
        have none : ∀ t, .ok t ∈ answers → t.status ≠ .inProgress := by
          simpa [EndsPolling, status] using goes
        obtain rfl := never.2 none
        rw [if_pos rfl, accept_pending] at next
        refine ⟨m + 1, 0, ?_, ?_, iff_of_true rfl ?_⟩
        · simpa [status] using next
        · simp [next, ← length, all]
        · intro t member
          obtain earlier | same := List.mem_append.1 member
          · exact none t earlier
          · obtain rfl : t = s := by simpa using same
            simp [status]
      | inProgress =>
        have taken : accept (if n = 0 then .pending else .inProgress) (.ok s) = .ok s := by
          split
          · exact accept_pending s
          · exact accept_inProgress (by simp [status])
        rw [taken] at next
        refine ⟨m, n + 1, ?_, ?_, iff_of_false (by simp) fun none => none s (by simp) status⟩
        · simpa [status] using next
        · simp [next, ← length, all]

theorem GoOn.lastAccepted_cases (h : GoOn answers) :
    lastAccepted answers = .pending ∧ (∀ t, .ok t ∈ answers → t.status ≠ .inProgress) ∨
      lastAccepted answers = .inProgress ∧ ∃ t, .ok t ∈ answers ∧ t.status = .inProgress := by
  obtain ⟨m, n, all, -, never⟩ := h.accepted_eq
  rw [lastAccepted, all, SessionStatus.getLastD_rising]
  by_cases none : n = 0
  · exact .inl ⟨if_pos none, never.1 none⟩
  · refine .inr ⟨if_neg none, ?_⟩
    by_contra absent
    push Not at absent
    exact none (never.2 absent)

theorem GoOn.accept_cases (h : GoOn answers) (a : Except Fault Session) :
    (∃ f, accept (lastAccepted answers) a = .error f ∧ EndsPolling answers a ∧
        verdict a = .error f) ∨
      ∃ s, a = .ok s ∧ accept (lastAccepted answers) a = .ok s ∧
        (EndsPolling answers a ↔ s.status.isTerminal = true) := by
  cases a with
  | error f => exact .inl ⟨_, rfl, trivial, rfl⟩
  | ok s =>
    obtain ⟨last, never⟩ | ⟨last, once⟩ := h.lastAccepted_cases
    · refine .inr ⟨s, rfl, by rw [last, accept_pending], ?_⟩
      cases status : s.status <;> simp [EndsPolling, status, SessionStatus.isTerminal]
      exact never
    · by_cases back : s.status = .pending
      · refine .inl ⟨.protocol "status regressed from InProgress to Pending", ?_, ?_, ?_⟩
        · rw [last, accept, back]
          rfl
        · simpa [EndsPolling, back] using once
        · simp [verdict, back]
      · refine .inr ⟨s, rfl, by rw [last, accept_inProgress back], ?_⟩
        cases status : s.status <;> simp_all [EndsPolling, SessionStatus.isTerminal]

theorem GoOn.lastAccepted_concat (h : GoOn answers)
    (taken : accept (lastAccepted answers) a = .ok s) :
    lastAccepted (answers ++ [a]) = s.status := by
  obtain ⟨m, n, -, length, -⟩ := h.accepted_eq
  have next := accepted_concat length a
  rw [show (accepted .pending answers).getLastD .pending = lastAccepted answers from rfl, taken]
    at next
  rw [lastAccepted, next]
  simp

theorem GoOn.accepted_ended (h : GoOn answers) (ends : EndsPolling answers a) :
    ∃ m n last, accepted .pending (answers ++ [a]) = SessionStatus.rising m n ++ last ∧
      (last = [] ∨ last = [.completed] ∨ last = [.failed]) := by
  obtain ⟨m, n, all, length, -⟩ := h.accepted_eq
  have next := accepted_concat length a
  rw [show (accepted .pending answers).getLastD .pending = lastAccepted answers from rfl, all]
    at next
  refine ⟨m, n, _, next, ?_⟩
  obtain ⟨f, refused, -, -⟩ | ⟨s, rfl, taken, terminal⟩ := h.accept_cases a
  · exact .inl (by rw [refused])
  · have ended := terminal.1 ends
    rw [taken]
    cases status : s.status with
    | pending | inProgress => simp [status, SessionStatus.isTerminal] at ended
    | completed => exact .inr (.inl (by simp [status]))
    | failed => exact .inr (.inr (by simp [status]))

end Answers

end Session

end TitleDock
