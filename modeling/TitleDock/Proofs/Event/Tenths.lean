import Mathlib.Algebra.Group.Nat.Defs
import Mathlib.Data.List.Induction
import Mathlib.Data.List.Perm.Subperm
import TitleDock.Event.Console

/-! Which tenths of a download the console shows. An event is worth a line if it stands for more
than every event before it, so the lines go strictly upward and there are at most ten of them. The
program panics at the first download of known size of which ten times the count is no word of 64
bits; up to there every tenth is exact. -/

namespace TitleDock.ConsolePrinter

def wholeTenths (read total : Nat) : Nat := 10 * min read total / total

def Fits (read total : Nat) : Prop := 10 * min read total < 2 ^ 64

instance (read total : Nat) : Decidable (Fits read total) :=
  inferInstanceAs (Decidable (_ < _))

section Tenth

variable {read total : Nat}

theorem wholeTenths_le (read total : Nat) : wholeTenths read total ≤ 10 :=
  Nat.div_le_of_le_mul (by rw [Nat.mul_comm]; exact Nat.mul_le_mul_right 10 (Nat.min_le_right _ _))

theorem wholeTenths_of_le (known : 0 < total) (reached : total ≤ read) :
    wholeTenths read total = 10 := by
  rw [wholeTenths, Nat.min_eq_right reached, Nat.mul_div_cancel _ known]

theorem tenth?_eq (read total : Nat) :
    tenth? read total = if Fits read total then some (wholeTenths read total) else none := by
  have capped : min (10 * min read total / total) 10 = wholeTenths read total :=
    Nat.min_eq_left (wholeTenths_le read total)
  rw [tenth?, Nat.mul_comm, capped]
  rfl

end Tenth

/-- An event that the program can count: ten times its count is a word, where a tenth is taken. -/
def Counts : TransferEvent → Prop
  | .downloadProgress read total => total = 0 ∨ Fits read total
  | _ => True

instance decidableCounts : (e : TransferEvent) → Decidable (Counts e)
  | .downloadProgress .. => inferInstanceAs (Decidable (_ ∨ _))
  | .state _ | .status _ | .extractProgress .. => inferInstanceAs (Decidable True)

def tenths? : TransferEvent → Option Nat
  | .downloadProgress read total => if total = 0 then none else some (wholeTenths read total)
  | _ => none

/-- A number of tenths is more than nothing, and more than every earlier event stands for. -/
def IsNew (earlier : List TransferEvent) (n : Nat) : Prop :=
  0 < n ∧ ∀ m ∈ earlier.filterMap tenths?, m < n

instance (earlier : List TransferEvent) (n : Nat) : Decidable (IsNew earlier n) :=
  inferInstanceAs (Decidable (_ ∧ _))

def worth (earlier : List TransferEvent) : TransferEvent → String
  | .downloadProgress read total =>
    if 0 < total ∧ IsNew earlier (wholeTenths read total) then
      line (wholeTenths read total) read total
    else ""
  | _ => ""

/-- What is printed for each of the events, up to the panic that ends it if there is one. -/
def printAll (p : ConsolePrinter) : List TransferEvent → List String × Option String
  | [] => ([], none)
  | e :: later =>
    match p.print e with
    | .error panic => ([], some panic)
    | .ok (text, next) => (text :: (next.printAll later).1, (next.printAll later).2)

section Runs

variable {p : ConsolePrinter} {e : TransferEvent} {events earlier : List TransferEvent}

theorem isNew_concat {n : Nat} :
    IsNew (earlier ++ [e]) n ↔ IsNew earlier n ∧ ∀ m, tenths? e = some m → m < n := by
  simp [IsNew, List.mem_filterMap, or_imp, forall_and, and_assoc]

def Remembers (p : ConsolePrinter) (earlier : List TransferEvent) : Prop :=
  ∀ n, p.best < n ↔ IsNew earlier n

theorem remembers_new : new.Remembers [] := fun n => by simp [IsNew, new]

theorem print_of_not_counts (h : ¬ Counts e) (p : ConsolePrinter) : p.print e = .error overflow := by
  cases e with
  | downloadProgress read total =>
    obtain ⟨known, wraps⟩ := not_or.1 h
    rw [print, if_neg known, tenth?_eq, if_neg wraps]
  | _ => exact absurd trivial h

theorem print_of_counts (h : Counts e) (known : p.Remembers earlier) :
    ∃ next, p.print e = .ok (worth earlier e, next) ∧ next.Remembers (earlier ++ [e]) := by
  have silent (nothing : tenths? e = none) : p.Remembers (earlier ++ [e]) := fun n => by
    rw [known, isNew_concat, nothing]
    simp
  cases e with
  | downloadProgress read total =>
    by_cases unknown : total = 0
    · refine ⟨p, ?_, silent (if_pos unknown)⟩
      rw [print, if_pos unknown, worth, if_neg (by omega)]
    · have told : tenths? (.downloadProgress read total) = some (wholeTenths read total) :=
        if_neg unknown
      rw [print, if_neg unknown, tenth?_eq, if_pos (h.resolve_left unknown), worth]
      by_cases more : p.best < wholeTenths read total
      · refine ⟨{ best := wholeTenths read total }, ?_, fun n => ?_⟩
        · rw [if_pos ⟨Nat.pos_of_ne_zero unknown, (known _).1 more⟩]
          exact congrArg _ (if_pos more)
        · rw [isNew_concat, ← known, told]
          simp only [Option.some.injEq, forall_eq']
          omega
      · refine ⟨p, ?_, fun n => ?_⟩
        · rw [if_neg fun fresh => more ((known _).2 fresh.2)]
          exact congrArg _ (if_neg more)
        · rw [isNew_concat, ← known, told]
          simp only [Option.some.injEq, forall_eq']
          omega
  | _ => exact ⟨p, rfl, silent rfl⟩

theorem printAll_of_remembers (known : p.Remembers earlier) (events : List TransferEvent) :
    p.printAll events =
      ((events.takeWhile (Counts ·)).mapIdx fun i e => worth (earlier ++ events.take i) e,
        if ∀ e ∈ events, Counts e then none else some overflow) := by
  induction events generalizing p earlier with
  | nil => rfl
  | cons e later ih =>
    by_cases counts : Counts e
    · obtain ⟨next, printed, known'⟩ := print_of_counts counts known
      rw [printAll, printed]
      dsimp only
      rw [ih known', List.takeWhile_cons_of_pos (by simpa using counts), List.mapIdx_cons]
      simp [counts]
    · rw [printAll, print_of_not_counts counts, List.takeWhile_cons_of_neg (by simpa using counts)]
      simp [counts]

theorem line_ne_empty (n read total : Nat) : line n read total ≠ "" := fun none =>
  absurd (String.append_eq_empty_iff.1 none).2 (by decide)

theorem print_cases (p : ConsolePrinter) (e : TransferEvent) :
    (∃ panic, p.print e = .error panic) ∨ p.print e = .ok ("", p) ∨
      ∃ n read total, p.best < n ∧ n ≤ 10 ∧
        p.print e = .ok (line n read total, { best := n }) := by
  cases e with
  | downloadProgress read total =>
    rw [print]
    split
    · exact .inr (.inl rfl)
    · split
      case h_1 => exact .inl ⟨_, rfl⟩
      case h_2 n counted =>
        split
        case isTrue more => exact .inr (.inr ⟨n, read, total, more, tenth?_le counted, rfl⟩)
        case isFalse => exact .inr (.inl rfl)
  | _ => exact .inr (.inl rfl)

theorem exists_lines (p : ConsolePrinter) (events : List TransferEvent) :
    ∃ shown : List (Nat × Nat × Nat),
      (p.printAll events).1.filter (· ≠ "") =
          shown.map (fun (n, read, total) => line n read total) ∧
        (shown.map Prod.fst).Pairwise (· < ·) ∧ ∀ n ∈ shown.map Prod.fst, p.best < n ∧ n ≤ 10 := by
  induction events generalizing p with
  | nil => exact ⟨[], rfl, .nil, by simp⟩
  | cons e events ih =>
    rw [printAll]
    obtain ⟨panic, printed⟩ | printed | ⟨n, read, total, more, most, printed⟩ := print_cases p e
    · exact ⟨[], by rw [printed]; rfl, .nil, by simp⟩
    · obtain ⟨shown, lines, rising, range⟩ := ih p
      refine ⟨shown, ?_, rising, range⟩
      rw [printed, List.filter_cons_of_neg (by simp), lines]
    · obtain ⟨shown, lines, rising, range⟩ := ih { best := n }
      refine ⟨(n, read, total) :: shown, ?_, ?_, ?_⟩
      · rw [printed, List.filter_cons_of_pos (by simp [line_ne_empty]), lines, List.map_cons]
      · exact List.pairwise_cons.2 ⟨fun m member => (range m member).1, rising⟩
      · intro m member
        obtain rfl | later := List.mem_cons.1 member
        · exact ⟨more, most⟩
        · exact ⟨Nat.lt_trans more (range m later).1, (range m later).2⟩

theorem exists_worth_ten (member : 10 ∈ events.filterMap tenths?) :
    ∃ i read total, events[i]? = some (.downloadProgress read total) ∧
      worth (events.take i) (.downloadProgress read total) = line 10 read total := by
  induction events using List.reverseRecOn with
  | nil => cases member
  | append_singleton earlier e ih =>
    by_cases before : 10 ∈ earlier.filterMap tenths?
    · obtain ⟨i, read, total, here, shown⟩ := ih before
      have within : i < earlier.length := (List.getElem?_eq_some_iff.1 here).1
      refine ⟨i, read, total, ?_, ?_⟩
      · rw [List.getElem?_append_left within, here]
      · rw [List.take_append_of_le_length (Nat.le_of_lt within), shown]
    · have told : tenths? e = some 10 := by
        rw [List.filterMap_append, List.mem_append] at member
        simpa using member.resolve_left before
      cases e with
      | downloadProgress read total =>
        obtain ⟨known, whole⟩ : ¬ total = 0 ∧ wholeTenths read total = 10 := by
          simpa [tenths?] using told
        have most : ∀ m ∈ earlier.filterMap tenths?, m < 10 := by
          intro m counted
          have other : m ≠ 10 := fun same => before (same ▸ counted)
          obtain ⟨e', -, stands⟩ := List.mem_filterMap.1 counted
          cases e' with
          | downloadProgress read' total' =>
            obtain ⟨-, rfl⟩ : ¬ total' = 0 ∧ wholeTenths read' total' = m := by
              simpa [tenths?] using stands
            exact Nat.lt_of_le_of_ne (wholeTenths_le read' total') other
          | _ => cases stands
        refine ⟨earlier.length, read, total, by simp, ?_⟩
        rw [List.take_left, worth, whole, if_pos ⟨Nat.pos_of_ne_zero known, by decide, most⟩]
      | _ => cases told

end Runs

theorem length_le_ten {ns : List Nat} (rising : ns.Pairwise (· < ·))
    (range : ∀ n ∈ ns, 0 < n ∧ n ≤ 10) : ns.length ≤ 10 := by
  have nodup : ns.Nodup := rising.imp Nat.ne_of_lt
  have part : ns ⊆ List.range' 1 10 := fun n member => by
    have := range n member
    simp
    omega
  simpa using (nodup.subperm part).length_le

/-- The console shows an event if and only if it stands for more whole tenths than all events before
it, up to the first event that cannot be counted; there the program panics. A download that reaches
its total before that is shown to do so. In any case the percentages go strictly upward, none is
above a hundred, and there are at most ten. -/
theorem console_shows_new_tenths (events : List TransferEvent) :
    let counted := events.takeWhile (Counts ·)
    new.printAll events = (counted.mapIdx fun i e => worth (events.take i) e,
        if ∀ e ∈ events, Counts e then none else some overflow) ∧
      (∀ read total, .downloadProgress read total ∈ counted → 0 < total → total ≤ read →
        ∃ read' total', line 10 read' total' ∈ (new.printAll events).1) ∧
      ∃ shown : List (Nat × Nat × Nat),
        (new.printAll events).1.filter (· ≠ "") =
            shown.map (fun (n, read, total) => line n read total) ∧
          (shown.map Prod.fst).Pairwise (· < ·) ∧ (∀ n ∈ shown.map Prod.fst, 10 * n ≤ 100) ∧
            shown.length ≤ 10 := by
  intro counted
  have printed := printAll_of_remembers remembers_new events
  refine ⟨printed, fun read total member known reached => ?_, ?_⟩
  · have ten : 10 ∈ counted.filterMap tenths? := by
      refine List.mem_filterMap.2 ⟨_, member, ?_⟩
      rw [tenths?, if_neg (by omega), wholeTenths_of_le known reached]
    obtain ⟨i, read', total', here, shown⟩ := exists_worth_ten ten
    have within : i < counted.length := (List.getElem?_eq_some_iff.1 here).1
    have same : counted.take i = events.take i := by
      obtain ⟨rest, split⟩ : counted <+: events := List.takeWhile_prefix _
      rw [← split, List.take_append_of_le_length (Nat.le_of_lt within)]
    refine ⟨read', total', ?_⟩
    rw [printed, ← shown, same]
    exact List.mem_iff_getElem?.2 ⟨i, by simp [counted, here]⟩
  · obtain ⟨shown, lines, rising, range⟩ := exists_lines new events
    refine ⟨shown, lines, rising, fun n member => Nat.mul_le_mul_left 10 (range n member).2, ?_⟩
    simpa using length_le_ten rising range

/-- The total of a download changes on the way, what was read goes beyond it, and in the end it is
too much to be counted. -/
theorem console_shows_half_and_all :
    let events : List TransferEvent := [.downloadProgress 5 10, .status "", .downloadProgress 6 20,
      .downloadProgress 30 20, .downloadProgress (2 ^ 63) (2 ^ 63)]
    new.printAll events = ([line 5 5 10, "", "", line 10 30 20], some overflow) ∧
      ∃ read total, line 10 read total ∈ (new.printAll events).1 := by
  intro events
  refine ⟨?_, ?_⟩
  · rw [(console_shows_new_tenths events).1]
    decide
  · exact (console_shows_new_tenths events).2.1 30 20 (by decide) (by decide) (by decide)

/-- A download of two to the 63 bytes is complete, and the program panics. -/
theorem complete_download_panics :
    new.printAll [.downloadProgress (2 ^ 63) (2 ^ 63)] = ([], some overflow) ∧
      wholeTenths (2 ^ 63) (2 ^ 63) = 10 ∧
        worth [] (.downloadProgress (2 ^ 63) (2 ^ 63)) = line 10 (2 ^ 63) (2 ^ 63) := by
  decide

end TitleDock.ConsolePrinter
