import Mathlib.Data.List.Basic
import TitleDock.Stream.Progress

/-! A counting reader against the reader inside it. It answers the same, fills the same buffers and
leaves the same script, whatever the buffers have room for and hold already. Each poll that delivers
bytes reports how many there were so far, and a first success without bytes reports that there were
none, so the reports go strictly upward. -/

namespace TitleDock

namespace Poll

def isReady : Poll → Bool
  | .ready _ => true
  | _ => false

theorem bytes_eq_nil_of_not_isReady {answers : List Poll} (waiting : ¬ answers.any isReady) :
    answers.flatMap Poll.bytes = [] := by
  refine List.flatMap_eq_nil_iff.2 fun a member => ?_
  cases a with
  | ready bytes => exact absurd (List.any_eq_true.2 ⟨_, member, rfl⟩) waiting
  | _ => rfl

def report (earlier : List Poll) : Poll → Option Nat
  | .pending | .failed _ => none
  | .ready [] => if earlier.any isReady then none else some 0
  | .ready bytes => some ((earlier.flatMap Poll.bytes).length + bytes.length)

/-- The totals after each of the answers that delivers bytes. -/
def totals (before : Nat) : List Poll → List Nat
  | [] => []
  | a :: later =>
    let total := before + a.bytes.length
    if a.bytes = [] then totals before later else total :: totals total later

theorem totals_rising (before : Nat) (answers : List Poll) :
    (totals before answers).Pairwise (· < ·) ∧ ∀ n ∈ totals before answers, before < n := by
  induction answers generalizing before with
  | nil => exact ⟨.nil, by simp [totals]⟩
  | cons a later ih =>
    rw [totals]
    split_ifs with nothing
    · exact ih before
    · obtain ⟨rising, above⟩ := ih (before + a.bytes.length)
      have more : 0 < a.bytes.length := List.length_pos_iff.2 nothing
      refine ⟨List.pairwise_cons.2 ⟨above, rising⟩, fun n member => ?_⟩
      obtain rfl | after := List.mem_cons.1 member
      · omega
      · have := above n after
        omega

def reports (earlier answers : List Poll) : List (Option Nat) :=
  answers.mapIdx fun i a => a.report (earlier ++ answers.take i)

theorem reports_cons (earlier : List Poll) (a : Poll) (later : List Poll) :
    reports earlier (a :: later) = a.report earlier :: reports (earlier ++ [a]) later := by
  simp [reports, List.mapIdx_cons]

theorem reportedTotals (earlier answers : List Poll) :
    (reports earlier answers).filterMap id =
      (if ¬ earlier.any isReady ∧ answers.find? isReady = some (.ready []) then [0] else []) ++
        totals (earlier.flatMap Poll.bytes).length answers := by
  induction answers generalizing earlier with
  | nil => simp [reports, totals]
  | cons a later ih =>
    rw [reports_cons, List.filterMap_cons, ih]
    cases a with
    | pending => simp [report, totals, isReady, bytes]
    | failed e => simp [report, totals, isReady, bytes]
    | ready bytes =>
      cases bytes with
      | nil => by_cases first : earlier.any isReady <;> simp [report, totals, isReady, Poll.bytes, first]
      | cons b bytes => simp [report, totals, isReady, Poll.bytes]

end Poll

namespace Progress

def after (answers : List Poll) : Progress :=
  { bytesRead := (answers.flatMap Poll.bytes).length, reported := answers.any Poll.isReady }

theorem after_concat (earlier : List Poll) (a : Poll) :
    after (earlier ++ [a]) =
      { bytesRead := (after earlier).bytesRead + a.bytes.length
        reported := (after earlier).reported || a.isReady } := by
  simp [after]

theorem count_after (earlier : List Poll) (bytes : Bytes) :
    (after earlier).count bytes.length =
      (after (earlier ++ [.ready bytes]), (Poll.ready bytes).report earlier) := by
  cases bytes with
  | nil =>
    by_cases told : earlier.any Poll.isReady
    · simp [count, after, Poll.report, Poll.bytes, Poll.isReady, told]
    · have none := Poll.bytes_eq_nil_of_not_isReady told
      simp [count, after, Poll.report, Poll.bytes, Poll.isReady, told, none]
  | cons b bytes => simp [count, after, Poll.report, Poll.bytes, Poll.isReady]

end Progress

/-- Polls into one buffer after the other: the answers with the buffers afterwards, and what is left
of the script. -/
def ReadItem.pollAll : List ReadBuffer → List ReadItem → List (Poll × ReadBuffer) × List ReadItem
  | [], script => ([], script)
  | b :: later, script =>
    let (answer, filled, script) := pollInto b script
    let (polls, script) := pollAll later script
    ((answer, filled) :: polls, script)

namespace ProgressReader

/-- The same of a counting reader, with what each poll reports. -/
def pollAll : List ReadBuffer → ProgressReader →
    List ((Poll × ReadBuffer) × Option Nat) × ProgressReader
  | [], r => ([], r)
  | b :: later, r =>
    let (answer, filled, total, r) := r.pollInto b
    let (polls, r) := pollAll later r
    (((answer, filled), total) :: polls, r)

def counting (script : List ReadItem) (answers : List Poll) : ProgressReader :=
  { inner := script, bytesRead := (Progress.after answers).bytesRead
    reported := (Progress.after answers).reported }

theorem pollInto_counting (b : ReadBuffer) (script : List ReadItem) (earlier : List Poll) :
    (counting script earlier).pollInto b =
      let (answer, filled, rest) := ReadItem.pollInto b script
      (answer, filled, answer.report earlier, counting rest (earlier ++ [answer])) := by
  rw [pollInto, show (counting script earlier).inner = script from rfl, ReadItem.pollInto]
  cases ReadItem.poll b.room script with
  | mk answer rest =>
    cases answer with
    | ready bytes =>
      have counted := Progress.count_after earlier bytes
      have gained : (b.fill bytes).filled.length - b.filled.length = bytes.length := by
        simp [ReadBuffer.fill]
      dsimp only [Poll.bytes]
      rw [gained]
      simp only [counting, counted]
    | pending => simp [counting, Progress.after_concat, Poll.report, Poll.bytes, Poll.isReady]
    | failed e => simp [counting, Progress.after_concat, Poll.report, Poll.bytes, Poll.isReady]

theorem pollAll_counting (reads : List ReadBuffer) (script : List ReadItem) (earlier : List Poll) :
    (counting script earlier).pollAll reads =
      let (polls, rest) := ReadItem.pollAll reads script
      let answers := polls.map Prod.fst
      (polls.zip (Poll.reports earlier answers), counting rest (earlier ++ answers)) := by
  induction reads generalizing script earlier with
  | nil => simp [pollAll, ReadItem.pollAll]
  | cons b later ih =>
    rw [pollAll, pollInto_counting, ReadItem.pollAll]
    simp only [ih, List.map_cons, Poll.reports_cons, List.zip_cons_cons, List.append_assoc,
      List.singleton_append]

end ProgressReader

/-- A counting reader gives every answer of the reader inside it, fills the buffers as it does and
leaves the same script. Its count is what was delivered. A poll that delivers bytes reports the
total after it, the first success reports zero if it delivers none, and no other poll reports. So
the totals are reported in order, behind a single zero or none, and go strictly upward. -/
theorem progress_counts_what_is_read (script : List ReadItem) (reads : List ReadBuffer) :
    let bare := ReadItem.pollAll reads script
    let counting := (ProgressReader.new script).pollAll reads
    let answers := bare.1.map Prod.fst
    let reported := counting.1.filterMap Prod.snd
    counting.1.map Prod.fst = bare.1 ∧ counting.2.inner = bare.2 ∧
      counting.2.bytesRead = (answers.flatMap Poll.bytes).length ∧
      counting.1.map Prod.snd = answers.mapIdx (fun i a => a.report (answers.take i)) ∧
      reported = (if answers.find? Poll.isReady = some (.ready []) then [0] else []) ++
        Poll.totals 0 answers ∧
      reported.Pairwise (· < ·) := by
  intro bare counting answers reported
  have run : counting = (bare.1.zip (Poll.reports [] answers), .counting bare.2 answers) :=
    ProgressReader.pollAll_counting reads script []
  have length : bare.1.length = (Poll.reports [] answers).length := by
    simp [Poll.reports, answers]
  have polls : counting.1.map Prod.fst = bare.1 := by
    rw [run, List.map_fst_zip (Nat.le_of_eq length)]
  have reports : counting.1.map Prod.snd = Poll.reports [] answers := by
    rw [run, List.map_snd_zip (Nat.le_of_eq length.symm)]
  have totals : reported = (if answers.find? Poll.isReady = some (.ready []) then [0] else []) ++
      Poll.totals 0 answers := by
    have listed := Poll.reportedTotals [] answers
    rw [← reports, List.filterMap_map] at listed
    simpa using listed
  refine ⟨polls, by rw [run]; rfl, by rw [run]; rfl, by simpa [Poll.reports] using reports, totals, ?_⟩
  obtain ⟨rising, above⟩ := Poll.totals_rising 0 answers
  rw [totals]
  split_ifs
  · exact List.pairwise_cons.2 ⟨above, rising⟩
  · exact rising

/-- The stream starts with its end, and goes on after an error in a buffer that holds a byte. -/
example :
    let script : List ReadItem := [.endOfStream, .pending, .failure (.number 104), .data [1, 2, 3]]
    let buffer : ReadBuffer := { filled := [0], room := 2 }
    let polls := ((ProgressReader.new script).pollAll (List.replicate 6 buffer)).1
    polls.filterMap Prod.snd = [0, 2, 3] ∧
      polls.map (·.1.2.filled) = [[0], [0], [0], [0, 1, 2], [0, 3], [0]] := by
  decide

end TitleDock
