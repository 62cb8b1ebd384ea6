import Mathlib.Data.List.Basic
import TitleDock.Stream.Codec
import TitleDock.Stream.Progress

/-! What comes out of a reader in all. However much room its polls have, a script gives what it
holds up to the first end of the stream, and that is what the raw codec passes on. The counts that
are reported meanwhile rise, and the last one is the length of what was read. -/

namespace TitleDock

/-- Reads a reader of any kind to the end of its stream. There are as many polls as needed, but no
more than the first number says; nothing comes out if they are too few. -/
def readToEnd {ρ : Type} (poll : Nat → ρ → Poll × ρ) (rooms : Nat → Nat) :
    Nat → Nat → List Bytes → ρ → Option (Except SystemError Bytes × ρ)
  | 0, _, _, _ => none
  | fuel + 1, k, done, r =>
    match poll (rooms k + 1) r with
    | (.pending, r) => readToEnd poll rooms fuel (k + 1) done r
    | (.failed e, r) => some (.error e, r)
    | (.ready [], r) => some (.ok done.reverse.flatten, r)
    | (.ready bytes, r) => readToEnd poll rooms fuel (k + 1) (bytes :: done) r

namespace ReadItem

/-- What a script holds up to the first end of the stream. Data without bytes is read as an end. -/
def upToEnd : List ReadItem → Except SystemError Bytes
  | [] | .endOfStream :: _ | .data [] :: _ => .ok []
  | .pending :: r => upToEnd r
  | .failure e :: _ => .error e
  | .data (b :: bytes) :: r => (upToEnd r).map ((b :: bytes) ++ ·)

def goesOn : ReadItem → Bool
  | .pending => true
  | .data bytes => !bytes.isEmpty
  | .endOfStream | .failure _ => false

/-- What is left of a script after the item that reading stops at. -/
def remaining (script : List ReadItem) : List ReadItem :=
  (script.dropWhile goesOn).tail

section Reading

variable {bytes left : Bytes} {script : List ReadItem}

theorem map_append (r : Except SystemError Bytes) (first second : Bytes) :
    (r.map (second ++ ·)).map (first ++ ·) = r.map ((first ++ second) ++ ·) := by
  cases r <;> simp [Except.map]

theorem upToEnd_left (left : Bytes) (script : List ReadItem) :
    upToEnd (if left.isEmpty then script else .data left :: script) =
      (upToEnd script).map (left ++ ·) := by
  cases left with
  | nil => cases held : upToEnd script <;> simp [Except.map, held]
  | cons b bytes => rfl

theorem remaining_left (left : Bytes) (script : List ReadItem) :
    remaining (if left.isEmpty then script else .data left :: script) = remaining script := by
  cases left <;> rfl

theorem weight_left (left : Bytes) (script : List ReadItem) :
    weight (if left.isEmpty then script else .data left :: script) ≤
      left.length + 1 + weight script := by
  split
  · omega
  · exact Nat.le_refl _

theorem readToEnd_eq (rooms : Nat → Nat) {fuel : Nat} (k : Nat) (done : List Bytes)
    (enough : weight script < fuel) : readToEnd poll rooms fuel k done script =
      some ((upToEnd script).map (done.reverse.flatten ++ ·), remaining script) := by
  induction fuel generalizing k done script with
  | zero => omega
  | succ fuel ih =>
    cases script with
    | nil => simp [readToEnd, poll, upToEnd, remaining, Except.map]
    | cons item script =>
      cases item with
      | pending =>
        rw [weight] at enough
        · exact ih (k + 1) done (by omega)
        · simp
      | endOfStream => simp [readToEnd, poll, upToEnd, remaining, goesOn, Except.map]
      | failure e => rfl
      | data bytes =>
        cases bytes with
        | nil => simp [readToEnd, poll, upToEnd, remaining, goesOn, Except.map]
        | cons b bytes =>
          let left := bytes.drop (rooms k)
          have light : weight (if left.isEmpty then script else .data left :: script) < fuel := by
            have lighter := weight_left left script
            have shorter : left.length ≤ bytes.length := by simp [left]
            rw [weight, List.length_cons] at enough
            omega
          calc readToEnd poll rooms (fuel + 1) k done (.data (b :: bytes) :: script)
              = _ := ih (k + 1) ((b :: bytes.take (rooms k)) :: done) light
            _ = some ((upToEnd (.data (b :: bytes) :: script)).map (done.reverse.flatten ++ ·),
                remaining script) := by
              rw [remaining_left, upToEnd_left, map_append, upToEnd, map_append]
              simp

theorem drain_of_readToEnd {rooms : Nat → Nat} {fuel k : Nat} {done : List Bytes}
    {result : Except SystemError Bytes × List ReadItem}
    (h : readToEnd poll rooms fuel k done script = some result) :
    drain rooms fuel k done script = result := by
  induction fuel generalizing k done script with
  | zero => cases h
  | succ fuel ih =>
    rw [readToEnd] at h
    rw [drain]
    split at h <;> simp_all

theorem readAll_eq (rooms : Nat → Nat) (script : List ReadItem) :
    (readAll rooms script).1 = upToEnd script := by
  have read := readToEnd_eq rooms 0 [] (Nat.lt_succ_self (weight script))
  rw [readAll, drain_of_readToEnd read]
  cases upToEnd script <;> simp [Except.map]

end Reading

end ReadItem

theorem RawCodec.extract_eq (script : List ReadItem) :
    extract script = ofRead (ReadItem.upToEnd script) := by
  rw [extract, ReadItem.readAll_eq]

theorem RawCodec.eq_payload {script : List ReadItem} {payload content : Bytes}
    (held : ReadItem.upToEnd script = .ok payload) (h : extract script = .ok content) :
    content = payload ∧ payload ≠ [] := by
  rw [extract_eq, held] at h
  cases payload with
  | nil => cases h
  | cons b bytes => exact ⟨(Except.ok.inj h).symm, by simp⟩

namespace Progress

structure Reports (p : Progress) (counts : List Nat) : Prop where
  rising : counts.Pairwise (· < ·)
  last : counts.getLast? = if p.reported then some p.bytesRead else none
  fresh : p.reported = false → p.bytesRead = 0

section Reports

variable {p : Progress} {counts : List Nat}

theorem reports_start : start.Reports [] := ⟨.nil, rfl, fun _ => rfl⟩

theorem Reports.le (h : p.Reports counts) {n : Nat} (member : n ∈ counts) :
    p.reported = true ∧ n ≤ p.bytesRead := by
  obtain ⟨rising, last, -⟩ := h
  rcases List.eq_nil_or_concat counts with rfl | ⟨earlier, m, rfl⟩
  · simp at member
  · rw [List.concat_eq_append, List.getLast?_concat] at last
    rw [List.concat_eq_append] at rising member
    split at last
    case isFalse => cases last
    case isTrue reported =>
      obtain rfl := Option.some.inj last
      refine ⟨reported, ?_⟩
      obtain before | same := List.mem_append.1 member
      · exact Nat.le_of_lt ((List.pairwise_append.1 rising).2.2 n before _ (by simp))
      · exact Nat.le_of_eq (List.mem_singleton.1 same)

theorem Reports.count (h : p.Reports counts) (gained : Nat) :
    (p.count gained).1.Reports (counts ++ (p.count gained).2.toList) := by
  by_cases tells : 0 < gained ∨ p.reported = false
  · simp only [Progress.count, if_pos tells]
    refine ⟨List.pairwise_append.2 ⟨h.rising, by simp, ?_⟩, by simp, by simp⟩
    intro n member m new
    obtain ⟨reported, le⟩ := h.le member
    obtain rfl : m = p.bytesRead + gained := by simpa using new
    have some : 0 < gained := tells.resolve_right (by simp [reported])
    omega
  · simpa only [Progress.count, if_neg tells, Option.toList_none, List.append_nil] using h

theorem reported_count (p : Progress) (gained : Nat) : (p.count gained).1.reported = true := by
  by_cases tells : 0 < gained ∨ p.reported = false
  · simp only [Progress.count, if_pos tells]
  · rw [Progress.count, if_neg tells]
    simpa using fun fresh => tells (.inr fresh)

end Reports

end Progress

end TitleDock
