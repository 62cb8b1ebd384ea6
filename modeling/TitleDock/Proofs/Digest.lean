import Mathlib.Algebra.Group.Nat.Defs
import TitleDock.Digest

/-! How a digest comes about. Content that fits a chunk is this chunk alone. Longer content is cut
where the largest complete tree of chunks ends before its end, and is the parent of the trees of
both parts. -/

namespace TitleDock

theorem Decimal.length_hexPadded {width n : Nat} (fits : n < 16 ^ width) (wide : 0 < width) :
    (hexPadded width n).length = width := by
  have short : (hexDigits n).length ≤ width := (Nat.length_toDigits_le_iff (by decide) wide).2 fits
  simp only [hexPadded, List.length_append, List.length_replicate]
  omega

namespace Digest

/-- The tree of content that begins with the chunk of the given number. -/
def subtree (number : Nat) (bs : Bytes) : Output := tree (chunkOutputs number (pieces 1024 bs))

theorem bytes_eq (bs : Bytes) :
    bytes bs = ((subtree 0 bs).words rootNode).toList.flatMap wordBytes := rfl

theorem length_bytes (bs : Bytes) : (bytes bs).length = 32 := by
  simp [bytes_eq, wordBytes, Output.words]

theorem length_hex (bs : Bytes) : (hex bs).length = 64 := by
  have two (b : UInt8) : (Decimal.hexPadded 2 b.toNat).length = 2 :=
    Decimal.length_hexPadded b.toNat_lt (by decide)
  rw [hex, Decimal.hexOfBytes, String.length_ofList, List.length_flatMap]
  simp only [two, List.map_const', List.sum_replicate_nat, length_bytes]

section Pieces

variable {n k : Nat} {l r bs : Bytes}

theorem pieces_eq (some : bs ≠ []) (long : 0 < n) :
    pieces n bs = bs.take n :: pieces n (bs.drop n) := by
  rw [pieces, dif_neg (not_or.2 ⟨some, Nat.ne_of_gt long⟩)]

theorem pieces_nil (n : Nat) : pieces n [] = [] := by
  rw [pieces, dif_pos (.inl rfl)]

theorem pieces_of_le (some : bs ≠ []) (fits : bs.length ≤ n) : pieces n bs = [bs] := by
  have long : 0 < n := Nat.lt_of_lt_of_le (List.length_pos_iff.2 some) fits
  rw [pieces_eq some long, List.take_of_length_le fits, List.drop_of_length_le fits, pieces_nil]

theorem pieces_ne_nil (some : bs ≠ []) (long : 0 < n) : pieces n bs ≠ [] := by
  rw [pieces_eq some long]
  exact List.cons_ne_nil _ _

theorem pieces_append (long : 0 < n) (whole : l.length = n * k) (r : Bytes) :
    pieces n (l ++ r) = pieces n l ++ pieces n r ∧ (pieces n l).length = k := by
  induction k generalizing l with
  | zero =>
    obtain rfl := List.eq_nil_of_length_eq_zero whole
    simp [pieces_nil]
  | succ k ih =>
    have enough : n ≤ l.length := by
      rw [whole]
      exact Nat.le_mul_of_pos_right n (Nat.succ_pos k)
    have some : l ≠ [] := List.ne_nil_of_length_pos (Nat.lt_of_lt_of_le long enough)
    have rest : (l.drop n).length = n * k := by
      rw [List.length_drop, whole, Nat.mul_succ, Nat.add_sub_cancel]
    obtain ⟨split, count⟩ := ih rest
    rw [pieces_eq some long, pieces_eq (List.append_ne_nil_of_left_ne_nil some r) long,
      List.take_append_of_le_length enough, List.drop_append_of_le_length enough, split]
    exact ⟨rfl, congrArg Nat.succ count⟩

theorem length_pieces_le (long : 0 < n) (fits : bs.length ≤ n * k) :
    (pieces n bs).length ≤ k := by
  induction k generalizing bs with
  | zero =>
    obtain rfl := List.eq_nil_of_length_eq_zero (Nat.le_zero.1 fits)
    simp [pieces_nil]
  | succ k ih =>
    by_cases none : bs = []
    · simp [none, pieces_nil]
    · rw [pieces_eq none long]
      refine Nat.succ_le_succ (ih ?_)
      rw [List.length_drop]
      exact Nat.sub_le_of_le_add fits

end Pieces

theorem chunkOutputs_append (number : Nat) (cs ds : List Bytes) :
    chunkOutputs number (cs ++ ds) =
      chunkOutputs number cs ++ chunkOutputs (number + cs.length) ds := by
  induction cs generalizing number with
  | nil => rfl
  | cons c cs ih =>
    have later : number + 1 + cs.length = number + (c :: cs).length := by
      rw [List.length_cons]
      omega
    rw [List.cons_append, chunkOutputs, ih, later]
    rfl

theorem length_chunkOutputs (number : Nat) (cs : List Bytes) :
    (chunkOutputs number cs).length = cs.length := by
  induction cs generalizing number with
  | nil => rfl
  | cons c cs ih => rw [chunkOutputs, List.length_cons, ih, List.length_cons]

theorem leftSize_add {k n : Nat} (some : 0 < n) (fits : n ≤ 2 ^ k) : leftSize (2 ^ k + n) = 2 ^ k := by
  have whole : (2 ^ k + n - 1).log2 = k := by
    rw [Nat.log2_eq_iff (by omega), Nat.pow_succ]
    omega
  rw [leftSize, whole]
  rfl

theorem tree_eq {os : List Output} (long : 2 ≤ os.length) :
    tree os =
      .parent (tree (os.take (leftSize os.length))) (tree (os.drop (leftSize os.length))) := by
  cases os with
  | nil => cases long
  | cons o os =>
    cases os with
    | nil => simp at long
    | cons p os => rw [tree]; rfl

theorem tree_append {k : Nat} {os os' : List Output} (whole : os.length = 2 ^ k) (some : os' ≠ [])
    (fits : os'.length ≤ 2 ^ k) : tree (os ++ os') = .parent (tree os) (tree os') := by
  have more : 0 < os'.length := List.length_pos_iff.2 some
  have size : leftSize (os ++ os').length = os.length := by
    rw [List.length_append, whole]
    exact leftSize_add more fits
  have long : 2 ≤ (os ++ os').length := by
    have base := Nat.two_pow_pos k
    rw [List.length_append, whole]
    omega
  rw [tree_eq long, size, List.take_left, List.drop_left]

section Subtree

variable {number k : Nat} {l r bs : Bytes}

theorem subtree_of_chunk (some : bs ≠ []) (fits : bs.length ≤ 1024) :
    subtree number bs = chunkOutput number bs := by
  rw [subtree, pieces_of_le some fits, chunkOutputs, chunkOutputs, tree]

theorem bytes_of_le (fits : bs.length ≤ 1024) :
    bytes bs = ((chunkOutput 0 bs).words rootNode).toList.flatMap wordBytes := by
  by_cases none : bs = []
  · rw [bytes_eq, subtree, none, pieces_nil, chunkOutputs, tree]
  · rw [bytes_eq, subtree_of_chunk none fits]

example : hex [] = "af1349b9f5f9a1a6a0404dea36dcc9499bcb25c9adc112b7cc9a93cae41f3262" := by
  decide +kernel

/-- Where the left part fills a complete tree and the right one goes no further than another, a tree
is the parent of both. -/
theorem subtree_append (whole : l.length = 1024 * 2 ^ k) (some : r ≠ [])
    (fits : r.length ≤ 1024 * 2 ^ k) (number : Nat) :
    subtree number (l ++ r) = .parent (subtree number l) (subtree (number + 2 ^ k) r) := by
  obtain ⟨split, count⟩ := pieces_append (by decide) whole r
  rw [subtree, split, chunkOutputs_append, count]
  refine tree_append (k := k) ?_ ?_ ?_
  · rw [length_chunkOutputs, count]
  · rw [← List.length_pos_iff, length_chunkOutputs, List.length_pos_iff]
    exact pieces_ne_nil some (by decide)
  · rw [length_chunkOutputs]
    exact length_pieces_le (by decide) fits

theorem bytes_append (whole : l.length = 1024 * 2 ^ k) (some : r ≠ [])
    (fits : r.length ≤ 1024 * 2 ^ k) :
    bytes (l ++ r) =
      ((Output.parent (subtree 0 l) (subtree (2 ^ k) r)).words rootNode).toList.flatMap
        wordBytes := by
  rw [bytes_eq, subtree_append whole some fits, Nat.zero_add]

set_option maxRecDepth 100000 in
example : hex ((List.range 1025).map fun i => (i % 251).toUInt8) =
    "d00278ae47eb27b34faecf67b4fe263f82d5412916c1ffd97c8cb7fb814b8444" := by
  decide +kernel

end Subtree

end Digest

end TitleDock
