import TitleDock.Text.Decimal

/-! The BLAKE3 digest of a byte list: chunks of 1024 bytes are compressed block by block, and their
chaining values are joined in a binary tree whose left part is always the largest complete one. -/

namespace TitleDock.Digest

def initial : Array UInt32 :=
  #[0x6A09E667, 0xBB67AE85, 0x3C6EF372, 0xA54FF53A, 0x510E527F, 0x9B05688C, 0x1F83D9AB, 0x5BE0CD19]

def permutation : Array Nat :=
  #[2, 6, 3, 10, 7, 0, 4, 13, 1, 11, 12, 5, 9, 14, 15, 8]

def chunkStart : UInt32 := 1
def chunkEnd : UInt32 := 2
def parentNode : UInt32 := 4
def rootNode : UInt32 := 8

def rotateRight (x k : UInt32) : UInt32 :=
  (x >>> k) ||| (x <<< (32 - k))

def mix (s : Array UInt32) (a b c d : Nat) (x y : UInt32) : Array UInt32 :=
  let va := s.getD a 0
  let vb := s.getD b 0
  let vc := s.getD c 0
  let vd := s.getD d 0
  let va := va + vb + x
  let vd := rotateRight (vd ^^^ va) 16
  let vc := vc + vd
  let vb := rotateRight (vb ^^^ vc) 12
  let va := va + vb + y
  let vd := rotateRight (vd ^^^ va) 8
  let vc := vc + vd
  let vb := rotateRight (vb ^^^ vc) 7
  (((s.setIfInBounds a va).setIfInBounds b vb).setIfInBounds c vc).setIfInBounds d vd

def round (s m : Array UInt32) : Array UInt32 :=
  let w := fun i => m.getD i 0
  let s := mix s 0 4 8 12 (w 0) (w 1)
  let s := mix s 1 5 9 13 (w 2) (w 3)
  let s := mix s 2 6 10 14 (w 4) (w 5)
  let s := mix s 3 7 11 15 (w 6) (w 7)
  let s := mix s 0 5 10 15 (w 8) (w 9)
  let s := mix s 1 6 11 12 (w 10) (w 11)
  let s := mix s 2 7 8 13 (w 12) (w 13)
  mix s 3 4 9 14 (w 14) (w 15)

def rounds : Nat → Array UInt32 → Array UInt32 → Array UInt32
  | 0, s, _ => s
  | n + 1, s, m => rounds n (round s m) (permutation.map fun i => m.getD i 0)

/-- A block that waits for its last compression: what comes before it, its words, and where it
stands. -/
structure Output where
  chaining : Array UInt32
  block : Array UInt32
  counter : Nat
  length : Nat
  flags : UInt32

namespace Output

def words (o : Output) (flags : UInt32) : Array UInt32 :=
  let s := o.chaining ++ initial.extract 0 4 ++
    #[o.counter.toUInt32, (o.counter / 0x100000000).toUInt32, o.length.toUInt32, o.flags ||| flags]
  let s := rounds 7 s o.block
  Array.ofFn fun i : Fin 8 => s.getD i 0 ^^^ s.getD (i + 8) 0

def chainingValue (o : Output) : Array UInt32 := o.words 0

def parent (left right : Output) : Output :=
  { chaining := initial, block := left.chainingValue ++ right.chainingValue, counter := 0,
    length := 64, flags := parentNode }

end Output

def wordBytes (w : UInt32) : Bytes :=
  [w.toUInt8, (w >>> 8).toUInt8, (w >>> 16).toUInt8, (w >>> 24).toUInt8]

def wordsOnto (acc : Array UInt32) : Bytes → Array UInt32
  | a :: b :: c :: d :: r =>
    wordsOnto (acc.push (a.toUInt32 ||| (b.toUInt32 <<< 8) ||| (c.toUInt32 <<< 16) |||
      (d.toUInt32 <<< 24))) r
  | [] => acc
  | r => acc.push (r.foldr (fun b w => (w <<< 8) ||| b.toUInt32) 0)

def blockWords (bs : Bytes) : Array UInt32 :=
  let ws := wordsOnto #[] bs
  ws ++ Array.replicate (16 - ws.size) 0

def pieces (n : Nat) (bs : Bytes) : List Bytes :=
  if h : bs = [] ∨ n = 0 then []
  else
    have : (bs.drop n).length < bs.length := by
      have := List.length_pos_iff.2 (not_or.1 h).1
      have := Nat.pos_of_ne_zero (not_or.1 h).2
      simp only [List.length_drop]
      omega
    bs.take n :: pieces n (bs.drop n)
termination_by bs.length

def blocksOutput (counter : Nat) (chaining : Array UInt32) (start : UInt32) : List Bytes → Output
  | [] => { chaining, block := blockWords [], counter, length := 0, flags := start ||| chunkEnd }
  | [b] =>
    { chaining, block := blockWords b, counter, length := b.length, flags := start ||| chunkEnd }
  | b :: bs =>
    let o : Output := { chaining, block := blockWords b, counter, length := 64, flags := start }
    blocksOutput counter o.chainingValue 0 bs

def chunkOutput (counter : Nat) (bs : Bytes) : Output :=
  blocksOutput counter initial chunkStart (pieces 64 bs)

def chunkOutputs (counter : Nat) : List Bytes → List Output
  | [] => []
  | c :: cs => chunkOutput counter c :: chunkOutputs (counter + 1) cs

/-- The number of leaves on the left of a tree with `n` leaves, two or more. -/
def leftSize (n : Nat) : Nat := Nat.pow 2 (n - 1).log2

theorem leftSize_lt {n : Nat} (h : 2 ≤ n) : leftSize n < n := by
  have := Nat.log2_self_le (n := n - 1) (by omega)
  simp only [leftSize, Nat.pow_eq]
  omega

def tree : List Output → Output
  | [] => chunkOutput 0 []
  | [o] => o
  | o :: p :: os =>
    let left := leftSize (os.length + 2)
    .parent (tree ((o :: p :: os).take left)) (tree ((o :: p :: os).drop left))
termination_by os => os.length
decreasing_by
  · have := leftSize_lt (n := os.length + 2) (by omega)
    simp only [List.length_take, List.length_cons]
    omega
  · have := Nat.two_pow_pos (os.length + 2 - 1).log2
    simp only [leftSize, Nat.pow_eq, List.length_drop, List.length_cons]
    omega

def bytes (bs : Bytes) : Bytes :=
  ((tree (chunkOutputs 0 (pieces 1024 bs))).words rootNode).toList.flatMap wordBytes

def hex (bs : Bytes) : String :=
  Decimal.hexOfBytes (bytes bs)

end TitleDock.Digest
