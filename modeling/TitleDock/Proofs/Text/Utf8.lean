import Mathlib.Data.Nat.Basic
import TitleDock.Text.Utf8

/-! UTF-8 reads back what it wrote: the form of a scalar value is told by its first byte, and the
bytes that follow give back its digits in base 64. So text is known by its bytes. What is read at
all is what would be written for it. -/

namespace TitleDock

namespace Utf8

theorem toNat_toUInt8 {n : Nat} (small : n < 256) : n.toUInt8.toNat = n := by
  simpa using Nat.mod_eq_of_lt small

theorem scalar?_toNat (c : Char) : scalar? c.toNat = some c := by
  have valid : c.toNat.isValidChar := c.valid
  have same : Char.ofNatAux c.toNat valid = c := rfl
  rw [scalar?, dif_pos valid, same]

theorem toNat_lt (c : Char) : c.toNat < 0x110000 := by
  have valid : c.toNat.isValidChar := c.valid
  rcases valid with low | ⟨-, high⟩ <;> omega

theorem atLeast?_toNat {least : Nat} {c : Char} (h : least ≤ c.toNat) :
    atLeast? least c.toNat = some c := by
  rw [atLeast?, if_pos h, scalar?_toNat]

theorem continuation?_add {k : Nat} (small : k < 0x40) :
    continuation? (0x80 + k).toUInt8 = some k := by
  have value : (0x80 + k).toUInt8.toNat = 0x80 + k := toNat_toUInt8 (by omega)
  rw [continuation?, value, if_pos (by omega)]
  simp

section Forms

variable {c : Char} {lead x y z : Nat}

theorem next?_one (small : c.toNat < 0x80) (r : Bytes) :
    next? (c.toNat.toUInt8 :: r) = some (c, r) := by
  unfold next?
  simp only [toNat_toUInt8 (show c.toNat < 256 by omega), if_pos small, scalar?_toNat]
  rfl

theorem next?_two (small : lead < 0x20) (hx : x < 0x40) (same : lead * 0x40 + x = c.toNat)
    (least : 0x80 ≤ c.toNat) (r : Bytes) :
    next? ((0xC0 + lead).toUInt8 :: (0x80 + x).toUInt8 :: r) = some (c, r) := by
  have value : (0xC0 + lead).toUInt8.toNat = 0xC0 + lead := toNat_toUInt8 (by omega)
  have read : atLeast? 0x80 ((0xC0 + lead - 0xC0) * 0x40 + x) = some c := by
    rw [Nat.add_sub_cancel_left, same, atLeast?_toNat least]
  rw [next?]
  simp only [value]
  rw [if_neg (by omega), if_neg (by omega), if_pos (by omega)]
  exact Option.bind_eq_some_iff.2 ⟨x, continuation?_add hx,
    Option.bind_eq_some_iff.2 ⟨c, read, rfl⟩⟩

theorem next?_three (small : lead < 0x10) (hx : x < 0x40) (hy : y < 0x40)
    (same : lead * 0x1000 + x * 0x40 + y = c.toNat) (least : 0x800 ≤ c.toNat) (r : Bytes) :
    next? ((0xE0 + lead).toUInt8 :: (0x80 + x).toUInt8 :: (0x80 + y).toUInt8 :: r) =
      some (c, r) := by
  have value : (0xE0 + lead).toUInt8.toNat = 0xE0 + lead := toNat_toUInt8 (by omega)
  have read : atLeast? 0x800 ((0xE0 + lead - 0xE0) * 0x1000 + x * 0x40 + y) = some c := by
    rw [Nat.add_sub_cancel_left, same, atLeast?_toNat least]
  rw [next?]
  simp only [value]
  rw [if_neg (by omega), if_neg (by omega), if_neg (by omega), if_pos (by omega)]
  exact Option.bind_eq_some_iff.2 ⟨x, continuation?_add hx,
    Option.bind_eq_some_iff.2 ⟨y, continuation?_add hy,
      Option.bind_eq_some_iff.2 ⟨c, read, rfl⟩⟩⟩

theorem next?_four (small : lead < 0x08) (hx : x < 0x40) (hy : y < 0x40) (hz : z < 0x40)
    (same : lead * 0x40000 + x * 0x1000 + y * 0x40 + z = c.toNat) (least : 0x10000 ≤ c.toNat)
    (r : Bytes) :
    next? ((0xF0 + lead).toUInt8 :: (0x80 + x).toUInt8 :: (0x80 + y).toUInt8 ::
      (0x80 + z).toUInt8 :: r) = some (c, r) := by
  have value : (0xF0 + lead).toUInt8.toNat = 0xF0 + lead := toNat_toUInt8 (by omega)
  have read : atLeast? 0x10000
      ((0xF0 + lead - 0xF0) * 0x40000 + x * 0x1000 + y * 0x40 + z) = some c := by
    rw [Nat.add_sub_cancel_left, same, atLeast?_toNat least]
  rw [next?]
  simp only [value]
  rw [if_neg (by omega), if_neg (by omega), if_neg (by omega), if_neg (by omega),
    if_pos (by omega)]
  exact Option.bind_eq_some_iff.2 ⟨x, continuation?_add hx,
    Option.bind_eq_some_iff.2 ⟨y, continuation?_add hy,
      Option.bind_eq_some_iff.2 ⟨z, continuation?_add hz,
        Option.bind_eq_some_iff.2 ⟨c, read, rfl⟩⟩⟩⟩

end Forms

theorem next?_encodeChar (c : Char) (r : Bytes) : next? (encodeChar c ++ r) = some (c, r) := by
  have bound := toNat_lt c
  rw [encodeChar]
  split
  case isTrue one => exact next?_one one r
  case isFalse one =>
    split
    case isTrue two =>
      exact next?_two (by omega) (by omega) (by omega) (by omega) r
    case isFalse two =>
      split
      case isTrue three =>
        exact next?_three (by omega) (by omega) (by omega) (by omega) (by omega) r
      case isFalse three =>
        exact next?_four (by omega) (by omega) (by omega) (by omega) (by omega) (by omega) r

theorem decodeOnto_encode (done cs : List Char) :
    decodeOnto done (encode cs) = some (done.reverse ++ cs) := by
  induction cs generalizing done with
  | nil =>
    rw [List.append_nil, encode, List.flatMap_nil, decodeOnto]
    rfl
  | cons c cs ih =>
    have first : next? (encode (c :: cs)) = some (c, encode cs) := next?_encodeChar c (encode cs)
    rw [decodeOnto]
    split
    case h_1 c' r read =>
      obtain ⟨rfl, rfl⟩ : c = c' ∧ encode cs = r := by simpa using first.symm.trans read
      rw [ih]
      simp
    case h_2 none => simp [first] at none

theorem decode?_encode (cs : List Char) : decode? (encode cs) = some cs :=
  decodeOnto_encode [] cs

theorem encode_injective : Function.Injective encode := fun cs ds h => by
  have same : decode? (encode cs) = decode? (encode ds) := congrArg decode? h
  simpa only [decode?_encode, Option.some.injEq] using same

theorem toUInt8_eq {b : UInt8} {n : Nat} (h : n = b.toNat) : n.toUInt8 = b := by
  rw [h]
  exact UInt8.ofNat_toNat

section Written

variable {c : Char} {lead x y z : Nat}

theorem encodeChar_one (small : c.toNat < 0x80) : encodeChar c = [c.toNat.toUInt8] :=
  if_pos small

theorem encodeChar_two (small : lead < 0x20) (hx : x < 0x40) (same : lead * 0x40 + x = c.toNat)
    (least : 0x80 ≤ c.toNat) :
    encodeChar c = [(0xC0 + lead).toUInt8, (0x80 + x).toUInt8] := by
  have first : c.toNat / 0x40 = lead := by omega
  have second : c.toNat % 0x40 = x := by omega
  rw [encodeChar, if_neg (by omega), if_pos (by omega), first, second]

theorem encodeChar_three (small : lead < 0x10) (hx : x < 0x40) (hy : y < 0x40)
    (same : lead * 0x1000 + x * 0x40 + y = c.toNat) (least : 0x800 ≤ c.toNat) :
    encodeChar c = [(0xE0 + lead).toUInt8, (0x80 + x).toUInt8, (0x80 + y).toUInt8] := by
  have first : c.toNat / 0x1000 = lead := by omega
  have second : c.toNat / 0x40 % 0x40 = x := by omega
  have third : c.toNat % 0x40 = y := by omega
  rw [encodeChar, if_neg (by omega), if_neg (by omega), if_pos (by omega), first, second, third]

theorem encodeChar_four (hx : x < 0x40) (hy : y < 0x40) (hz : z < 0x40)
    (same : lead * 0x40000 + x * 0x1000 + y * 0x40 + z = c.toNat) (least : 0x10000 ≤ c.toNat) :
    encodeChar c = [(0xF0 + lead).toUInt8, (0x80 + x).toUInt8, (0x80 + y).toUInt8,
      (0x80 + z).toUInt8] := by
  have first : c.toNat / 0x40000 = lead := by omega
  have second : c.toNat / 0x1000 % 0x40 = x := by omega
  have third : c.toNat / 0x40 % 0x40 = y := by omega
  have fourth : c.toNat % 0x40 = z := by omega
  rw [encodeChar, if_neg (by omega), if_neg (by omega), if_neg (by omega), first, second, third, fourth]

end Written

section Read

variable {b : UInt8} {bs r : Bytes} {c : Char} {k least n : Nat}

theorem toNat_of_scalar? (h : scalar? n = some c) : c.toNat = n := by
  by_cases valid : n.isValidChar
  · rw [scalar?, dif_pos valid] at h
    cases h
    rfl
  · rw [scalar?, dif_neg valid] at h
    cases h

theorem toNat_of_atLeast? (h : atLeast? least n = some c) : n = c.toNat ∧ least ≤ c.toNat := by
  rw [atLeast?] at h
  split_ifs at h with le
  have value := toNat_of_scalar? h
  exact ⟨value.symm, value ▸ le⟩

theorem eq_of_continuation? (h : continuation? b = some k) :
    k < 0x40 ∧ b = (0x80 + k).toUInt8 := by
  rw [continuation?] at h
  split_ifs at h with range
  obtain ⟨low, high⟩ := range
  have value : b.toNat - 0x80 = k := Option.some.inj h
  exact ⟨by omega, (toUInt8_eq (by omega)).symm⟩

theorem eq_of_next? (h : next? bs = some (c, r)) : bs = encodeChar c ++ r := by
  unfold next? at h
  split at h
  case h_1 => cases h
  case h_2 b rest =>
    dsimp only at h
    split_ifs at h with one _ two three four
    · obtain ⟨_, read, same⟩ := Option.map_eq_some_iff.1 h
      cases same
      have value := toNat_of_scalar? read
      rw [encodeChar_one (by omega), toUInt8_eq value]
      rfl
    · split at h
      case h_2 => cases h
      case h_1 x rest =>
        simp only [Option.bind_eq_bind, Option.bind_eq_some_iff] at h
        obtain ⟨k, hx, _, read, taken⟩ := h
        cases taken
        obtain ⟨hk, rfl⟩ := eq_of_continuation? hx
        obtain ⟨same, least⟩ := toNat_of_atLeast? read
        have lead : (0xC0 + (b.toNat - 0xC0)).toUInt8 = b := toUInt8_eq (by omega)
        rw [encodeChar_two (by omega) hk same least, lead]
        simp only [List.cons_append, List.nil_append]
    · split at h
      case h_2 => cases h
      case h_1 x y rest =>
        simp only [Option.bind_eq_bind, Option.bind_eq_some_iff] at h
        obtain ⟨k, hx, l, hy, _, read, taken⟩ := h
        cases taken
        obtain ⟨hk, rfl⟩ := eq_of_continuation? hx
        obtain ⟨hl, rfl⟩ := eq_of_continuation? hy
        obtain ⟨same, least⟩ := toNat_of_atLeast? read
        have lead : (0xE0 + (b.toNat - 0xE0)).toUInt8 = b := toUInt8_eq (by omega)
        rw [encodeChar_three (by omega) hk hl same least, lead]
        simp only [List.cons_append, List.nil_append]
    · split at h
      case h_2 => cases h
      case h_1 x y z rest =>
        simp only [Option.bind_eq_bind, Option.bind_eq_some_iff] at h
        obtain ⟨k, hx, l, hy, m, hz, _, read, taken⟩ := h
        cases taken
        obtain ⟨hk, rfl⟩ := eq_of_continuation? hx
        obtain ⟨hl, rfl⟩ := eq_of_continuation? hy
        obtain ⟨hm, rfl⟩ := eq_of_continuation? hz
        obtain ⟨same, least⟩ := toNat_of_atLeast? read
        have lead : (0xF0 + (b.toNat - 0xF0)).toUInt8 = b := toUInt8_eq (by omega)
        rw [encodeChar_four hk hl hm same least, lead]
        simp only [List.cons_append, List.nil_append]

theorem eq_of_decodeOnto {done cs : List Char} (h : decodeOnto done bs = some cs) :
    ∃ more, cs = done.reverse ++ more ∧ bs = encode more := by
  fun_induction decodeOnto done bs with
  | case1 done bs c r read _ ih =>
    obtain ⟨more, rfl, rfl⟩ := ih h
    refine ⟨c :: more, by simp, ?_⟩
    rw [eq_of_next? read]
    rfl
  | case2 done bs none empty =>
    exact ⟨[], by simpa using h.symm, List.isEmpty_iff.1 empty⟩
  | case3 => cases h

theorem decode?_eq_some_iff {cs : List Char} : decode? bs = some cs ↔ bs = encode cs := by
  constructor
  · intro h
    obtain ⟨more, rfl, same⟩ := eq_of_decodeOnto h
    exact same
  · rintro rfl
    exact decode?_encode cs

theorem encodeChar_eq (c : Char) : encodeChar c = String.utf8EncodeChar c := by
  have bound := toNat_lt c
  have scalar : c.val.toNat = c.toNat := rfl
  rw [encodeChar, String.utf8EncodeChar]
  simp only [scalar]
  split_ifs <;> first
    | omega
    | simp (disch := omega) only [Nat.toUInt8, Nat.add_comm, Nat.mod_eq_of_lt]

theorem encode_eq (cs : List Char) : encode cs = cs.flatMap String.utf8EncodeChar := by
  rw [encode, funext encodeChar_eq]

end Read

def IsContinuation (b : UInt8) : Prop := 0x80 ≤ b.toNat ∧ b.toNat < 0xC0

theorem encodeChar_eq_cons (c : Char) : ∃ lead tail, encodeChar c = lead :: tail ∧
    ¬ IsContinuation lead ∧ ∀ b ∈ tail, IsContinuation b := by
  have bound := toNat_lt c
  have goes {k : Nat} (small : k < 0x40) : IsContinuation (0x80 + k).toUInt8 := by
    rw [IsContinuation, toNat_toUInt8 (by omega)]
    omega
  have starts {k : Nat} (small : k < 0x100) (other : k < 0x80 ∨ 0xC0 ≤ k) :
      ¬ IsContinuation k.toUInt8 := by
    rw [IsContinuation, toNat_toUInt8 small]
    omega
  rw [encodeChar]
  split
  case isTrue one => exact ⟨_, _, rfl, starts (by omega) (.inl one), by simp⟩
  case isFalse one =>
    split
    case isTrue two =>
      refine ⟨_, _, rfl, starts (by omega) (.inr (by omega)), ?_⟩
      exact List.forall_mem_singleton.2 (goes (by omega))
    case isFalse two =>
      split
      case isTrue three =>
        refine ⟨_, _, rfl, starts (by omega) (.inr (by omega)), ?_⟩
        exact List.forall_mem_cons.2 ⟨goes (by omega), List.forall_mem_singleton.2 (goes (by omega))⟩
      case isFalse three =>
        refine ⟨_, _, rfl, starts (by omega) (.inr (by omega)), ?_⟩
        exact List.forall_mem_cons.2 ⟨goes (by omega),
          List.forall_mem_cons.2 ⟨goes (by omega), List.forall_mem_singleton.2 (goes (by omega))⟩⟩

theorem encodeChar_of_toNat {c : Char} {b : UInt8} (same : c.toNat = b.toNat) (small : b.toNat < 0x80) :
    encodeChar c = [b] := by
  rw [encodeChar_one (by omega), toUInt8_eq same]

theorem exists_toNat_eq {b : UInt8} (small : b.toNat < 0x80) : ∃ c : Char, c.toNat = b.toNat :=
  ⟨Char.ofNatAux b.toNat (.inl (by omega)), rfl⟩

theorem encode_cons (c : Char) (cs : List Char) : encode (c :: cs) = encodeChar c ++ encode cs := rfl

theorem encode_eq_append {cs : List Char} {c : Char} {bs : Bytes} (h : encode cs = encodeChar c ++ bs) :
    ∃ rest, cs = c :: rest ∧ encode rest = bs := by
  cases cs with
  | nil =>
    obtain ⟨lead, tail, written, -⟩ := encodeChar_eq_cons c
    rw [written] at h
    cases h
  | cons d cs =>
    have read : some (d, encode cs) = some (c, bs) := by
      rw [← next?_encodeChar d, ← next?_encodeChar c, ← h]
      rfl
    cases read
    exact ⟨cs, rfl, rfl⟩

end Utf8

namespace Bytes

@[simp] theorem text?_ofString (s : String) : (ofString s).text? = some s := by
  simp [text?, ofString, Utf8.decode?_encode]

end Bytes

end TitleDock
