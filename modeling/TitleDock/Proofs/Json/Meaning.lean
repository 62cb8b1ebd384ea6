import TitleDock.Json.Glyph
import TitleDock.Proofs.Text.Utf8

/-! What the inside of a string means. A character may be spelled as its UTF-8 bytes, as a letter,
as a code unit, or as a pair of code units if it has no unit of its own; any mix is read, and
nothing else is. The converse rests on UTF-8: what a letter or a code unit means never goes on with
a character that was begun in raw bytes. -/

namespace TitleDock.Json.Glyph

inductive Means : List Glyph → List Char → Prop
  | nil : Means [] []
  | raw {c : Char} {gs : List Glyph} {cs : List Char} (rest : Means gs cs) :
      Means ((Utf8.encodeChar c).map .byte ++ gs) (c :: cs)
  | letter {b e : UInt8} {c : Char} {gs : List Glyph} {cs : List Char} (known : meaning? b = some e)
      (same : c.toNat = e.toNat) (rest : Means gs cs) : Means (.letter b :: gs) (c :: cs)
  | unit {c : Char} {gs : List Glyph} {cs : List Char} (rest : Means gs cs) :
      Means (.unit c.toNat :: gs) (c :: cs)
  | pair {c : Char} {high low : Nat} {gs : List Glyph} {cs : List Char} (first : isHigh high = true)
      (second : isLow low = true)
      (value : c.toNat = 0x10000 + (high - 0xD800) * 0x400 + (low - 0xDC00)) (rest : Means gs cs) :
      Means (.unit high :: .unit low :: gs) (c :: cs)

section Meaning

variable {b e : UInt8} {n : Nat} {gs : List Glyph} {cs : List Char} {bs : Bytes}

theorem toNat_of_meaning? (h : meaning? b = some e) : e.toNat < 0x80 := by
  rw [meaning?] at h
  split_ifs at h with marks
  · cases h
    obtain rfl | rfl | rfl := marks <;> decide
  all_goals
    cases h
    decide

theorem not_isHigh_toNat (c : Char) : isHigh c.toNat = false := by
  have valid : c.toNat.isValidChar := c.valid
  simp only [isHigh, Bool.and_eq_false_iff, decide_eq_false_iff_not]
  rcases valid with low | ⟨high, -⟩ <;> omega

theorem bytes?_map_byte (bs : Bytes) (gs : List Glyph) :
    bytes? (bs.map .byte ++ gs) = (bytes? gs).map (bs ++ ·) := by
  induction bs with
  | nil => simp
  | cons b bs ih =>
    rw [List.map_cons, List.cons_append, bytes?, ih, Option.map_map]
    rfl

theorem bytes?_unit_toNat (c : Char) (gs : List Glyph) :
    bytes? (.unit c.toNat :: gs) = (bytes? gs).map (Utf8.encodeChar c ++ ·) := by
  have scalar := Utf8.scalar?_toNat c
  rcases gs with _ | ⟨_ | _ | m, gs⟩ <;> simp [bytes?, scalar, not_isHigh_toNat]

theorem Means.bytes?_eq (h : Means gs cs) : bytes? gs = some (Utf8.encode cs) := by
  induction h with
  | nil => rfl
  | raw rest ih => rw [bytes?_map_byte, ih, Option.map_some, Utf8.encode_cons]
  | @letter b e c gs cs known same rest ih =>
    have written := Utf8.encodeChar_of_toNat same (toNat_of_meaning? known)
    rw [bytes?, known, Option.bind_eq_bind, Option.bind_some, ih, Option.map_some, Utf8.encode_cons,
      written, List.singleton_append]
  | unit rest ih => rw [bytes?_unit_toNat, ih, Option.map_some, Utf8.encode_cons]
  | @pair c high low gs cs first second value rest ih =>
    rw [bytes?, if_pos first, if_pos second, ← value, Utf8.scalar?_toNat, ih]
    rfl

theorem bytes?_unit_eq_some (h : bytes? (.unit n :: gs) = some bs) : ∃ c rest more,
    bs = Utf8.encodeChar c ++ more ∧ bytes? rest = some more ∧ rest.length ≤ gs.length ∧
      ∀ cs, Means rest cs → Means (.unit n :: gs) (c :: cs) := by
  have single {c : Char} (scalar : Utf8.scalar? n = some c) {more : Bytes}
      (others : bytes? gs = some more) (same : Utf8.encodeChar c ++ more = bs) :
      ∃ c rest more, bs = Utf8.encodeChar c ++ more ∧ bytes? rest = some more ∧
        rest.length ≤ gs.length ∧ ∀ cs, Means rest cs → Means (.unit n :: gs) (c :: cs) := by
    obtain rfl := Utf8.toNat_of_scalar? scalar
    exact ⟨c, gs, more, same.symm, others, le_rfl, fun cs => .unit⟩
  rcases gs with _ | ⟨_ | _ | m, gs⟩
  case nil =>
    obtain ⟨c, scalar, same⟩ := Option.map_eq_some_iff.1 h
    exact single scalar rfl (by simpa using same)
  case cons.unit =>
    rw [bytes?] at h
    split at h
    case isFalse =>
      obtain ⟨c, scalar, h⟩ := Option.bind_eq_some_iff.1 h
      obtain ⟨more, others, same⟩ := Option.map_eq_some_iff.1 h
      exact single scalar others same
    case isTrue first =>
      split at h
      case isFalse => cases h
      case isTrue second =>
        obtain ⟨c, scalar, h⟩ := Option.bind_eq_some_iff.1 h
        obtain ⟨more, others, same⟩ := Option.map_eq_some_iff.1 h
        exact ⟨c, gs, more, same.symm, others, Nat.le_succ _,
          fun cs => .pair first second (Utf8.toNat_of_scalar? scalar)⟩
  all_goals
    rw [bytes?] at h
    · obtain ⟨c, scalar, h⟩ := Option.bind_eq_some_iff.1 h
      obtain ⟨more, others, same⟩ := Option.map_eq_some_iff.1 h
      exact single scalar others same
    · simp

theorem eq_map_byte_of_bytes? {tail : Bytes} (goes : ∀ b ∈ tail, Utf8.IsContinuation b)
    (h : bytes? gs = some (tail ++ bs)) :
    ∃ rest, gs = tail.map .byte ++ rest ∧ bytes? rest = some bs := by
  induction tail generalizing gs with
  | nil => exact ⟨gs, rfl, h⟩
  | cons t tail ih =>
    obtain ⟨first, later⟩ := List.forall_mem_cons.1 goes
    rcases gs with _ | ⟨b | b | n, gs⟩
    case nil => cases h
    case cons.byte =>
      rw [bytes?] at h
      obtain ⟨more, others, same⟩ := Option.map_eq_some_iff.1 h
      cases same
      obtain ⟨rest, rfl, left⟩ := ih later others
      exact ⟨rest, rfl, left⟩
    case cons.letter =>
      rw [bytes?] at h
      obtain ⟨e, known, h⟩ := Option.bind_eq_some_iff.1 h
      obtain ⟨more, -, same⟩ := Option.map_eq_some_iff.1 h
      cases same
      have small := toNat_of_meaning? known
      exact absurd first.1 (by omega)
    case cons.unit =>
      obtain ⟨c, rest, more, same, -⟩ := bytes?_unit_eq_some h
      obtain ⟨lead, last, written, other, -⟩ := Utf8.encodeChar_eq_cons c
      rw [written] at same
      exact absurd ((List.cons.inj same).1 ▸ first) other

theorem means_of_bytes? (h : bytes? gs = some (Utf8.encode cs)) : Means gs cs := by
  induction size : gs.length using Nat.strong_induction_on generalizing gs cs with
  | _ k ih =>
    subst size
    rcases gs with _ | ⟨b | b | n, gs⟩
    case nil =>
      obtain rfl : cs = [] := Utf8.encode_injective (Option.some.inj h).symm
      exact .nil
    case cons.byte =>
      rw [bytes?] at h
      obtain ⟨more, others, same⟩ := Option.map_eq_some_iff.1 h
      cases cs with
      | nil => cases same
      | cons c cs =>
        obtain ⟨lead, tail, written, -, goes⟩ := Utf8.encodeChar_eq_cons c
        rw [Utf8.encode_cons, written] at same
        cases same
        obtain ⟨rest, rfl, left⟩ := eq_map_byte_of_bytes? goes others
        have shorter : rest.length < (Glyph.byte b :: (tail.map .byte ++ rest)).length := by
          simp only [List.length_cons, List.length_append]
          omega
        have raw := Means.raw (c := c) (ih _ shorter left rfl)
        rwa [written] at raw
    case cons.letter =>
      rw [bytes?] at h
      obtain ⟨e, known, h⟩ := Option.bind_eq_some_iff.1 h
      obtain ⟨more, others, same⟩ := Option.map_eq_some_iff.1 h
      have small := toNat_of_meaning? known
      obtain ⟨c, scalar⟩ := Utf8.exists_toNat_eq small
      have start : Utf8.encode cs = Utf8.encodeChar c ++ more := by
        rw [Utf8.encodeChar_of_toNat scalar small]
        exact same.symm
      obtain ⟨rest, rfl, left⟩ := Utf8.encode_eq_append start
      exact .letter known scalar (ih _ (Nat.lt_succ_self _) (others.trans (congrArg some left.symm)) rfl)
    case cons.unit =>
      obtain ⟨c, rest, more, same, others, shorter, means⟩ := bytes?_unit_eq_some h
      obtain ⟨cs, rfl, left⟩ := Utf8.encode_eq_append same
      exact means cs (ih _ (Nat.lt_succ_of_le shorter) (others.trans (congrArg some left.symm)) rfl)

theorem text?_eq_some_iff {s : String} : text? gs = some s ↔ Means gs s.toList := by
  rw [text?, Option.bind_eq_bind, Option.bind_eq_some_iff]
  constructor
  · rintro ⟨bs, means, read⟩
    obtain ⟨cs, decoded, rfl⟩ := Option.map_eq_some_iff.1 read
    rw [Utf8.decode?_eq_some_iff.1 decoded] at means
    rw [String.toList_ofList]
    exact means_of_bytes? means
  · intro means
    exact ⟨_, means.bytes?_eq, Bytes.text?_ofString s⟩

end Meaning

end TitleDock.Json.Glyph
