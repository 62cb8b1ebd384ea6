import TitleDock.Proofs.Json.Layout
import TitleDock.Proofs.Json.Meaning
import TitleDock.Proofs.Text.Decimal

/-! The spelling of JSON tokens that is written. A text is spelled byte by byte, each as itself, by
a letter or as a code unit, and is read back; a natural number is spelled in decimal. What is
spelled in this way is a text of the tokens. -/

namespace TitleDock.Json

namespace Glyph

theorem ofByte_cases (b : UInt8) :
    (isPlain b = true ∧ ofByte b = .byte b) ∨
      (∃ e, ofByte b = .letter e ∧ meaning? e = some b) ∨
        (b.toNat < 0x20 ∧ ofByte b = .unit b.toNat) := by
  rw [ofByte]
  by_cases plain : isPlain b = true
  · exact .inl ⟨plain, if_pos plain⟩
  rw [if_neg plain]
  right
  by_cases mark : b = quote ∨ b = backslash
  · rw [if_pos mark]
    exact .inl ⟨b, rfl, by rcases mark with rfl | rfl <;> decide⟩
  rw [if_neg mark]
  have control : b.toNat < 0x20 := by
    by_contra large
    exact plain (by simpa [isPlain, isControl, UInt8.lt_iff_toNat_lt, large] using not_or.1 mark)
  split_ifs with h1 h2 h3 h4 h5
  all_goals first
    | exact .inl ⟨_, rfl, by subst b; decide⟩
    | exact .inr ⟨control, rfl⟩

theorem unit?_hexPadded {n : Nat} (control : n < 0x20) : ∃ a b c d,
    (Decimal.hexPadded 4 n).map (fun c => c.toNat.toUInt8) = [a, b, c, d] ∧
      unit? a b c d = some n := by
  let bytes (k : Nat) := (Decimal.hexPadded 4 k).map fun c => c.toNat.toUInt8
  let at' (k i : Nat) := (bytes k).getD i 0
  have read (k : Fin 0x20) : bytes k = [at' k 0, at' k 1, at' k 2, at' k 3] ∧
      unit? (at' k 0) (at' k 1) (at' k 2) (at' k 3) = some k.val := by
    revert k
    decide
  exact ⟨_, _, _, _, read ⟨n, control⟩⟩

theorem bytes?_ofByte (b : UInt8) (gs : List Glyph) :
    bytes? (ofByte b :: gs) = (bytes? gs).map (b :: ·) := by
  obtain ⟨-, spelled⟩ | ⟨e, spelled, means⟩ | ⟨control, spelled⟩ := ofByte_cases b
  · rw [spelled, bytes?]
  · rw [spelled, bytes?, means]
    rfl
  · have small : b.toNat < 0x80 := by omega
    obtain ⟨c, same⟩ := Utf8.exists_toNat_eq small
    rw [spelled, ← same, bytes?_unit_toNat, Utf8.encodeChar_of_toNat same small]
    rfl

theorem text?_ofText (s : String) : text? (ofText s) = some s := by
  have read (bs : Bytes) : bytes? (bs.map ofByte) = some bs := by
    induction bs with
    | nil => rfl
    | cons b bs ih => rw [List.map_cons, bytes?_ofByte, ih, Option.map_some]
  simp [text?, ofText, read]

theorem spells_ofByte (b : UInt8) : (ofByte b).Spells (ofByte b).spelling := by
  obtain ⟨plain, spelled⟩ | ⟨e, spelled, means⟩ | ⟨control, spelled⟩ := ofByte_cases b
  · rw [spelled]
    exact .byte plain
  · rw [spelled]
    exact .letter (by simp [means])
  · obtain ⟨a, b', c, d, written, read⟩ := unit?_hexPadded control
    rw [spelled, spelling, written]
    exact .unit read

theorem row_ofText (s : String) : Row (ofText s) ((ofText s).flatMap spelling) := by
  rw [ofText]
  induction Bytes.ofString s with
  | nil => exact .nil
  | cons b bs ih => exact .cons (spells_ofByte b) ih

end Glyph

namespace Token

def natural (n : Nat) : Bytes := (Decimal.digits n).map fun c => c.toNat.toUInt8

theorem ofNat_toUInt8 {c : Char} (digit : c.isDigit = true) :
    isDigit c.toNat.toUInt8 = true ∧ Char.ofNat c.toNat.toUInt8.toNat = c := by
  have bounds : 0x30 ≤ c.toNat ∧ c.toNat ≤ 0x39 := by
    simpa [Char.isDigit, UInt32.le_iff_toNat_le] using digit
  have value : c.toNat.toUInt8.toNat = c.toNat := Utf8.toNat_toUInt8 (by omega)
  constructor
  · simpa [isDigit, UInt8.le_iff_toNat_le, value] using bounds
  · rw [value, Char.ofNat_toNat]

theorem isDigit_of_mem_natural {n : Nat} {b : UInt8} (h : b ∈ natural n) : isDigit b = true := by
  obtain ⟨c, member, rfl⟩ := List.mem_map.1 h
  exact (ofNat_toUInt8 (Decimal.isDigit_of_mem_digits member)).1

theorem map_natural (n : Nat) : (natural n).map (fun b => Char.ofNat b.toNat) = Decimal.digits n := by
  rw [natural, List.map_map]
  refine (List.map_congr_left fun c member => ?_).trans (List.map_id _)
  exact (ofNat_toUInt8 (Decimal.isDigit_of_mem_digits member)).2

theorem isNumber_natural (n : Nat) : IsNumber (natural n) := by
  have digits : IsDigits (natural n) :=
    ⟨fun none => Nat.toDigits_ne_nil (List.map_eq_nil_iff.1 none), fun b => isDigit_of_mem_natural⟩
  have whole : IsWhole (natural n) := by
    obtain zero | ⟨c, cs, written, other⟩ := Decimal.digits_eq n
    · rw [natural, zero]
      exact .zero
    · refine .digits digits ?_
      have first : (natural n).head? = some c.toNat.toUInt8 := by simp [natural, written]
      rw [first]
      intro lead
      have member : c ∈ Decimal.digits n := by simp [written]
      have read := (ofNat_toUInt8 (Decimal.isDigit_of_mem_digits member)).2
      rw [Option.some.inj lead] at read
      exact other read.symm
  simpa using IsNumber.parts (.inl rfl) whole .none .none

theorem spells_natural (n : Nat) : (Token.number (natural n)).Spells (Token.number (natural n)).spelling :=
  .number (isNumber_natural n)

theorem spells_text (s : String) :
    (Token.string (Glyph.ofText s)).Spells (Token.string (Glyph.ofText s)).spelling :=
  .string (Glyph.row_ofText s)

theorem laid_spelling {ts : List Token} (each : ∀ t ∈ ts, t.Spells t.spelling) :
    Laid ts (ts.flatMap spelling) := by
  induction ts with
  | nil => exact .nil
  | cons t ts ih =>
    obtain ⟨first, later⟩ := List.forall_mem_cons.1 each
    exact .token first (ih later)

end Token

end TitleDock.Json
