import TitleDock.Discovery.Reply
import TitleDock.Proofs.Text.Decimal
import TitleDock.Proofs.Text.Pieces
import TitleDock.Proofs.Text.Utf8

/-! The datagrams that are taken for replies, and what is read off them. A reply has one written
form for each spelling of its port, followed by any further fields and by line ends or NULs; exactly
these are read, and each of them is read as the reply that it was written for. -/

namespace TitleDock.Reply

open Text

/-- A port as it may be written: a nonempty run of digits, after a plus sign or none, with any
blanks around it. -/
structure SpellsPort (port : UInt16) (cs : List Char) : Prop where
  valid : port ≠ 0
  spelling : ∃ left sign ds right, cs = left ++ (sign ++ ds) ++ right ∧
    (∀ c ∈ left, isBlank c = true) ∧ (∀ c ∈ right, isBlank c = true) ∧
      (sign = [] ∨ sign = ['+']) ∧ ds ≠ [] ∧ (∀ c ∈ ds, c.isDigit = true) ∧
        Nat.ofDigitChars 10 ds 0 = port.toNat

def trailers : List Char := ['\r', '\n', '\x00']

def IsBare (cs : List Char) : Prop := ∀ c ∈ cs.getLast?, c ∉ trailers

/-- The rest of a reply after its version: nothing, or further fields. -/
def IsFurther (rest : List Char) : Prop := rest = [] ∨ ∃ more, rest = '|' :: more

/-- A reply as it may be written, up to what trails it. -/
structure Spells (r : Reply) (cs : List Char) : Prop where
  name : '|' ∉ r.name.toList
  version : '|' ∉ r.version.toList
  spelling : ∃ port rest, SpellsPort r.port port ∧ IsFurther rest ∧
    cs = "NXDUMP_RESPONSE".toList ++ '|' :: port ++ '|' :: r.name.toList ++ '|' ::
      r.version.toList ++ rest

section Port

variable {port : UInt16} {cs : List Char} {c : Char}

theorem not_isBlank_of_isDigit (h : c.isDigit = true) : isBlank c = false := by
  have low : '0'.toNat ≤ c.toNat := (Decimal.isDigit_iff.1 h).1
  have high : c.toNat ≤ '9'.toNat := (Decimal.isDigit_iff.1 h).2
  simp at low high
  simp [isBlank]
  omega

theorem not_isBlank_of_signed {sign ds : List Char} (signed : sign = [] ∨ sign = ['+'])
    (digits : ∀ c ∈ ds, c.isDigit = true) : ∀ c ∈ sign ++ ds, isBlank c = false := by
  intro c member
  obtain plus | digit := List.mem_append.1 member
  · obtain rfl | rfl := signed
    · cases plus
    · obtain rfl := List.mem_singleton.1 plus
      rfl
  · exact not_isBlank_of_isDigit (digits c digit)

theorem port?_eq_some_iff : port? cs = some port ↔ SpellsPort port cs := by
  simp only [port?, Option.bind_eq_bind, Option.bind_eq_some_iff, Decimal.unsigned?_eq_some_iff]
  constructor
  · rintro ⟨n, ⟨most, sign, ds, trimmed, signed, some, digits, value⟩, taken⟩
    split_ifs at taken with zero
    cases taken
    have port : n.toUInt16.toNat = n := by
      simpa using Nat.mod_eq_of_lt (show n < 65536 by simp [Decimal.largest16] at most; omega)
    obtain ⟨left, right, rfl, before, after, -⟩ := (trim_eq_iff (by simp [some])).1 trimmed
    refine ⟨fun same => zero ?_, left, sign, ds, right, rfl, before, after, signed, some, digits,
      value.trans port.symm⟩
    rw [← port, same]
    rfl
  · rintro ⟨valid, left, sign, ds, right, rfl, before, after, signed, some, digits, value⟩
    have bare := not_isBlank_of_signed signed digits
    refine ⟨port.toNat, ⟨?_, sign, ds, ?_, signed, some, digits, value⟩, ?_⟩
    · have := port.toNat_lt
      simp [Decimal.largest16]
      omega
    · exact trim_append (by simp [some]) before after bare
    · have positive : port.toNat ≠ 0 := fun zero => valid (UInt16.toNat_inj.1 zero)
      rw [if_neg positive]
      simp

theorem SpellsPort.not_mem (h : SpellsPort port cs) : '|' ∉ cs := by
  obtain ⟨left, sign, ds, right, rfl, before, after, signed, -, digits, -⟩ := h.spelling
  intro member
  obtain inLeft | inSign | inDigits | inRight :
      '|' ∈ left ∨ '|' ∈ sign ∨ '|' ∈ ds ∨ '|' ∈ right := by simpa using member
  · cases before _ inLeft
  · obtain rfl | rfl := signed <;> simp at inSign
  · cases digits _ inDigits
  · cases after _ inRight

end Port

section Text

variable {r : Reply} {cs head port name version : List Char} {fields : List (List Char)}

theorem not_mem_marker : '|' ∉ marker.toList := by decide +kernel

theorem splitOn_eq_fields_iff : splitOn '|' cs = head :: port :: name :: version :: fields ↔
    '|' ∉ head ∧ '|' ∉ port ∧ '|' ∉ name ∧ ∃ rest,
      cs = head ++ '|' :: port ++ '|' :: name ++ '|' :: rest ∧
        splitOn '|' rest = version :: fields := by
  rw [splitOn_eq_cons_cons_iff]
  constructor
  · rintro ⟨noHead, _, rfl, split₁⟩
    obtain ⟨noPort, _, rfl, split₂⟩ := splitOn_eq_cons_cons_iff.1 split₁
    obtain ⟨noName, rest, rfl, split₃⟩ := splitOn_eq_cons_cons_iff.1 split₂
    exact ⟨noHead, noPort, noName, rest, by simp, split₃⟩
  · rintro ⟨noHead, noPort, noName, rest, rfl, split⟩
    refine ⟨noHead, port ++ '|' :: (name ++ '|' :: rest), by simp, ?_⟩
    rw [splitOn_append_cons noPort, splitOn_append_cons noName, split]

theorem splitOn_version_iff : (∃ fields, splitOn '|' cs = version :: fields) ↔
    '|' ∉ version ∧ ∃ rest, IsFurther rest ∧ cs = version ++ rest := by
  constructor
  · rintro ⟨fields, split⟩
    obtain ⟨clean, ⟨rfl, -⟩ | ⟨r, rfl, -⟩⟩ := splitOn_eq_cons_iff.1 split
    · exact ⟨clean, [], .inl rfl, (List.append_nil cs).symm⟩
    · exact ⟨clean, _, .inr ⟨r, rfl⟩, rfl⟩
  · rintro ⟨clean, rest, rfl | ⟨more, rfl⟩, rfl⟩
    · rw [List.append_nil]
      exact ⟨[], splitOn_of_not_mem clean⟩
    · exact ⟨_, splitOn_append_cons clean more⟩

theorem ofText?_eq_some_iff : ofText? cs = some r ↔ r.Spells (dropEndWhile isTrailer cs) := by
  rw [ofText?]
  generalize dropEndWhile isTrailer cs = body
  constructor
  · intro h
    split at h
    case h_2 => cases h
    case h_1 head port name version fields pieces =>
      split_ifs at h with marked
      obtain ⟨number, read, same⟩ := Option.bind_eq_some_iff.1 h
      obtain ⟨-, -, noName, _, rfl, last⟩ := splitOn_eq_fields_iff.1 pieces
      obtain ⟨noVersion, rest, further, rfl⟩ := splitOn_version_iff.1 ⟨fields, last⟩
      cases same
      refine ⟨by simpa using noName, by simpa using noVersion, port, rest,
        port?_eq_some_iff.1 read, further, ?_⟩
      simp [marked, marker]
  · rintro ⟨noName, noVersion, port, rest, spelled, further, rfl⟩
    obtain ⟨fields, last⟩ := splitOn_version_iff.2 ⟨noVersion, rest, further, rfl⟩
    have pieces := splitOn_eq_fields_iff.2 ⟨not_mem_marker, spelled.not_mem, noName, _, rfl, last⟩
    simp only [List.append_assoc, List.cons_append] at pieces ⊢
    rw [show "NXDUMP_RESPONSE" = marker from rfl, pieces]
    simp [port?_eq_some_iff.2 spelled]

theorem isTrailer_iff {c : Char} : isTrailer c = true ↔ c ∈ trailers := by
  have nul : c.toNat = 0 ↔ c = '\x00' := ⟨fun h => Char.toNat_inj.1 h, fun h => h ▸ rfl⟩
  simp [isTrailer, trailers, or_assoc, nul]

theorem ofText?_append_iff : ofText? cs = some r ↔ ∃ body trail, cs = body ++ trail ∧
    r.Spells body ∧ (∀ c ∈ trail, c ∈ trailers) ∧ IsBare body := by
  simp only [IsBare, ← isTrailer_iff, Bool.not_eq_true]
  rw [ofText?_eq_some_iff]
  constructor
  · intro spelled
    obtain ⟨trail, split, all, stop⟩ := dropEndWhile_eq_iff.1 (rfl : dropEndWhile isTrailer cs = _)
    exact ⟨_, trail, split, spelled, all, stop⟩
  · rintro ⟨body, trail, rfl, spelled, all, stop⟩
    rwa [dropEndWhile_append all stop]

theorem IsBare.append {ds : List Char} (h : IsBare cs) (h' : IsBare ds) : IsBare (cs ++ ds) := by
  intro c last
  rw [List.getLast?_append] at last
  obtain own | ⟨-, other⟩ := Option.or_eq_some_iff.1 last
  · exact h' c own
  · exact h c other

theorem isBare_text (bare : IsBare r.version.toList) : IsBare r.text := by
  have bar : IsBare (marker.toList ++ '|' :: Decimal.digits r.port.toNat ++ '|' :: r.name.toList ++
      ['|']) := by
    intro c last
    rw [List.getLast?_concat] at last
    cases last
    decide
  simpa [text] using bar.append bare

theorem spells_text (valid : r.port ≠ 0) (noName : '|' ∉ r.name.toList)
    (noVersion : '|' ∉ r.version.toList) {rest : List Char} (further : IsFurther rest) :
    r.Spells (r.text ++ rest) := by
  have number : SpellsPort r.port (Decimal.digits r.port.toNat) :=
    ⟨valid, [], [], Decimal.digits r.port.toNat, [], by simp, by simp, by simp, .inl rfl,
      Nat.toDigits_ne_nil, fun c member => Decimal.isDigit_of_mem_digits member,
      Nat.ofDigitChars_toDigits (by decide) (by decide)⟩
  exact ⟨noName, noVersion, _, rest, number, further, rfl⟩

theorem exists_further (fields : List (List Char)) {trail : List Char}
    (all : ∀ c ∈ trail, c ∈ trailers) :
    ∃ rest trail', fields.flatMap ('|' :: ·) ++ trail = rest ++ trail' ∧ IsFurther rest ∧
      (∀ c ∈ trail', c ∈ trailers) ∧ IsBare rest := by
  let whole := fields.flatMap ('|' :: ·) ++ trail
  obtain ⟨trail', split, all', stop⟩ :=
    dropEndWhile_eq_iff.1 (rfl : dropEndWhile isTrailer whole = _)
  simp only [isTrailer_iff] at all'
  simp only [← Bool.not_eq_true, isTrailer_iff] at stop
  refine ⟨_, trail', split, ?_, all', stop⟩
  cases fields with
  | nil =>
    have nothing : dropEndWhile isTrailer ([] ++ trail) = [] :=
      dropEndWhile_append (by simpa only [isTrailer_iff] using all) (by simp)
    exact .inl nothing
  | cons field fields =>
    cases rest : dropEndWhile isTrailer whole with
    | nil => exact .inl rfl
    | cons c more =>
      rw [rest] at split
      obtain ⟨rfl, -⟩ := List.cons.inj split
      exact .inr ⟨more, rfl⟩

end Text

/-- A datagram is taken for a reply exactly if it is UTF-8 text that spells one, trailing characters
aside. In particular a reply is read back from its text, whatever fields and trailing characters are
added to it. -/
theorem datagram_is_read_iff_spelled :
    (∀ (bs : Bytes) (r : Reply), ofDatagram? bs = some r ↔ ∃ body trail,
      bs = (body ++ trail).flatMap String.utf8EncodeChar ∧ r.Spells body ∧
        (∀ c ∈ trail, c ∈ trailers) ∧ IsBare body) ∧
    ∀ (r : Reply) (fields : List (List Char)) (trail : List Char), r.port ≠ 0 →
      '|' ∉ r.name.toList → '|' ∉ r.version.toList →
      IsBare r.version.toList → (∀ c ∈ trail, c ∈ trailers) →
        ofDatagram? ((r.text ++ fields.flatMap ('|' :: ·) ++ trail).flatMap
          String.utf8EncodeChar) = some r := by
  constructor
  · intro bs r
    rw [ofDatagram?, Option.bind_eq_some_iff]
    simp only [Utf8.decode?_eq_some_iff, Utf8.encode_eq, ofText?_append_iff]
    constructor
    · rintro ⟨_, rfl, body, trail, rfl, spelled⟩
      exact ⟨body, trail, rfl, spelled⟩
    · rintro ⟨body, trail, rfl, spelled⟩
      exact ⟨_, rfl, body, trail, rfl, spelled⟩
  · intro r fields trail valid noName noVersion bare all
    obtain ⟨rest, trail', split, further, all', bare'⟩ := exists_further fields all
    rw [ofDatagram?, ← Utf8.encode_eq, Utf8.decode?_encode, Option.bind_some,
      ofText?_append_iff]
    refine ⟨r.text ++ rest, trail', ?_, spells_text valid noName noVersion further, all',
      (isBare_text bare).append bare'⟩
    rw [List.append_assoc, split, List.append_assoc]

/-- The port has a sign, a zero in front and blanks around it, and two fields and a line end follow.
-/
theorem signed_port_is_read :
    let r : Reply := { port := 8080, name := "Dock", version := "2.0" }
    let body := "NXDUMP_RESPONSE".toList ++ '|' :: [' ', '+', '0', '8', '0', '8', '0', '\t'] ++
      '|' :: r.name.toList ++ '|' :: r.version.toList ++ ['|', 'x', '|']
    ofDatagram? ((body ++ ['\r', '\n']).flatMap String.utf8EncodeChar) = some r ∧
      ofDatagram? ((r.text ++ ['|', 'x', '|'] ++ ['\r', '\n']).flatMap String.utf8EncodeChar) =
        some r := by
  intro r body
  have noName : '|' ∉ r.name.toList := by decide
  have noVersion : '|' ∉ r.version.toList := by decide
  have number : SpellsPort r.port [' ', '+', '0', '8', '0', '8', '0', '\t'] :=
    ⟨by decide, [' '], ['+'], ['0', '8', '0', '8', '0'], ['\t'], rfl, by simp [isBlank],
      by simp [isBlank], .inr rfl, by simp, by simp, rfl⟩
  have bare : IsBare body := by
    intro c last
    rw [List.getLast?_append] at last
    cases last
    decide
  have lineEnd : ∀ c ∈ ['\r', '\n'], c ∈ trailers := by simp [trailers]
  constructor
  · exact (datagram_is_read_iff_spelled.1 _ r).2 ⟨body, ['\r', '\n'], rfl,
      ⟨noName, noVersion, _, ['|', 'x', '|'], number, .inr ⟨_, rfl⟩, rfl⟩, lineEnd, bare⟩
  · exact datagram_is_read_iff_spelled.2 r [['x'], []] ['\r', '\n'] (by decide) noName noVersion
      (by simp [IsBare, r, trailers]) lineEnd

end TitleDock.Reply
