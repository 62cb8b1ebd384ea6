import TitleDock.Json.Value
import TitleDock.Proofs.Text.Pieces

/-! The texts that tokens may have. A token can be spelled in more than one way, and blanks may
stand before, between and behind tokens. Any such text is scanned as its tokens. A number takes
everything that could be part of it, so two numbers must not follow each other. -/

namespace TitleDock.Json

namespace Glyph

/-- A byte is spelled as itself, a letter behind a backslash, a code unit in hexadecimal digits of
any case. -/
inductive Spells : Glyph → Bytes → Prop
  | byte {b : UInt8} (plain : isPlain b = true) : Spells (.byte b) [b]
  | letter {b : UInt8} (known : (meaning? b).isSome = true) : Spells (.letter b) [backslash, b]
  | unit {a b c d : UInt8} {n : Nat} (digits : unit? a b c d = some n) :
      Spells (.unit n) [backslash, 0x75, a, b, c, d]

inductive Row : List Glyph → Bytes → Prop
  | nil : Row [] []
  | cons {g : Glyph} {gs : List Glyph} {word bs : Bytes} (first : Spells g word) (rest : Row gs bs) :
      Row (g :: gs) (word ++ bs)

end Glyph

namespace Token

section Strings

variable {g : Glyph} {gs : List Glyph} {word bs : Bytes}

theorem takeString_spells (h : g.Spells word) (done : List Glyph) (r : Bytes) :
    takeString done (word ++ r) = takeString (g :: done) r := by
  cases h with
  | @byte b plain =>
    obtain ⟨⟨free, unquoted⟩, unslashed⟩ :
        (Glyph.isControl b = false ∧ b ≠ Glyph.quote) ∧ b ≠ Glyph.backslash := by
      simpa [Glyph.isPlain] using plain
    rw [List.singleton_append, takeString.eq_def]
    simp [unquoted, unslashed, free]
  | @letter b known =>
    have other : b ≠ 0x75 := by
      rintro rfl
      cases known
    rw [List.cons_append, List.singleton_append, takeString.eq_def]
    simp [Glyph.quote, Glyph.backslash, other, known]
  | unit digits =>
    rw [List.cons_append, takeString.eq_def]
    simp [Glyph.quote, Glyph.backslash, digits]

theorem takeString_row (h : Glyph.Row gs bs) (done : List Glyph) (r : Bytes) :
    takeString done (bs ++ Glyph.quote :: r) = some (done.reverse ++ gs, r) := by
  induction h generalizing done with
  | nil =>
    rw [List.nil_append, List.append_nil, takeString.eq_def]
    simp
  | @cons g gs word bs first rest ih =>
    rw [List.append_assoc, takeString_spells first, ih]
    simp

end Strings

def IsDigits (ds : Bytes) : Prop := ds ≠ [] ∧ ∀ b ∈ ds, isDigit b = true

inductive IsWhole : Bytes → Prop
  | zero : IsWhole [0x30]
  | digits {ds : Bytes} (digits : IsDigits ds) (lead : ds.head? ≠ some 0x30) : IsWhole ds

inductive IsFraction : Bytes → Prop
  | none : IsFraction []
  | digits {ds : Bytes} (digits : IsDigits ds) : IsFraction (0x2E :: ds)

inductive IsSign : Bytes → Prop
  | none : IsSign []
  | plus : IsSign [0x2B]
  | minus : IsSign [0x2D]

inductive IsExponent : Bytes → Prop
  | none : IsExponent []
  | digits {e : UInt8} {sign ds : Bytes} (mark : e = 0x65 ∨ e = 0x45) (signed : IsSign sign)
      (digits : IsDigits ds) : IsExponent (e :: (sign ++ ds))

inductive IsNumber : Bytes → Prop
  | parts {minus whole fraction exponent : Bytes} (signed : minus = [] ∨ minus = [0x2D])
      (integer : IsWhole whole) (fractional : IsFraction fraction) (scaled : IsExponent exponent) :
      IsNumber (minus ++ (whole ++ (fraction ++ exponent)))

def EndsNumber : Bytes → Prop
  | [] => True
  | b :: _ => isDigit b = false ∧ b ≠ 0x2E ∧ b ≠ 0x65 ∧ b ≠ 0x45

section Numbers

variable {ds whole fraction exponent r : Bytes}

theorem IsDigits.head_ne (h : IsDigits ds) : ∃ b bs, ds = b :: bs ∧ isDigit b = true ∧
    ∀ c, isDigit c = false → b ≠ c := by
  obtain ⟨some, all⟩ := h
  cases ds with
  | nil => exact absurd rfl some
  | cons b bs =>
    have digit := all b List.mem_cons_self
    refine ⟨b, bs, rfl, digit, ?_⟩
    rintro c other rfl
    simp [digit] at other

theorem EndsNumber.not_isDigit (ends : EndsNumber r) : ∀ b ∈ r.head?, isDigit b = false := by
  intro b first
  cases r with
  | nil => cases first
  | cons c r =>
    obtain rfl := Option.some.inj first
    exact ends.1

theorem takeDigits?_append (h : IsDigits ds) (stop : ∀ b ∈ r.head?, isDigit b = false) :
    takeDigits? (ds ++ r) = some (ds, r) := by
  obtain ⟨taken, left⟩ := Text.span_append h.2 stop
  obtain ⟨b, bs, rfl, -⟩ := h.head_ne
  rw [takeDigits?, taken, left]

theorem takeSign_append {sign : Bytes} (s : IsSign sign) (h : IsDigits ds) (r : Bytes) :
    takeSign (sign ++ (ds ++ r)) = (sign, ds ++ r) := by
  obtain ⟨b, bs, rfl, -, other⟩ := h.head_ne
  cases s with
  | none =>
    have unsigned : ¬ (b = 0x2B ∨ b = 0x2D) := not_or.2 ⟨other _ rfl, other _ rfl⟩
    rw [List.nil_append, List.cons_append, takeSign, if_neg unsigned]
  | plus => rfl
  | minus => rfl

theorem takeExponent?_append (h : IsExponent exponent) (ends : EndsNumber r) :
    takeExponent? (exponent ++ r) = some (exponent, r) := by
  cases h with
  | none =>
    cases r with
    | nil => rfl
    | cons b r => rw [List.nil_append, takeExponent?, if_neg (not_or.2 ends.2.2)]
  | digits mark sign digits =>
    rw [List.cons_append, List.append_assoc, takeExponent?, if_pos mark]
    simp only [takeSign_append sign digits, takeDigits?_append digits ends.not_isDigit]
    simp

theorem IsExponent.head (h : IsExponent exponent) (ends : EndsNumber r) :
    ∀ b ∈ (exponent ++ r).head?, isDigit b = false ∧ b ≠ 0x2E := by
  intro b first
  cases h with
  | none =>
    cases r with
    | nil => cases first
    | cons c r =>
      obtain rfl := Option.some.inj first
      exact ⟨ends.1, ends.2.1⟩
  | digits mark =>
    obtain rfl := Option.some.inj first
    obtain rfl | rfl := mark <;> decide

theorem takeFraction?_append (h : IsFraction fraction)
    (stop : ∀ b ∈ r.head?, isDigit b = false ∧ b ≠ 0x2E) :
    takeFraction? (fraction ++ r) = some (fraction, r) := by
  cases h with
  | none =>
    cases r with
    | nil => rfl
    | cons b r => rw [List.nil_append, takeFraction?, if_neg (stop b rfl).2]
  | digits digits =>
    rw [List.cons_append, takeFraction?, if_pos rfl,
      takeDigits?_append digits fun b first => (stop b first).1]
    rfl

theorem IsFraction.head (h : IsFraction fraction) (stop : ∀ b ∈ r.head?, isDigit b = false ∧ b ≠ 0x2E) :
    ∀ b ∈ (fraction ++ r).head?, isDigit b = false := by
  intro b first
  cases h with
  | none => exact (stop b first).1
  | digits =>
    obtain rfl := Option.some.inj first
    decide

theorem takeWhole?_append (h : IsWhole whole) (stop : ∀ b ∈ r.head?, isDigit b = false) :
    takeWhole? (whole ++ r) = some (whole, r) := by
  cases h with
  | zero => rfl
  | digits digits lead =>
    have taken := takeDigits?_append digits stop
    obtain ⟨b, bs, rfl, -⟩ := digits.head_ne
    have large : b ≠ 0x30 := fun same => lead (congrArg some same)
    rw [List.cons_append] at taken ⊢
    rw [takeWhole?, if_neg large, taken]

theorem IsWhole.isDigits (h : IsWhole whole) : IsDigits whole := by
  cases h with
  | zero => exact ⟨List.cons_ne_nil _ _, List.forall_mem_singleton.2 rfl⟩
  | digits digits => exact digits

theorem takeNumber?_append {lexeme : Bytes} (h : IsNumber lexeme) (ends : EndsNumber r) :
    takeNumber? (lexeme ++ r) = some (lexeme, r) := by
  obtain @⟨minus, whole, fraction, exponent, sign, hw, hf, he⟩ := h
  have exponents := he.head ends
  have fractions := hf.head exponents
  have minuses : takeMinus (minus ++ (whole ++ (fraction ++ (exponent ++ r)))) =
      (minus, whole ++ (fraction ++ (exponent ++ r))) := by
    obtain ⟨b, bs, rfl, -, other⟩ := hw.isDigits.head_ne
    obtain rfl | rfl := sign
    · rw [List.nil_append, List.cons_append, takeMinus, if_neg (other _ rfl)]
    · rfl
  simp only [List.append_assoc]
  simp [takeNumber?, minuses, takeWhole?_append hw fractions, takeFraction?_append hf exponents,
    takeExponent?_append he ends]

theorem IsNumber.head {lexeme : Bytes} (h : IsNumber lexeme) :
    ∃ b bs, lexeme = b :: bs ∧ (isDigit b = true ∨ b = 0x2D) := by
  obtain @⟨minus, whole, fraction, exponent, sign, hw, -, -⟩ := h
  obtain ⟨b, bs, rfl, digit, -⟩ := hw.isDigits.head_ne
  obtain rfl | rfl := sign
  · exact ⟨b, _, rfl, .inl digit⟩
  · exact ⟨0x2D, _, rfl, .inr rfl⟩

end Numbers

def isNumber : Token → Bool
  | .number _ => true
  | _ => false

def isMark : Token → Bool
  | .number _ | .string _ => false
  | _ => true

inductive Spells : Token → Bytes → Prop
  | mark {t : Token} (mark : t.isMark = true) : Spells t t.spelling
  | number {lexeme : Bytes} (number : IsNumber lexeme) : Spells (.number lexeme) lexeme
  | string {gs : List Glyph} {bs : Bytes} (row : Glyph.Row gs bs) :
      Spells (.string gs) (Glyph.quote :: (bs ++ [Glyph.quote]))

/-- Tokens in a text, with blanks anywhere but inside of them. -/
inductive Laid : List Token → Bytes → Prop
  | nil : Laid [] []
  | blank {b : UInt8} {ts : List Token} {bs : Bytes} (blank : isBlank b = true) (rest : Laid ts bs) :
      Laid ts (b :: bs)
  | token {t : Token} {ts : List Token} {word bs : Bytes} (first : t.Spells word)
      (rest : Laid ts bs) : Laid (t :: ts) (word ++ bs)

/-- No number stands behind a number. -/
def Apart : List Token → Prop
  | [] => True
  | t :: ts => (t.isNumber = true → ∀ u ∈ ts.head?, u.isNumber = false) ∧ Apart ts

section Scanning

variable {t : Token} {ts : List Token} {word bs r : Bytes}

theorem Spells.head (h : t.Spells word) : ∃ b bs, word = b :: bs ∧ isBlank b = false ∧
    (t.isNumber = false → isDigit b = false ∧ b ≠ 0x2E ∧ b ≠ 0x65 ∧ b ≠ 0x45) := by
  cases h with
  | mark mark =>
    rcases t with _ | _ | _ | _ | _ | _ | _ | _ | _ | _
    case bool b => cases b <;> exact ⟨_, _, rfl, by decide, fun _ => by decide⟩
    case number => cases mark
    case string => cases mark
    all_goals exact ⟨_, _, rfl, by decide, fun _ => by decide⟩
  | number number =>
    obtain ⟨b, bs, rfl, first⟩ := number.head
    refine ⟨b, bs, rfl, ?_, by simp [isNumber]⟩
    simp only [isBlank, Bool.or_eq_false_iff, decide_eq_false_iff_not]
    refine ⟨⟨⟨?_, ?_⟩, ?_⟩, ?_⟩ <;> (rintro rfl; revert first; decide)
  | string => exact ⟨_, _, rfl, by decide, fun _ => by decide⟩

theorem next?_of_number {b : UInt8} (first : isDigit b = true ∨ b = 0x2D) (r : Bytes) :
    next? (b :: r) = (takeNumber? (b :: r)).map fun (lexeme, r) => (.number lexeme, r) := by
  have other {c : UInt8} (h : ¬ (isDigit c = true ∨ c = 0x2D)) : b ≠ c := by
    rintro rfl
    exact h first
  rw [next?, if_neg (other (by decide)), if_neg (other (by decide)), if_neg (other (by decide)),
    if_neg (other (by decide)), if_neg (other (by decide)), if_neg (other (by decide)),
    if_neg (other (by decide)), if_neg (other (by decide)), if_neg (other (by decide)),
    if_neg (other (by decide))]

theorem Spells.next?_append (h : t.Spells word) (ends : t.isNumber = true → EndsNumber r) :
    next? (word ++ r) = some (t, r) := by
  cases h with
  | mark mark =>
    rcases t with _ | _ | _ | _ | _ | _ | _ | _ | _ | _
    case bool b => cases b <;> rfl
    case number => cases mark
    case string => cases mark
    all_goals rfl
  | number number =>
    have taken := takeNumber?_append number (ends rfl)
    obtain ⟨b, bs, rfl, first⟩ := number.head
    rw [List.cons_append] at taken ⊢
    rw [next?_of_number first, taken]
    rfl
  | string row =>
    have taken := takeString_row row [] r
    rw [List.reverse_nil, List.nil_append] at taken
    simp only [List.cons_append, List.append_assoc, List.nil_append, next?]
    rw [taken]
    rfl

theorem isBlank_ends {b : UInt8} (blank : isBlank b = true) (r : Bytes) : EndsNumber (b :: r) := by
  simp only [isBlank, Bool.or_eq_true, decide_eq_true_eq] at blank
  rcases blank with ((rfl | rfl) | rfl) | rfl <;> exact ⟨by decide, by decide, by decide, by decide⟩

theorem Laid.endsNumber (h : Laid ts bs) (other : ∀ u ∈ ts.head?, u.isNumber = false)
    (ends : ts = [] → EndsNumber r) : EndsNumber (bs ++ r) := by
  cases h with
  | nil => exact ends rfl
  | blank blank => exact isBlank_ends blank _
  | token first =>
    obtain ⟨b, bs, rfl, -, stops⟩ := first.head
    exact stops (other _ rfl)

theorem Laid.scanOnto_append (h : Laid ts bs) (apart : Apart ts)
    (ends : ∀ u ∈ ts.getLast?, u.isNumber = true → EndsNumber r) (done : List Token) {fuel : Nat}
    (enough : (bs ++ r).length ≤ fuel) : ∃ left, r.length ≤ left ∧
      scanOnto done fuel (bs ++ r) = scanOnto (ts.reverse ++ done) left r := by
  induction h generalizing done fuel with
  | nil => exact ⟨fuel, enough, rfl⟩
  | @blank b ts bs blank rest ih =>
    cases fuel with
    | zero => simp at enough
    | succ fuel =>
      have shorter : (bs ++ r).length ≤ fuel := by simpa using enough
      obtain ⟨left, enough', scanned⟩ := ih apart ends done shorter
      refine ⟨left, enough', ?_⟩
      rw [List.cons_append, scanOnto, if_pos blank, scanned]
  | @token t ts word bs first rest ih =>
    have last : t.isNumber = true → EndsNumber (bs ++ r) := fun number =>
      rest.endsNumber (apart.1 number) fun none => ends t (by simp [none]) number
    have later : ∀ u ∈ ts.getLast?, u.isNumber = true → EndsNumber r := by
      intro u member
      refine ends u ?_
      cases ts with
      | nil => cases member
      | cons v ts => exact member
    have taken := first.next?_append last
    obtain ⟨b, more, rfl, solid, -⟩ := first.head
    cases fuel with
    | zero => simp at enough
    | succ fuel =>
      have shorter : (bs ++ r).length ≤ fuel := by
        simp only [List.length_append, List.length_cons] at enough ⊢
        omega
      obtain ⟨left, enough', scanned⟩ := ih apart.2 later (t :: done) shorter
      refine ⟨left, enough', ?_⟩
      rw [List.append_assoc]
      rw [List.cons_append] at taken ⊢
      rw [scanOnto, if_neg (by simp [solid])]
      simp only [taken, scanned, List.reverse_cons, List.append_assoc, List.singleton_append]

theorem Laid.scan_eq (h : Laid ts bs) (apart : Apart ts) : scan bs = some ts := by
  have enough : (bs ++ []).length ≤ bs.length := by simp
  obtain ⟨left, -, scanned⟩ := h.scanOnto_append (r := []) apart (fun _ _ _ => trivial) [] enough
  rw [List.append_nil, List.append_nil] at scanned
  rw [scan, scanned, scanOnto, List.reverse_reverse]

theorem scanOnto_eq_some {done all : List Token} {fuel : Nat} (h : scanOnto done fuel bs = some all) :
    ∃ more, all = done.reverse ++ more ∧ (more = [] → ∀ b ∈ bs, isBlank b = true) := by
  induction fuel generalizing done bs with
  | zero =>
    cases bs with
    | nil => exact ⟨[], by simpa [scanOnto] using h.symm, fun _ => by simp⟩
    | cons b bs => cases h
  | succ fuel ih =>
    cases bs with
    | nil => exact ⟨[], by simpa [scanOnto] using h.symm, fun _ => by simp⟩
    | cons b bs =>
      rw [scanOnto] at h
      split at h
      case isTrue blank =>
        obtain ⟨more, rfl, blanks⟩ := ih h
        exact ⟨more, rfl, fun none => List.forall_mem_cons.2 ⟨blank, blanks none⟩⟩
      case isFalse =>
        split at h
        case h_2 => cases h
        case h_1 t r taken =>
          obtain ⟨more, rfl, -⟩ := ih h
          exact ⟨t :: more, by simp, fun none => by cases none⟩

end Scanning

end Token

end TitleDock.Json
