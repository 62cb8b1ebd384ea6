import Mathlib.Algebra.Group.Nat.Defs
import Mathlib.Data.List.Induction
import Mathlib.Data.Nat.Basic
import TitleDock.Text.Decimal

/-! Numbers read back from the digits that were written for them, in any radix up to sixteen. A
written number has digits only, and none of them is a zero in front of others; among the decimal
texts that are read as a number it is the only one of this form. -/

namespace TitleDock.Decimal

theorem digit?_digitChar {radix d : Nat} (small : radix ≤ 16) (h : d < radix) :
    digit? radix d.digitChar = some d := by
  have value (e : Fin 16) : digit? 16 e.val.digitChar = some e.val := by
    revert e
    decide
  have most := value ⟨d, by omega⟩
  rw [digit?, Option.filter_eq_some_iff] at most
  rw [digit?, Option.filter_eq_some_iff]
  exact ⟨most.1, by simpa using h⟩

theorem onto_append (radix acc : Nat) (cs ds : List Char) :
    onto radix acc (cs ++ ds) = (onto radix acc cs).bind (onto radix · ds) := by
  induction cs generalizing acc with
  | nil => rfl
  | cons c cs ih =>
    rw [List.cons_append, onto, onto]
    cases digit? radix c with
    | none => rfl
    | some d => exact ih _

section Digits

variable {radix : Nat}

theorem onto_toDigits (two : 1 < radix) (small : radix ≤ 16) (n : Nat) :
    onto radix 0 (Nat.toDigits radix n) = some n := by
  induction n using Nat.strongRecOn with
  | ind n ih =>
    by_cases single : n < radix
    · rw [Nat.toDigits_of_lt_base single, onto, digit?_digitChar small single]
      simp [onto]
    · have last : n % radix < radix := Nat.mod_lt _ (by omega)
      rw [Nat.toDigits_of_base_le two (by omega), onto_append,
        ih _ (Nat.div_lt_self (by omega) two), Option.bind_some, onto, digit?_digitChar small last]
      simp [onto, Nat.div_add_mod']

theorem natural?_toDigits (two : 1 < radix) (small : radix ≤ 16) (n : Nat) :
    natural? radix (Nat.toDigits radix n) = some n := by
  have read := onto_toDigits two small n
  cases written : Nat.toDigits radix n with
  | nil => exact absurd written Nat.toDigits_ne_nil
  | cons c cs => rwa [written] at read

theorem exists_digitChar_of_mem {n : Nat} {c : Char} (two : 1 < radix)
    (h : c ∈ Nat.toDigits radix n) : ∃ d < radix, c = d.digitChar := by
  induction n using Nat.strongRecOn with
  | ind n ih =>
    by_cases single : n < radix
    · rw [Nat.toDigits_of_lt_base single] at h
      exact ⟨n, single, List.mem_singleton.1 h⟩
    · rw [Nat.toDigits_of_base_le two (by omega)] at h
      obtain early | last := List.mem_append.1 h
      · exact ih _ (Nat.div_lt_self (by omega) two) early
      · exact ⟨n % radix, Nat.mod_lt _ (by omega), List.mem_singleton.1 last⟩

end Digits

@[simp] theorem natural?_digits (n : Nat) : natural? 10 (digits n) = some n :=
  natural?_toDigits (by decide) (by decide) n

theorem isDigit_of_mem_digits {n : Nat} {c : Char} (h : c ∈ digits n) : c.isDigit = true :=
  Nat.isDigit_of_mem_toDigits (b := 10) (by decide) (by decide) h

theorem digits_eq (n : Nat) : digits n = ['0'] ∨ ∃ c r, digits n = c :: r ∧ c ≠ '0' := by
  induction n using Nat.strongRecOn with
  | ind n ih =>
    rw [digits]
    by_cases single : n < 10
    · rw [Nat.toDigits_of_lt_base single]
      by_cases zero : n = 0
      · exact .inl (by rw [zero]; rfl)
      · refine .inr ⟨_, _, rfl, fun same => zero ?_⟩
        have value : digit? 10 n.digitChar = some n := digit?_digitChar (by decide) single
        rw [same] at value
        exact (Option.some.inj value).symm
    · rw [Nat.toDigits_of_base_le (by decide) (by omega)]
      obtain zero | ⟨c, r, written, other⟩ := ih (n / 10) (Nat.div_lt_self (by omega) (by decide))
      · have nothing : natural? 10 (digits (n / 10)) = some 0 := by rw [zero]; rfl
        rw [natural?_digits, Option.some.injEq] at nothing
        omega
      · rw [digits] at written
        rw [written]
        exact .inr ⟨_, _, rfl, other⟩

theorem isDigit_iff {c : Char} : c.isDigit = true ↔ '0' ≤ c ∧ c ≤ '9' := by
  rw [Char.isDigit, Bool.and_eq_true, decide_eq_true_iff, decide_eq_true_iff]
  exact Iff.rfl

theorem digit?_ten {c : Char} {d : Nat} :
    digit? 10 c = some d ↔ c.isDigit = true ∧ c.toNat - '0'.toNat = d := by
  rw [isDigit_iff, digit?, Option.filter_eq_some_iff]
  split_ifs with digit lower upper
  · have most : c.toNat ≤ '9'.toNat := digit.2
    have small : c.toNat - '0'.toNat < 10 := by
      simp at most ⊢
      omega
    constructor
    · rintro ⟨value, -⟩
      exact ⟨digit, Option.some.inj value⟩
    · rintro ⟨-, rfl⟩
      exact ⟨rfl, by simpa using small⟩
  · -- a letter counts for ten at least
    refine iff_of_false ?_ fun h => digit h.1
    rintro ⟨value, small⟩
    have value := Option.some.inj value
    simp at small
    omega
  · refine iff_of_false ?_ fun h => digit h.1
    rintro ⟨value, small⟩
    have value := Option.some.inj value
    simp at small
    omega
  · simp [digit]

theorem onto_ten {acc n : Nat} {cs : List Char} :
    onto 10 acc cs = some n ↔ (∀ c ∈ cs, c.isDigit = true) ∧ Nat.ofDigitChars 10 cs acc = n := by
  induction cs generalizing acc with
  | nil => simp [onto, Nat.ofDigitChars]
  | cons c cs ih =>
    simp only [onto, Option.bind_eq_bind, Option.bind_eq_some_iff, digit?_ten, ih,
      List.forall_mem_cons]
    constructor
    · rintro ⟨d, ⟨digit, rfl⟩, all, value⟩
      refine ⟨⟨digit, all⟩, ?_⟩
      rw [← value, Nat.ofDigitChars, List.foldl_cons, Nat.mul_comm acc]
      rfl
    · rintro ⟨⟨digit, all⟩, value⟩
      refine ⟨_, ⟨digit, rfl⟩, all, ?_⟩
      rw [← value, Nat.ofDigitChars, Nat.ofDigitChars, List.foldl_cons, Nat.mul_comm acc]

theorem natural?_ten {n : Nat} {cs : List Char} : natural? 10 cs = some n ↔
    cs ≠ [] ∧ (∀ c ∈ cs, c.isDigit = true) ∧ Nat.ofDigitChars 10 cs 0 = n := by
  cases cs with
  | nil => simp [natural?]
  | cons c cs => simp [natural?, onto_ten]

theorem unsigned?_eq_some_iff {most n : Nat} {cs : List Char} : unsigned? most cs = some n ↔
    n ≤ most ∧ ∃ sign ds, cs = sign ++ ds ∧ (sign = [] ∨ sign = ['+']) ∧ ds ≠ [] ∧
      (∀ c ∈ ds, c.isDigit = true) ∧ Nat.ofDigitChars 10 ds 0 = n := by
  rw [unsigned?.eq_def, Option.filter_eq_some_iff, decide_eq_true_iff, and_comm, and_congr_right_iff,
    natural?_ten]
  intro _
  split
  case h_1 ds =>
    constructor
    · rintro ⟨some, digits, value⟩
      exact ⟨['+'], ds, rfl, .inr rfl, some, digits, value⟩
    · rintro ⟨sign, ds', same, rfl | rfl, some, digits, value⟩
      · -- a plus sign is not a digit
        obtain rfl : '+' :: ds = ds' := same
        cases digits '+' List.mem_cons_self
      · cases same
        exact ⟨some, digits, value⟩
  case h_2 unsigned =>
    constructor
    · rintro ⟨some, digits, value⟩
      exact ⟨[], cs, rfl, .inl rfl, some, digits, value⟩
    · rintro ⟨sign, ds, rfl, rfl | rfl, some, digits, value⟩
      · exact ⟨some, digits, value⟩
      · exact absurd rfl (unsigned ds)

theorem exists_digitChar {c : Char} (h : c.isDigit = true) :
    ∃ d < 10, c = d.digitChar ∧ c.toNat - '0'.toNat = d := by
  obtain ⟨least, most⟩ : 48 ≤ c.toNat ∧ c.toNat ≤ 57 := isDigit_iff.1 h
  have small : c.toNat - '0'.toNat < 10 := by
    show c.toNat - 48 < 10
    omega
  refine ⟨_, small, Char.toNat_inj.1 ?_, rfl⟩
  rw [Nat.toNat_digitChar_of_lt_ten small]
  show c.toNat = 48 + (c.toNat - 48)
  omega

theorem eq_digits_of_natural? {cs : List Char} {n : Nat} (h : natural? 10 cs = some n)
    (lead : cs.head? = some '0' → cs.length = 1) : cs = digits n := by
  obtain ⟨some, all, value⟩ := natural?_ten.1 h
  clear h
  induction cs using List.reverseRecOn generalizing n with
  | nil => exact absurd rfl some
  | append_singleton cs c ih =>
    obtain ⟨early, last⟩ := List.forall_mem_append.1 all
    obtain ⟨d, small, rfl, value'⟩ := exists_digitChar (last c List.mem_cons_self)
    rw [Nat.ofDigitChars_append] at value
    have total : 10 * Nat.ofDigitChars 10 cs 0 + d = n := by
      rw [← value]
      exact congrArg (10 * Nat.ofDigitChars 10 cs 0 + ·) value'.symm
    by_cases alone : cs = []
    · subst alone
      have same : n = d := by
        rw [← total]
        exact Nat.zero_add d
      rw [same, digits, Nat.toDigits_of_lt_base small]
      rfl
    · have first : (cs ++ [d.digitChar]).head? = cs.head? := by
        cases cs with
        | nil => exact absurd rfl alone
        | cons => rfl
      have other : cs.head? ≠ Option.some '0' := fun zero => by
        have short := lead (first.trans zero)
        simp [alone] at short
      have written := ih (fun zero => absurd zero other) alone early rfl
      have positive : Nat.ofDigitChars 10 cs 0 ≠ 0 := fun zero => by
        rw [zero] at written
        exact other (by rw [written]; rfl)
      have high : n / 10 = Nat.ofDigitChars 10 cs 0 := by omega
      have low : n % 10 = d := by omega
      rw [digits, Nat.toDigits_of_base_le (by decide) (by omega), high, low, ← digits, ← written]

theorem onto_eq_some {radix acc n : Nat} {cs : List Char} (h : onto radix acc cs = some n) :
    (∀ c ∈ cs, (digit? radix c).isSome = true) ∧ n < (acc + 1) * radix ^ cs.length := by
  induction cs generalizing acc with
  | nil =>
    obtain rfl : acc = n := Option.some.inj h
    exact ⟨by simp, by simp⟩
  | cons c cs ih =>
    rw [onto] at h
    obtain ⟨d, digit, rest⟩ := Option.bind_eq_some_iff.1 h
    obtain ⟨all, bound⟩ := ih rest
    have small : d < radix := by
      rw [digit?, Option.filter_eq_some_iff] at digit
      simpa using digit.2
    refine ⟨List.forall_mem_cons.2 ⟨by simp [digit], all⟩, Nat.lt_of_lt_of_le bound ?_⟩
    rw [List.length_cons, Nat.pow_succ', ← Nat.mul_assoc]
    refine Nat.mul_le_mul_right _ ?_
    rw [Nat.add_mul]
    omega

theorem range_of_digit? {radix : Nat} {c : Char} (h : (digit? radix c).isSome = true) :
    '0' ≤ c ∧ c ≤ 'z' := by
  obtain ⟨d, value⟩ := Option.isSome_iff_exists.1 h
  rw [digit?, Option.filter_eq_some_iff] at value
  replace value := value.1
  split_ifs at value with digit lower upper
  · exact ⟨digit.1, Char.le_trans digit.2 (by decide)⟩
  · exact ⟨Char.le_trans (by decide) lower.1, lower.2⟩
  · exact ⟨Char.le_trans (by decide) upper.1, Char.le_trans upper.2 (by decide)⟩

theorem isSome_digit?_ten (c : Char) : (digit? 10 c).isSome = c.isDigit := by
  rw [Bool.eq_iff_iff, Option.isSome_iff_exists]
  simp [digit?_ten]

end TitleDock.Decimal
