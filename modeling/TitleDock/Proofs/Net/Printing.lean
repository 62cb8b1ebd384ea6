import TitleDock.Net.Socket
import TitleDock.Proofs.Net.Literal

/-! How addresses are printed. An IPv6 address that holds an IPv4 address shows it. Any other has
its groups in hexadecimal, and the first of its longest runs of zero groups gives way to a double
colon if it has two groups at least. What is printed is read back, with a port and a scope behind it
or without. -/

namespace TitleDock

namespace Ipv6

/-- Between what stands in front and behind, a run of zero groups that is as long as any other, and
the first of its length. -/
def IsFirstLongest (front : List UInt16) (n : Nat) (back : List UInt16) : Prop :=
  ∀ front' n' back', front ++ List.replicate n 0 ++ back = front' ++ List.replicate n' 0 ++ back' →
    n' ≤ n ∧ (n' = n → front.length ≤ front'.length)

theorem le_length_takeWhile (n : Nat) (back : List UInt16) :
    n ≤ ((List.replicate n 0 ++ back).takeWhile (· = 0)).length := by
  rw [List.takeWhile_append_of_pos (by simp), List.length_append, List.length_replicate]
  exact Nat.le_add_right _ _

theorem zeroRun_eq (gs : List UInt16) : ∃ front n back,
    gs = front ++ List.replicate n 0 ++ back ∧ zeroRun gs = (front.length, n) ∧
      IsFirstLongest front n back := by
  induction gs with
  | nil =>
    refine ⟨[], 0, [], rfl, rfl, fun front n back same => ?_⟩
    simp_all
  | cons g r ih =>
    obtain ⟨front, n, back, rfl, run, longest⟩ := ih
    let r := front ++ List.replicate n 0 ++ back
    let here := ((g :: r).takeWhile (· = 0)).length
    have first (m : Nat) (rest : List UInt16) (same : g :: r = List.replicate m 0 ++ rest) :
        m ≤ here := by
      have := le_length_takeWhile m rest
      rwa [← same] at this
    have step : zeroRun (g :: r) = if n ≤ here then (0, here) else (front.length + 1, n) := by
      rw [zeroRun, run]
    by_cases le : n ≤ here
    · have zeros : (g :: r).takeWhile (· = 0) = List.replicate here 0 :=
        List.eq_replicate_iff.2 ⟨rfl, fun b member => by
          simpa using List.all_eq_true.1 List.all_takeWhile b member⟩
      refine ⟨[], here, (g :: r).dropWhile (· = 0), ?_, by rw [step, if_pos le]; rfl, ?_⟩
      · rw [List.nil_append, ← zeros, List.takeWhile_append_dropWhile]
      · intro front' n' back' same
        rw [List.nil_append, ← zeros, List.takeWhile_append_dropWhile] at same
        refine ⟨?_, fun _ => Nat.zero_le _⟩
        cases front' with
        | nil => exact first n' back' same
        | cons g' front' => exact Nat.le_trans (longest front' n' back' (List.cons.inj same).2).1 le
    · refine ⟨g :: front, n, back, rfl, by rw [step, if_neg le]; rfl, ?_⟩
      intro front' n' back' same
      cases front' with
      | nil =>
        have := first n' back' same
        omega
      | cons g' front' =>
        obtain ⟨most, before⟩ := longest front' n' back' (List.cons.inj same).2
        exact ⟨most, fun whole => Nat.succ_le_succ (before whole)⟩

/-- The text that an address is printed as. -/
inductive IsPrinted (ip : Ipv6) : List Char → Prop
  | mapped (v4 : Ipv4) (groups : ip.groups = [0, 0, 0, 0, 0, 0xFFFF] ++ v4.groups) :
      IsPrinted ip ("::ffff:".toList ++ v4.text)
  | full (unmapped : ∀ v4 : Ipv4, ip.groups ≠ [0, 0, 0, 0, 0, 0xFFFF] ++ v4.groups)
      (apart : ∀ front back, ip.groups ≠ front ++ [0, 0] ++ back) : IsPrinted ip (joinGroups ip.groups)
  | short {front : List UInt16} {n : Nat} {back : List UInt16}
      (unmapped : ∀ v4 : Ipv4, ip.groups ≠ [0, 0, 0, 0, 0, 0xFFFF] ++ v4.groups)
      (groups : ip.groups = front ++ List.replicate n 0 ++ back) (two : 2 ≤ n)
      (longest : IsFirstLongest front n back) :
      IsPrinted ip (joinGroups front ++ ':' :: ':' :: joinGroups back)

section Printing

variable {ip : Ipv6} {cs : List Char}

theorem groups_ofGroups (high low : UInt16) : (Ipv4.ofGroups high low).groups = [high, low] := by
  have whole (g : UInt16) : (g.toNat / 256 % 256 * 256 + g.toNat % 256).toUInt16 = g := by
    have small : g.toNat < 65536 := g.toNat_lt
    have same : g.toNat / 256 % 256 * 256 + g.toNat % 256 = g.toNat := by omega
    rw [same]
    exact UInt16.ofNat_toNat
  simp [Ipv4.groups, Ipv4.ofGroups, whole]

theorem mapped?_cases (ip : Ipv6) :
    (∃ v4 : Ipv4, ip.mapped? = some v4 ∧ ip.groups = [0, 0, 0, 0, 0, 0xFFFF] ++ v4.groups) ∨
      ip.mapped? = none ∧ ∀ v4 : Ipv4, ip.groups ≠ [0, 0, 0, 0, 0, 0xFFFF] ++ v4.groups := by
  rw [mapped?]
  split
  case h_1 high low same =>
    exact .inl ⟨_, rfl, by rw [same, groups_ofGroups]; rfl⟩
  case h_2 other =>
    exact .inr ⟨rfl, fun v4 same => other _ _ same⟩

theorem isPrinted_text (ip : Ipv6) : ip.IsPrinted ip.text := by
  rw [text]
  obtain ⟨v4, held, groups⟩ | ⟨none, unmapped⟩ := mapped?_cases ip
  · rw [held]
    exact .mapped v4 groups
  · obtain ⟨front, n, back, groups, run, longest⟩ := zeroRun_eq ip.groups
    rw [none]
    simp only [groupText, run]
    split
    case isTrue few =>
      refine .full unmapped fun front' back' same => ?_
      have := (longest front' 2 back' (groups.symm.trans same)).1
      omega
    case isFalse some =>
      have before : ip.groups.take front.length = front := by
        rw [groups, List.append_assoc, List.take_left]
      have behind : ip.groups.drop (front.length + n) = back := by
        rw [groups]
        exact List.drop_left' (by simp)
      rw [before, behind]
      exact .short unmapped groups (by omega) longest

theorem isGroup_hexDigits (g : UInt16) : IsGroup (Decimal.hexDigits g.toNat) g :=
  ⟨(Nat.length_toDigits_le_iff (by decide) (by decide)).2 g.toNat_lt,
    Decimal.natural?_toDigits (by decide) (by decide) _⟩

theorem row_joinGroups {gs : List UInt16} (some : gs ≠ []) : Row gs false (joinGroups gs) := by
  induction gs with
  | nil => exact absurd rfl some
  | cons g gs ih =>
    cases gs with
    | nil => exact .group (isGroup_hexDigits g)
    | cons g' gs => exact .cons (isGroup_hexDigits g) (ih (List.cons_ne_nil _ _))

theorem side_joinGroups (gs : List UInt16) : Side gs false (joinGroups gs) := by
  by_cases none : gs = []
  · rw [none]
    exact .empty
  · exact .row (row_joinGroups none)

theorem IsPrinted.isText (h : ip.IsPrinted cs) : ip.IsText cs := by
  have length := ip.length_groups
  cases h with
  | mapped v4 groups =>
    have group : IsGroup ['f', 'f', 'f', 'f'] 0xFFFF := ⟨by decide, by decide⟩
    exact .short .empty (.row (.cons group (.dotted v4))) (by simp [Ipv4.groups]) groups
  | full => exact .full (row_joinGroups fun none => by simp [none] at length)
  | @short front n back _ groups two =>
    rw [groups, List.length_append, List.length_append, List.length_replicate] at length
    have zeros : 8 - front.length - back.length = n := by omega
    exact .short (side_joinGroups front) (side_joinGroups back) (by omega) (by rw [zeros, groups])

end Printing

end Ipv6

namespace IpAddress

def IsPrinted : IpAddress → List Char → Prop
  | .v4 ip, cs => cs = ['.'].intercalate ([ip.a, ip.b, ip.c, ip.d].map (Decimal.digits ·.toNat))
  | .v6 ip, cs => ip.IsPrinted cs

theorem isPrinted_text (ip : IpAddress) : ip.IsPrinted ip.text := by
  cases ip with
  | v4 ip => simp [IsPrinted, text, Ipv4.text, List.intercalate]
  | v6 ip => exact ip.isPrinted_text

theorem isText_text (ip : IpAddress) : ip.IsText ip.text := by
  cases ip with
  | v4 ip => rfl
  | v6 ip => exact ip.isPrinted_text.isText

theorem ofText?_text (ip : IpAddress) : ofText? ip.text = some ip :=
  ofText?_eq_some_iff.2 ip.isText_text

end IpAddress

namespace SocketAddress

section Reading

variable {r : List Char}

theorem endsText_of_head {c : Char}
    (other : (Decimal.digit? 16 c).isSome = false ∧ c ≠ '.' ∧ c ≠ ':') : Ipv6.EndsText (c :: r) := by
  intro d head
  obtain rfl := Option.some.inj head
  exact ⟨by simp [Ipv6.IsHex, other.1], other.2⟩

theorem ofText?_of_head {cs : List Char} (bare : cs.head? ≠ some '[') :
    ofText? cs = (Ipv4.take? cs).bind fun (ip, r) => (port? r).map (.v4 ip) := by
  unfold ofText?
  split
  case h_1 => simp at bare
  case h_2 =>
    cases Ipv4.take? cs with
    | none => rfl
    | some read => exact Option.map_eq_bind.symm

theorem head?_ne_of_take? {cs : List Char} {x : Ipv4 × List Char} (read : Ipv4.take? cs = some x) :
    cs.head? ≠ some '[' := by
  intro head
  obtain ⟨r, rfl⟩ := List.head?_eq_some_iff.1 head
  cases read

theorem number?_digits {most n : Nat} (le : n ≤ most) : number? most (Decimal.digits n) = some n := by
  rw [number?, Decimal.natural?_digits, Option.filter_some, if_pos (by simpa using le)]

theorem port?_text (port : UInt16) : port? (':' :: Decimal.digits port.toNat) = some port := by
  have small : port.toNat ≤ Decimal.largest16 := Nat.le_of_lt_succ port.toNat_lt
  rw [port?, number?_digits small, Option.map_some]
  exact congrArg some UInt16.ofNat_toNat

theorem scopeAndPort?_port (port : UInt16) :
    scopeAndPort? (']' :: ':' :: Decimal.digits port.toNat) = some (0, port) := by
  rw [scopeAndPort?, port?_text, Option.map_some]

theorem scopeAndPort?_scope (scope : UInt32) (port : UInt16) :
    scopeAndPort? ('%' :: (Decimal.digits scope.toNat ++ ']' :: ':' :: Decimal.digits port.toNat)) =
      some (scope, port) := by
  have small : scope.toNat ≤ Decimal.largest32 := Nat.le_of_lt_succ scope.toNat_lt
  have value : scope.toNat.toUInt32 = scope := UInt32.ofNat_toNat
  obtain ⟨taken, left⟩ := Text.span_append (p := (· ≠ ']'))
    (l := Decimal.digits scope.toNat) (r := ']' :: ':' :: Decimal.digits port.toNat)
    (fun c member => by
      have digit := Decimal.isDigit_of_mem_digits member
      simpa using fun same : c = ']' => by simp [same] at digit)
    (by simp)
  rw [scopeAndPort?, taken, left, number?_digits small]
  simp [port?_text, value]

theorem ofText?_text (a : SocketAddress) : ofText? a.text = some a := by
  cases a with
  | v4 ip port =>
    have read : Ipv4.take? (text (.v4 ip port)) = some (ip, ':' :: Decimal.digits port.toNat) := by
      refine Ipv4.take?_eq_some_iff.2 ⟨rfl, fun c head => ?_⟩
      obtain rfl := Option.some.inj head
      decide
    rw [ofText?_of_head (head?_ne_of_take? read), read]
    simp [port?_text]
  | v6 ip port scope =>
    have literal := ip.isPrinted_text.isText
    by_cases none : scope = 0
    · have read := literal.take?_append (r := ']' :: ':' :: Decimal.digits port.toNat)
        (endsText_of_head (by decide))
      simp [text, none, ofText?, read, scopeAndPort?_port]
    · have read := literal.take?_append
        (r := '%' :: (Decimal.digits scope.toNat ++ ']' :: ':' :: Decimal.digits port.toNat))
        (endsText_of_head (by decide))
      simp [text, none, ofText?, read, scopeAndPort?_scope]

theorem text_injective {a b : SocketAddress} (h : a.text = b.text) : a = b := by
  have read := ofText?_text a
  rw [h, ofText?_text] at read
  exact (Option.some.inj read).symm

theorem ofText?_literal (ip : IpAddress) : ofText? ip.text = none := by
  cases ip with
  | v4 ip =>
    have read : Ipv4.take? ip.text = some (ip, []) :=
      Ipv4.take?_eq_some_iff.2 ⟨(List.append_nil _).symm, by simp [Ipv4.EndsOctet]⟩
    rw [IpAddress.text, ofText?_of_head (head?_ne_of_take? read), read]
    rfl
  | v6 ip =>
    have literal := ip.isPrinted_text.isText
    have bare : ip.text.head? ≠ some '[' := by
      obtain ⟨run, r, same, hex⟩ := literal.colon
      rw [same]
      cases run with
      | nil => simp
      | cons c run =>
        have hex := hex c List.mem_cons_self
        rintro head
        obtain rfl := Option.some.inj head
        exact absurd hex (by rw [Ipv6.IsHex]; decide)
    rw [IpAddress.text, ofText?_of_head bare, literal.take?_v4]
    rfl

end Reading

end SocketAddress

end TitleDock
