import TitleDock.Net.Ip
import TitleDock.Proofs.Text.Decimal
import TitleDock.Proofs.Text.Pieces

/-! The texts of internet addresses. An IPv4 address has one text. An IPv6 address has many: its
groups may have zeros in front and letters of either case, the last two may be an IPv4 address, and
a double colon may stand for one group or more that are zero. Exactly these texts are read. -/

namespace TitleDock

namespace Ipv4

section Reading

variable {cs r : List Char} {b : UInt8} {ip : Ipv4}

def EndsOctet (r : List Char) : Prop := ∀ c ∈ r.head?, (Decimal.digit? 10 c).isSome = false

theorem octet?_eq_some_iff :
    octet? cs = some (b, r) ↔ cs = Decimal.digits b.toNat ++ r ∧ EndsOctet r := by
  let p := fun c => (Decimal.digit? 10 c).isSome
  constructor
  · intro h
    rw [octet?] at h
    split at h
    case isTrue => cases h
    case isFalse range =>
      split at h
      case h_2 => cases h
      case h_1 n value =>
        split at h
        case isFalse => cases h
        case isTrue small =>
          cases h
          have lead : (cs.takeWhile p).head? = some '0' → (cs.takeWhile p).length = 1 := by
            intro zero
            have some := (Decimal.natural?_ten.1 value).1
            have positive : 0 < (cs.takeWhile p).length := List.length_pos_iff.2 some
            have short : ¬ 1 < (cs.takeWhile p).length := fun long => range (.inr ⟨long, zero⟩)
            omega
          have same : n.toUInt8.toNat = n := by simpa using Nat.mod_eq_of_lt small
          rw [same, ← Decimal.eq_digits_of_natural? value lead]
          exact ⟨List.takeWhile_append_dropWhile.symm, Text.stop_dropWhile p cs⟩
  · rintro ⟨rfl, stop⟩
    have digits : ∀ c ∈ Decimal.digits b.toNat, p c = true := fun c member =>
      (Decimal.isSome_digit?_ten c).trans (Decimal.isDigit_of_mem_digits member)
    obtain ⟨run, rest⟩ := Text.span_append digits stop
    have short : (Decimal.digits b.toNat).length ≤ 3 :=
      (Nat.length_toDigits_le_iff (by decide) (by decide)).2 (Nat.lt_trans b.toNat_lt (by decide))
    have lead : ¬ (1 < (Decimal.digits b.toNat).length ∧ (Decimal.digits b.toNat).head? = some '0') := by
      rintro ⟨long, zero⟩
      obtain single | ⟨c, ds, written, other⟩ := Decimal.digits_eq b.toNat
      · simp [single] at long
      · rw [written] at zero
        exact other (Option.some.inj zero)
    have value : b.toNat.toUInt8 = b := UInt8.ofNat_toNat
    rw [octet?]
    rw [run, rest, if_neg (not_or.2 ⟨Nat.not_lt.2 short, lead⟩), Decimal.natural?_digits]
    simp only [value]
    exact if_pos b.toNat_lt

theorem dot?_eq_some_iff {x : List Char} : dot? cs = some x ↔ cs = '.' :: x := by
  rw [dot?.eq_def]
  split
  · simp
  · rename_i other
    simp only [reduceCtorEq, false_iff]
    exact fun same => other x same

theorem take?_eq_some_iff : take? cs = some (ip, r) ↔ cs = ip.text ++ r ∧ EndsOctet r := by
  simp only [take?, Option.bind_eq_bind, Option.bind_eq_some_iff, dot?_eq_some_iff]
  constructor
  · rintro ⟨⟨a, r1⟩, ha, _, rfl, ⟨b, r2⟩, hb, _, rfl, ⟨c, r3⟩, hc, _, rfl, ⟨d, r4⟩, hd, same⟩
    cases same
    obtain ⟨rfl, -⟩ := octet?_eq_some_iff.1 ha
    obtain ⟨rfl, -⟩ := octet?_eq_some_iff.1 hb
    obtain ⟨rfl, -⟩ := octet?_eq_some_iff.1 hc
    obtain ⟨rfl, stop⟩ := octet?_eq_some_iff.1 hd
    exact ⟨by simp [text], stop⟩
  · rintro ⟨rfl, stop⟩
    have dot (x : List Char) : EndsOctet ('.' :: x) := by
      intro c first
      obtain rfl := Option.some.inj first
      decide
    obtain ⟨a, b, c, d⟩ := ip
    exact ⟨_, octet?_eq_some_iff.2 ⟨by simp [text], dot _⟩, _, rfl,
      _, octet?_eq_some_iff.2 ⟨rfl, dot _⟩, _, rfl, _, octet?_eq_some_iff.2 ⟨rfl, dot _⟩, _, rfl,
      _, octet?_eq_some_iff.2 ⟨rfl, stop⟩, rfl⟩

end Reading

end Ipv4

namespace Ipv6

def IsGroup (run : List Char) (g : UInt16) : Prop :=
  run.length ≤ 4 ∧ Decimal.natural? 16 run = some g.toNat

/-- Groups with colons between them; an IPv4 address may stand for the last two. The flag says that
one does. -/
inductive Row : List UInt16 → Bool → List Char → Prop
  | group {run : List Char} {g : UInt16} (group : IsGroup run g) : Row [g] false run
  | dotted (ip : Ipv4) : Row ip.groups true ip.text
  | cons {run cs : List Char} {g : UInt16} {gs : List UInt16} {dotted : Bool} (group : IsGroup run g)
      (rest : Row gs dotted cs) : Row (g :: gs) dotted (run ++ ':' :: cs)

/-- One side of a double colon, which may be empty. -/
inductive Side : List UInt16 → Bool → List Char → Prop
  | empty : Side [] false []
  | row {gs : List UInt16} {dotted : Bool} {cs : List Char} (row : Row gs dotted cs) : Side gs dotted cs

/-- The texts of an address: all its groups, or two sides with zero groups between them. -/
inductive IsText (ip : Ipv6) : List Char → Prop
  | full {dotted : Bool} {cs : List Char} (row : Row ip.groups dotted cs) : IsText ip cs
  | short {front back : List UInt16} {dotted : Bool} {cs ds : List Char} (left : Side front false cs)
      (right : Side back dotted ds) (room : front.length + back.length ≤ 7)
      (groups : ip.groups = front ++ List.replicate (8 - front.length - back.length) 0 ++ back) :
      IsText ip (cs ++ ':' :: ':' :: ds)

section Reading

variable {cs r run : List Char} {g : UInt16} {gs : List UInt16} {dotted first : Bool} {ip : Ipv6}

def IsHex (c : Char) : Prop := (Decimal.digit? 16 c).isSome = true

def EndsGroup (r : List Char) : Prop := ∀ c ∈ r.head?, ¬ IsHex c ∧ c ≠ '.'

theorem isHex_of_isDigit {c : Char} (h : c.isDigit = true) : IsHex c := by
  obtain ⟨d, small, rfl, -⟩ := Decimal.exists_digitChar h
  have value : Decimal.digit? 16 d.digitChar = some d :=
    Decimal.digit?_digitChar (by decide) (Nat.lt_trans small (by decide))
  rw [IsHex, value]
  rfl

theorem endsGroup_colon (r : List Char) : EndsGroup (':' :: r) := by
  intro c head
  obtain rfl := Option.some.inj head
  exact ⟨by rw [IsHex]; decide, by decide⟩

def EndsText (r : List Char) : Prop := ∀ c ∈ r.head?, ¬ IsHex c ∧ c ≠ '.' ∧ c ≠ ':'

/-- What may stand behind a row of groups: the end of the address, or a double colon unless the row
ended with an IPv4 address. -/
def Stops (dotted : Bool) (r : List Char) : Prop :=
  EndsText r ∨ dotted = false ∧ ∃ x, r = ':' :: ':' :: x

theorem Stops.endsGroup (h : Stops dotted r) : EndsGroup r := by
  obtain ends | ⟨-, x, rfl⟩ := h
  · exact fun c head => ⟨(ends c head).1, (ends c head).2.1⟩
  · exact endsGroup_colon _

theorem EndsText.endsOctet (h : EndsText r) : Ipv4.EndsOctet r := by
  intro c head
  rw [Decimal.isSome_digit?_ten, Bool.eq_false_iff]
  exact fun digit => (h c head).1 (isHex_of_isDigit digit)

theorem IsGroup.isHex (h : IsGroup run g) : run ≠ [] ∧ ∀ c ∈ run, IsHex c := by
  obtain ⟨-, value⟩ := h
  cases run with
  | nil => cases value
  | cons c run => exact ⟨List.cons_ne_nil _ _, (Decimal.onto_eq_some value).1⟩

theorem take?_v4_eq_none (hex : ∀ c ∈ run, IsHex c) (ends : EndsGroup r) :
    Ipv4.take? (run ++ r) = none := by
  by_contra some
  obtain ⟨⟨ip, x⟩, read⟩ := Option.ne_none_iff_exists'.1 some
  obtain ⟨same, -⟩ := Ipv4.take?_eq_some_iff.1 read
  have digits : ∀ c ∈ Decimal.digits ip.a.toNat, (Decimal.digit? 16 c).isSome = true :=
    fun c member => isHex_of_isDigit (Decimal.isDigit_of_mem_digits member)
  have left := (Text.span_append hex fun c head => by simpa [IsHex] using (ends c head).1).2
  have right (y : List Char) : (Decimal.digits ip.a.toNat ++ '.' :: y).dropWhile
      (fun c => (Decimal.digit? 16 c).isSome) = '.' :: y :=
    (Text.span_append digits fun c head => by
      obtain rfl := Option.some.inj head
      decide).2
  rw [same, Ipv4.text] at left
  simp only [List.append_assoc, List.cons_append, right] at left
  exact (ends '.' (by rw [← left]; rfl)).2 rfl

theorem take?_v4_of_ends (ends : EndsGroup r) : Ipv4.take? r = none :=
  take?_v4_eq_none (List.forall_mem_nil _) ends

theorem group?_eq_some_iff : group? cs = some (g, r) ↔
    ∃ run, cs = run ++ r ∧ IsGroup run g ∧ ∀ c ∈ r.head?, ¬ IsHex c := by
  let p := fun c => (Decimal.digit? 16 c).isSome
  have other (c : Char) : p c = false ↔ ¬ IsHex c := by simp [p, IsHex]
  constructor
  · intro h
    rw [group?] at h
    split at h
    case isTrue => cases h
    case isFalse short =>
      obtain ⟨n, value, same⟩ := Option.map_eq_some_iff.1 h
      cases same
      have length : (cs.takeWhile p).length ≤ 4 := Nat.not_lt.1 short
      have small : n < 65536 := by
        have bound : n < 16 ^ (cs.takeWhile p).length := by
          cases run : cs.takeWhile p with
          | nil =>
            simp only [p] at run
            rw [run] at value
            cases value
          | cons c ds =>
            simp only [p] at run
            rw [run] at value
            simpa using (Decimal.onto_eq_some value).2
        exact Nat.lt_of_lt_of_le bound (Nat.pow_le_pow_right (by decide) length)
      have same : n.toUInt16.toNat = n := by simpa using Nat.mod_eq_of_lt small
      refine ⟨cs.takeWhile p, List.takeWhile_append_dropWhile.symm, ⟨length, ?_⟩, fun c head => ?_⟩
      · rw [same]
        exact value
      · exact (other c).1 (Text.stop_dropWhile p cs c head)
  · rintro ⟨run, rfl, group, stop⟩
    obtain ⟨taken, left⟩ := Text.span_append (p := p) group.isHex.2 fun c head => (other c).2 (stop c head)
    have value : g.toNat.toUInt16 = g := UInt16.ofNat_toNat
    rw [group?]
    simp only [p] at taken left
    rw [taken, left, if_neg (Nat.not_lt.2 group.1), group.2, Option.map_some, value]

theorem colon?_eq_some_iff {x : List Char} : colon? cs = some x ↔ cs = ':' :: x := by
  rw [colon?.eq_def]
  split
  · simp
  · rename_i other
    simp only [reduceCtorEq, false_iff]
    exact fun same => other x same

theorem group?_of_ends (ends : EndsGroup r) : group? r = none := by
  by_contra some
  obtain ⟨⟨g, x⟩, read⟩ := Option.ne_none_iff_exists'.1 some
  obtain ⟨run, rfl, group, -⟩ := group?_eq_some_iff.1 read
  obtain ⟨some, hex⟩ := group.isHex
  cases run with
  | nil => exact some rfl
  | cons c run => exact (ends c rfl).1 (hex c List.mem_cons_self)

def start (first : Bool) (cs : List Char) : List Char :=
  if first then cs else ':' :: cs

theorem start_append (first : Bool) (cs r : List Char) : start first cs ++ r = start first (cs ++ r) := by
  cases first <;> rfl

section Groups

variable {body : List Char} {room : Nat}

theorem takeGroups_of_no_group (v4 : Ipv4.take? body = none) (none : group? body = none) (room : Nat) :
    takeGroups first room (start first body) = ([], false, start first body) := by
  cases room with
  | zero => rfl
  | succ room => cases first <;> simp [takeGroups, start, colon?, v4, none]

theorem takeGroups_of_group (v4 : Ipv4.take? body = none) (some : group? body = .some (g, r)) :
    takeGroups first (room + 1) (start first body) =
      (g :: (takeGroups false room r).1, (takeGroups false room r).2) := by
  cases first <;> simp [takeGroups, start, colon?, v4, some]

theorem takeGroups_of_v4 {v4 : Ipv4} (some : Ipv4.take? body = .some (v4, r)) :
    takeGroups first (room + 2) (start first body) = (v4.groups, true, r) := by
  cases first <;> simp [takeGroups, start, colon?, some]

theorem takeGroups_stop (room : Nat) (stop : Stops dotted r) :
    takeGroups false room r = ([], false, r) := by
  obtain ends | ⟨-, x, rfl⟩ := stop
  · have none : colon? r = none := by
      by_contra some
      obtain ⟨x, read⟩ := Option.ne_none_iff_exists'.1 some
      obtain rfl := colon?_eq_some_iff.1 read
      exact (ends ':' rfl).2.2 rfl
    cases room <;> simp [takeGroups, none]
  · have ends : EndsGroup (':' :: x) := endsGroup_colon x
    exact takeGroups_of_no_group (take?_v4_of_ends ends) (group?_of_ends ends) room

theorem Row.takeGroups_eq (h : Row gs dotted cs) (first : Bool) {room : Nat} (fits : gs.length ≤ room)
    (stop : Stops dotted r) :
    takeGroups first room (start first cs ++ r) = (gs, dotted, r) := by
  rw [start_append]
  induction h generalizing first room with
  | @group run g group =>
    obtain ⟨room, rfl⟩ : ∃ k, room = k + 1 := Nat.exists_eq_add_of_le' fits
    have ends := stop.endsGroup
    have read := group?_eq_some_iff.2 ⟨run, rfl, group, fun c head => (ends c head).1⟩
    rw [takeGroups_of_group (take?_v4_eq_none group.isHex.2 ends) read, takeGroups_stop room stop]
  | dotted ip =>
    obtain ⟨room, rfl⟩ : ∃ k, room = k + 2 := Nat.exists_eq_add_of_le' fits
    have ends : EndsText r := stop.resolve_right (by simp)
    exact takeGroups_of_v4 (Ipv4.take?_eq_some_iff.2 ⟨rfl, ends.endsOctet⟩)
  | @cons run cs g gs dotted group rest ih =>
    obtain ⟨room, rfl⟩ : ∃ k, room = k + 1 := Nat.exists_eq_add_of_le' (Nat.le_trans (by simp) fits)
    have ends : EndsGroup (':' :: (cs ++ r)) := endsGroup_colon _
    have read := group?_eq_some_iff.2 ⟨run, rfl, group, fun c head => (ends c head).1⟩
    have later : takeGroups false room (':' :: (cs ++ r)) = (gs, dotted, r) :=
      ih false (by simpa using fits) stop
    rw [List.append_assoc, List.cons_append,
      takeGroups_of_group (take?_v4_eq_none group.isHex.2 ends) read, later]

theorem row_of_takeGroups (h : takeGroups first room cs = (gs, dotted, r)) :
    (gs = [] ∧ dotted = false ∧ cs = r) ∨
      ∃ row, Row gs dotted row ∧ gs.length ≤ room ∧ cs = start first row ++ r := by
  induction room generalizing first cs gs dotted r with
  | zero =>
    cases h
    exact .inl ⟨rfl, rfl, rfl⟩
  | succ room ih =>
    rw [takeGroups] at h
    split at h
    case h_1 =>
      cases h
      exact .inl ⟨rfl, rfl, rfl⟩
    case h_2 body from' =>
      obtain rfl : cs = start first body := by
        cases first
        · exact colon?_eq_some_iff.1 from'
        · exact Option.some.inj from'
      split at h
      case h_1 v4 x read =>
        cases h
        split at read
        case isTrue => cases read
        case isFalse more =>
          obtain ⟨rfl, -⟩ := Ipv4.take?_eq_some_iff.1 read
          have two : v4.groups.length = 2 := rfl
          exact .inr ⟨v4.text, .dotted v4, by omega, (start_append first _ _).symm⟩
      case h_2 =>
        split at h
        case h_1 =>
          cases h
          exact .inl ⟨rfl, rfl, rfl⟩
        case h_2 g x read =>
          obtain ⟨run, rfl, group, -⟩ := group?_eq_some_iff.1 read
          rcases later : takeGroups false room x with ⟨gs', dotted', r'⟩
          simp only [later] at h
          cases h
          obtain ⟨rfl, rfl, rfl⟩ | ⟨row, tail, length, rfl⟩ := ih later
          · exact .inr ⟨run, .group group, Nat.succ_le_succ (Nat.zero_le _),
              (start_append first _ _).symm⟩
          · refine .inr ⟨run ++ ':' :: row, .cons group tail, Nat.succ_le_succ length, ?_⟩
            rw [start_append first (run ++ ':' :: row), List.append_assoc]
            rfl

end Groups

theorem takeGroups_first_of_side {n : Nat} (side : Side gs dotted cs) (fits : gs.length ≤ n)
    (stop : Stops dotted r) :
    takeGroups true n (cs ++ r) = (gs, dotted, r) := by
  cases side with
  | row row => exact row.takeGroups_eq true fits stop
  | empty =>
    have ends := stop.endsGroup
    exact takeGroups_of_no_group (take?_v4_of_ends ends) (group?_of_ends ends) n

theorem side_of_takeGroups {room : Nat} (h : takeGroups true room cs = (gs, dotted, r)) :
    ∃ side, Side gs dotted side ∧ gs.length ≤ room ∧ cs = side ++ r := by
  obtain ⟨rfl, rfl, rfl⟩ | ⟨row, groups, length, rfl⟩ := row_of_takeGroups h
  · exact ⟨[], .empty, Nat.zero_le _, rfl⟩
  · exact ⟨row, .row groups, length, rfl⟩

theorem ofGroups?_eq_some_iff : ofGroups? gs = some ip ↔ ip.groups = gs := by
  obtain ⟨groups, length⟩ := ip
  rw [ofGroups?]
  split_ifs with eight
  · simp [eq_comm]
  · simp only [false_iff]
    rintro rfl
    exact eight length

theorem IsText.take?_append (h : IsText ip cs) (ends : EndsText r) : take? (cs ++ r) = some (ip, r) := by
  obtain row | @⟨front, back, dotted, cs, ds, left, right, room, groups⟩ := h
  · have all := row.takeGroups_eq true (Nat.le_of_eq ip.length_groups) (.inl ends)
    simp only [start, if_true] at all
    simp [take?, all, ip.length_groups, ofGroups?_eq_some_iff.2 rfl]
  · have before := takeGroups_first_of_side (r := ':' :: ':' :: (ds ++ r)) left (n := 8) (by omega)
      (.inr ⟨rfl, _, rfl⟩)
    have after := takeGroups_first_of_side right (n := 7 - front.length) (by omega) (.inl ends)
    have some : front.length ≠ 8 := by omega
    have address := ofGroups?_eq_some_iff.2 groups
    rw [List.append_assoc] at address
    simp only [take?, List.append_assoc, List.cons_append, before, some, colon?, after, address,
      Option.bind_eq_bind, Option.bind_some, if_false, Bool.false_eq_true, Option.pure_def]

theorem take?_eq_some_nil_iff : take? cs = some (ip, []) ↔ IsText ip cs := by
  constructor
  · intro h
    rcases left : takeGroups true 8 cs with ⟨front, dotted, r⟩
    obtain ⟨side, front', length, rfl⟩ := side_of_takeGroups left
    simp only [take?, left, Option.bind_eq_bind, Option.pure_def] at h
    split_ifs at h with full last
    · obtain ⟨ip', groups, same⟩ := Option.bind_eq_some_iff.1 h
      cases same
      rw [List.append_nil]
      cases front' with
      | empty => cases full
      | row row => exact .full (ofGroups?_eq_some_iff.1 groups ▸ row)
    · cases h
    · obtain rfl : dotted = false := by simpa using last
      simp only [Option.bind_eq_some_iff, colon?_eq_some_iff] at h
      obtain ⟨_, rfl, r', rfl, _, groups, same⟩ := h
      rcases right : takeGroups true (7 - front.length) r' with ⟨back, dotted, r⟩
      obtain ⟨other, back', length', rfl⟩ := side_of_takeGroups right
      simp only [right] at groups same
      cases same
      rw [List.append_nil]
      exact .short front' back' (by omega) (ofGroups?_eq_some_iff.1 groups)
  · intro h
    have read := h.take?_append (r := []) (by simp [EndsText])
    rwa [List.append_nil] at read

theorem IsText.colon (h : IsText ip cs) : ∃ run r, cs = run ++ ':' :: r ∧ ∀ c ∈ run, IsHex c := by
  obtain row | @⟨front, back, dotted, cs, ds, left, -, -, -⟩ := h
  · obtain ⟨gs, length⟩ := ip
    cases row with
    | group => cases length
    | dotted => cases length
    | cons group => exact ⟨_, _, rfl, group.isHex.2⟩
  · cases left with
    | empty => exact ⟨[], _, rfl, by simp⟩
    | row row =>
      cases row with
      | group group => exact ⟨_, _, rfl, group.isHex.2⟩
      | cons group => exact ⟨_, _, List.append_assoc .., group.isHex.2⟩

theorem IsText.take?_v4 (h : IsText ip cs) : Ipv4.take? cs = none := by
  obtain ⟨run, r, rfl, hex⟩ := h.colon
  exact take?_v4_eq_none hex (endsGroup_colon r)

end Reading

end Ipv6

namespace IpAddress

section Reading

variable {cs : List Char} {ip : IpAddress}

def IsText : IpAddress → List Char → Prop
  | .v4 ip, cs => cs = ip.text
  | .v6 ip, cs => ip.IsText cs

theorem ofText?_eq_some_iff : ofText? cs = some ip ↔ ip.IsText cs := by
  rw [ofText?]
  constructor
  · intro h
    split at h
    case h_1 v4 r read =>
      split_ifs at h with done
      cases h
      obtain rfl := List.isEmpty_iff.1 done
      exact (Ipv4.take?_eq_some_iff.1 read).1.trans (List.append_nil _)
    case h_2 =>
      split at h
      case h_2 => cases h
      case h_1 v6 r read =>
        split_ifs at h with done
        cases h
        obtain rfl := List.isEmpty_iff.1 done
        exact Ipv6.take?_eq_some_nil_iff.1 read
  · intro h
    cases ip with
    | v4 v4 =>
      have read : Ipv4.take? cs = some (v4, []) :=
        Ipv4.take?_eq_some_iff.2 ⟨h.trans (List.append_nil _).symm, by simp [Ipv4.EndsOctet]⟩
      simp [read]
    | v6 v6 => simp [Ipv6.IsText.take?_v4 h, Ipv6.take?_eq_some_nil_iff.2 h]

def IsPlain (c : Char) : Prop := '.' ≤ c ∧ c ≤ 'z'

theorem not_isBlank_of_isPlain {c : Char} (h : IsPlain c) : Text.isBlank c = false := by
  have least : '.'.toNat ≤ c.toNat := h.1
  have most : c.toNat ≤ 'z'.toNat := h.2
  simp at least most
  simp [Text.isBlank]
  omega

theorem isPlain_of_isHex {c : Char} (h : Ipv6.IsHex c) : IsPlain c :=
  ⟨Char.le_trans (by decide) (Decimal.range_of_digit? h).1, (Decimal.range_of_digit? h).2⟩

theorem isPlain_of_mem_v4 {ip : Ipv4} : ∀ c ∈ ip.text, IsPlain c := by
  have number (b : UInt8) : ∀ c ∈ Decimal.digits b.toNat, IsPlain c := fun c member =>
    isPlain_of_isHex (Ipv6.isHex_of_isDigit (Decimal.isDigit_of_mem_digits member))
  have dot : IsPlain '.' := by rw [IsPlain]; decide
  simp only [Ipv4.text, List.forall_mem_append, List.forall_mem_cons, dot, true_and]
  exact ⟨⟨⟨number _, number _⟩, number _⟩, number _⟩

theorem isPlain_of_mem_row {gs : List UInt16} {dotted : Bool} (h : Ipv6.Row gs dotted cs) :
    ∀ c ∈ cs, IsPlain c := by
  have colon : IsPlain ':' := by rw [IsPlain]; decide
  induction h with
  | group group => exact fun c member => isPlain_of_isHex (group.isHex.2 c member)
  | dotted ip => exact isPlain_of_mem_v4
  | cons group _ ih =>
    refine List.forall_mem_append.2 ⟨fun c member => ?_, List.forall_mem_cons.2 ⟨colon, ih⟩⟩
    exact isPlain_of_isHex (group.isHex.2 c member)

theorem isPlain_of_mem_side {gs : List UInt16} {dotted : Bool} (h : Ipv6.Side gs dotted cs) :
    ∀ c ∈ cs, IsPlain c := by
  cases h with
  | empty => exact List.forall_mem_nil _
  | row row => exact isPlain_of_mem_row row

theorem IsText.isPlain (h : ip.IsText cs) : ∀ c ∈ cs, IsPlain c := by
  have colon : IsPlain ':' := by rw [IsPlain]; decide
  cases ip with
  | v4 ip =>
    obtain rfl := h
    exact isPlain_of_mem_v4
  | v6 ip =>
    obtain row | ⟨left, right, -, -⟩ := h
    · exact isPlain_of_mem_row row
    · exact List.forall_mem_append.2 ⟨isPlain_of_mem_side left,
        List.forall_mem_cons.2 ⟨colon, List.forall_mem_cons.2 ⟨colon, isPlain_of_mem_side right⟩⟩⟩

theorem IsText.ne_nil (h : ip.IsText cs) : cs ≠ [] := by
  cases ip with
  | v4 ip =>
    obtain rfl := h
    simp [Ipv4.text]
  | v6 ip =>
    obtain ⟨run, r, rfl, -⟩ := Ipv6.IsText.colon h
    simp

def IsPadded (ip : IpAddress) (cs : List Char) : Prop :=
  ∃ left literal right, cs = left ++ literal ++ right ∧ (∀ c ∈ left, Text.isBlank c = true) ∧
    (∀ c ∈ right, Text.isBlank c = true) ∧ ip.IsText literal

theorem ofText?_trim_eq_some_iff : ofText? (Text.trim cs) = some ip ↔ ip.IsPadded cs := by
  rw [ofText?_eq_some_iff]
  constructor
  · intro literal
    obtain ⟨left, right, same, before, after, -⟩ := (Text.trim_eq_iff literal.ne_nil).1 rfl
    exact ⟨left, _, right, same, before, after, literal⟩
  · rintro ⟨left, mid, right, rfl, before, after, literal⟩
    have bare (c : Char) (member : c ∈ mid) : Text.isBlank c = false :=
      not_isBlank_of_isPlain (literal.isPlain c member)
    rwa [Text.trim_append literal.ne_nil before after bare]

end Reading

end IpAddress

end TitleDock
