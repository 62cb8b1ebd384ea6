import TitleDock.Net.Socket

/-! Addresses and their numbers. Different addresses have different numbers, so the order of the
numbers is an order of the addresses. -/

namespace TitleDock

theorem Ipv4.toNat_lt (ip : Ipv4) : ip.toNat < 0x100000000 := by
  have a := ip.a.toNat_lt
  have b := ip.b.toNat_lt
  have c := ip.c.toNat_lt
  have d := ip.d.toNat_lt
  rw [toNat]
  omega

theorem Ipv4.eq_of_toNat_eq {x y : Ipv4} (h : x.toNat = y.toNat) : x = y := by
  obtain ⟨a, b, c, d⟩ := x
  obtain ⟨a', b', c', d'⟩ := y
  simp only [toNat] at h
  have hb := b.toNat_lt
  have hc := c.toNat_lt
  have hd := d.toNat_lt
  have hb' := b'.toNat_lt
  have hc' := c'.toNat_lt
  have hd' := d'.toNat_lt
  obtain rfl := UInt8.toNat_inj.1 (show a.toNat = a'.toNat by omega)
  obtain rfl := UInt8.toNat_inj.1 (show b.toNat = b'.toNat by omega)
  obtain rfl := UInt8.toNat_inj.1 (show c.toNat = c'.toNat by omega)
  obtain rfl := UInt8.toNat_inj.1 (show d.toNat = d'.toNat by omega)
  rfl

theorem Ipv6.eq_of_foldl_eq {gs hs : List UInt16} (length : gs.length = hs.length) {m n : Nat}
    (h : gs.foldl (fun n g => n * 65536 + g.toNat) m =
      hs.foldl (fun n g => n * 65536 + g.toNat) n) : m = n ∧ gs = hs := by
  induction gs generalizing hs m n with
  | nil =>
    obtain rfl := List.length_eq_zero_iff.1 length.symm
    exact ⟨h, rfl⟩
  | cons g gs ih =>
    cases hs with
    | nil => cases length
    | cons g' hs =>
      obtain ⟨first, rfl⟩ := ih (Nat.succ.inj length) h
      dsimp only at first
      have hg := g.toNat_lt
      have hg' := g'.toNat_lt
      obtain rfl : m = n := by omega
      obtain rfl := UInt16.toNat_inj.1 (show g.toNat = g'.toNat by omega)
      exact ⟨rfl, rfl⟩

theorem Ipv6.eq_of_toNat_eq {x y : Ipv6} (h : x.toNat = y.toNat) : x = y := by
  obtain ⟨gs, length⟩ := x
  obtain ⟨hs, length'⟩ := y
  obtain ⟨-, rfl⟩ := eq_of_foldl_eq (length.trans length'.symm) h
  rfl

namespace SocketAddress

theorem code_v4_lt (ip : Ipv4) (port : UInt16) : (v4 ip port).code < 0x1000000000000 := by
  have host := ip.toNat_lt
  have low := port.toNat_lt
  rw [code]
  omega

theorem code_injective : Function.Injective code := by
  intro x y h
  cases x with
  | v4 ip port =>
    have low := port.toNat_lt
    cases y with
    | v4 ip' port' =>
      have low' := port'.toNat_lt
      simp only [code] at h
      obtain rfl := Ipv4.eq_of_toNat_eq (show ip.toNat = ip'.toNat by omega)
      obtain rfl := UInt16.toNat_inj.1 (show port.toNat = port'.toNat by omega)
      rfl
    | v6 ip' port' scope' =>
      have small := code_v4_lt ip port
      rw [h, code] at small
      omega
  | v6 ip port scope =>
    have low := port.toNat_lt
    have zone := scope.toNat_lt
    cases y with
    | v4 ip' port' =>
      have small := code_v4_lt ip' port'
      rw [← h, code] at small
      omega
    | v6 ip' port' scope' =>
      have low' := port'.toNat_lt
      have zone' := scope'.toNat_lt
      simp only [code] at h
      obtain rfl := Ipv6.eq_of_toNat_eq (show ip.toNat = ip'.toNat by omega)
      obtain rfl := UInt16.toNat_inj.1 (show port.toNat = port'.toNat by omega)
      obtain rfl := UInt32.toNat_inj.1 (show scope.toNat = scope'.toNat by omega)
      rfl

end SocketAddress

end TitleDock
