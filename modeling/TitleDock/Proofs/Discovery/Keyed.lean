import Mathlib.Data.Finset.Basic
import Mathlib.Data.List.Perm.Basic
import TitleDock.Discovery.Registry
import TitleDock.Proofs.Net.Order

/-! Devices under their addresses. A map is keyed if every device stands under its own address and
no address stands twice; then looking up, listing and counting tell the same. Nothing here depends
on where an entry stands. -/

namespace TitleDock.DeviceMap

variable {m m' : DeviceMap} {a : SocketAddress} {d : Device}

structure Keyed (m : DeviceMap) : Prop where
  own : ∀ e ∈ m, e.1 = e.2.address
  nodup : (m.map Prod.fst).Nodup

def addresses (m : DeviceMap) : Finset SocketAddress := (m.map Prod.fst).toFinset

theorem keyed_nil : Keyed [] := ⟨List.forall_mem_nil _, .nil⟩

theorem Keyed.perm (h : Keyed m) (p : m.Perm m') : Keyed m' := by
  refine ⟨fun e member => h.own e (p.mem_iff.2 member), ?_⟩
  exact (p.map Prod.fst).nodup_iff.1 h.nodup

theorem addresses_perm (p : m.Perm m') : m.addresses = m'.addresses :=
  List.toFinset_eq_of_perm _ _ (p.map Prod.fst)

theorem mem_addresses : a ∈ m.addresses ↔ ∃ e ∈ m, e.1 = a := by
  simp [addresses]

theorem mem_of_get? (h : m.get? a = some d) : (a, d) ∈ m := by
  obtain ⟨before, after, rfl, -⟩ := List.lookup_eq_some_iff.1 h
  simp

theorem get?_eq_none : m.get? a = none ↔ a ∉ m.addresses := by
  rw [get?, List.lookup_eq_none_iff, mem_addresses]
  constructor
  · rintro other ⟨e, member, rfl⟩
    simpa using other e member
  · intro absent e member
    simpa using fun same : a = e.1 => absent ⟨e, member, same.symm⟩

theorem Keyed.get?_eq_some (h : Keyed m) : m.get? a = some d ↔ (a, d) ∈ m := by
  refine ⟨mem_of_get?, fun member => ?_⟩
  cases found : m.get? a with
  | none => exact absurd (mem_addresses.2 ⟨_, member, rfl⟩) (get?_eq_none.1 found)
  | some d' =>
    have same := List.inj_on_of_nodup_map h.nodup (mem_of_get? found) member rfl
    exact congrArg some (congrArg Prod.snd same)

theorem isKnown_iff : m.isKnown a = true ↔ a ∈ m.addresses := by
  rw [isKnown, Option.isSome_iff_ne_none, ne_eq, get?_eq_none, not_not]

theorem Keyed.address_of_get? (h : Keyed m) (found : m.get? a = some d) : d.address = a :=
  (h.own _ (mem_of_get? found)).symm

theorem mem_erase {e : SocketAddress × Device} : e ∈ m.erase a ↔ e ∈ m ∧ e.1 ≠ a := by
  simp [DeviceMap.erase]

theorem Keyed.erase (h : Keyed m) (a : SocketAddress) : Keyed (m.erase a) :=
  ⟨fun e member => h.own e (mem_erase.1 member).1, h.nodup.sublist (List.filter_sublist.map _)⟩

@[simp] theorem addresses_erase (m : DeviceMap) (a : SocketAddress) :
    (m.erase a).addresses = m.addresses.erase a := by
  ext b
  simp only [mem_addresses, mem_erase, Finset.mem_erase]
  constructor
  · rintro ⟨e, ⟨member, other⟩, rfl⟩
    exact ⟨other, e, member, rfl⟩
  · rintro ⟨other, e, member, rfl⟩
    exact ⟨e, ⟨member, other⟩, rfl⟩

theorem put_perm (m : DeviceMap) (a : SocketAddress) (d : Device) :
    (m.put a d).Perm ((a, d) :: m.erase a) := by
  rw [put]
  refine List.perm_middle.trans (.cons _ ?_)
  rw [List.takeWhile_append_dropWhile]

theorem mem_put {e : SocketAddress × Device} :
    e ∈ m.put a d ↔ e = (a, d) ∨ e ∈ m ∧ e.1 ≠ a := by
  rw [(put_perm m a d).mem_iff, List.mem_cons, mem_erase]

theorem Keyed.put (h : Keyed m) (own : a = d.address) : Keyed (m.put a d) := by
  refine Keyed.perm ⟨?_, ?_⟩ (put_perm m a d).symm
  · intro e member
    obtain rfl | kept := List.mem_cons.1 member
    · exact own
    · exact (h.erase a).own e kept
  · refine List.nodup_cons.2 ⟨fun again => ?_, (h.erase a).nodup⟩
    obtain ⟨e, member, same⟩ := List.mem_map.1 again
    exact (mem_erase.1 member).2 same

@[simp] theorem addresses_put (m : DeviceMap) (a : SocketAddress) (d : Device) :
    (m.put a d).addresses = insert a m.addresses := by
  ext b
  simp only [mem_addresses, mem_put, Finset.mem_insert]
  constructor
  · rintro ⟨e, rfl | ⟨member, -⟩, rfl⟩
    · exact .inl rfl
    · exact .inr ⟨e, member, rfl⟩
  · rintro (rfl | ⟨e, member, rfl⟩)
    · exact ⟨_, .inl rfl, rfl⟩
    · by_cases same : e.1 = a
      · exact ⟨_, .inl rfl, same.symm⟩
      · exact ⟨e, .inr ⟨member, same⟩, rfl⟩

theorem get?_erase (m : DeviceMap) (a b : SocketAddress) :
    (m.erase b).get? a = if a = b then none else m.get? a := by
  split
  case isTrue same =>
    rw [same, get?_eq_none, addresses_erase]
    exact Finset.notMem_erase b _
  case isFalse other =>
    induction m with
    | nil => rfl
    | cons e m ih =>
      rw [DeviceMap.erase, get?] at ih ⊢
      by_cases dropped : e.1 = b
      · rw [List.filter_cons_of_neg (by simpa using dropped), ih, get?, get?, List.lookup_cons,
          beq_false_of_ne (dropped ▸ other)]
      · rw [List.filter_cons_of_pos (by simpa using dropped), get?, List.lookup_cons,
          List.lookup_cons, ih, get?]

theorem get?_put (m : DeviceMap) (a b : SocketAddress) (d : Device) :
    (m.put a d).get? b = if b = a then some d else m.get? b := by
  let front := (m.erase a).takeWhile (·.1.code < a.code)
  let back := (m.erase a).dropWhile (·.1.code < a.code)
  have whole : front ++ back = m.erase a := List.takeWhile_append_dropWhile
  have split : (m.put a d).get? b = (front.lookup b).or (((a, d) :: back).lookup b) :=
    List.lookup_append
  have rest : (front.lookup b).or (back.lookup b) = if b = a then none else m.get? b := by
    rw [← List.lookup_append, whole]
    exact get?_erase m b a
  rw [split, List.lookup_cons]
  by_cases here : b = a
  · rw [if_pos here] at rest
    rw [if_pos here, (Option.or_eq_none_iff.1 rest).1, here, beq_self_eq_true]
    rfl
  · rw [if_neg here] at rest ⊢
    rwa [beq_false_of_ne here]

theorem Keyed.get?_perm (h : Keyed m) (p : m.Perm m') (a : SocketAddress) :
    m'.get? a = m.get? a := by
  ext d
  rw [(h.perm p).get?_eq_some, h.get?_eq_some, p.mem_iff]

theorem list_perm (m : DeviceMap) : m.list.Perm (m.map Prod.snd) :=
  List.mergeSort_perm _ _

theorem Keyed.map_address (h : Keyed m) : (m.map Prod.snd).map Device.address = m.map Prod.fst := by
  rw [List.map_map]
  exact List.map_congr_left fun e member => (h.own e member).symm

theorem Keyed.list_increasing (h : Keyed m) :
    m.list.Pairwise fun d e => d.address.code < e.address.code := by
  have sorted : m.list.Pairwise fun d e => d.address.code ≤ e.address.code := by
    have trans (d e f : Device) (le : decide (d.address.code ≤ e.address.code) = true)
        (le' : decide (e.address.code ≤ f.address.code) = true) :
        decide (d.address.code ≤ f.address.code) = true :=
      decide_eq_true (Nat.le_trans (of_decide_eq_true le) (of_decide_eq_true le'))
    have total (d e : Device) : (decide (d.address.code ≤ e.address.code) ||
        decide (e.address.code ≤ d.address.code)) = true := by
      simpa using Nat.le_total d.address.code e.address.code
    exact (List.pairwise_mergeSort trans total (m.map Prod.snd)).imp of_decide_eq_true
  have different : (m.list.map Device.address).Nodup := by
    rw [((list_perm m).map Device.address).nodup_iff, h.map_address]
    exact h.nodup
  refine sorted.imp₂ ?_ (List.pairwise_map.1 different)
  intro d e le ne
  exact lt_of_le_of_ne le fun same => ne (SocketAddress.code_injective same)

theorem Keyed.mem_list (h : Keyed m) : d ∈ m.list ↔ m.get? d.address = some d := by
  rw [(list_perm m).mem_iff, h.get?_eq_some, List.mem_map]
  constructor
  · rintro ⟨e, member, rfl⟩
    rwa [← h.own e member]
  · intro member
    exact ⟨_, member, rfl⟩

theorem Keyed.map_address_list (h : Keyed m) :
    (m.list.map Device.address).Perm (m.map Prod.fst) := by
  rw [← h.map_address]
  exact (list_perm m).map _

theorem length_list (m : DeviceMap) : m.list.length = m.size := by
  rw [(list_perm m).length_eq, List.length_map, size]

theorem isEmpty_iff (m : DeviceMap) : m.isEmpty = true ↔ m.list = [] := by
  rw [isEmpty, List.isEmpty_iff_length_eq_zero, ← List.length_eq_zero_iff, length_list, size]

end TitleDock.DeviceMap
