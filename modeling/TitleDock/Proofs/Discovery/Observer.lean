import Mathlib.Data.Finset.Basic
import Mathlib.Data.List.Chain
import TitleDock.Discovery.Registry

/-! What an observer knows. It starts from the addresses known when it joined and takes in one event
after the other; an event that contradicts what it knows stops it. If none does, the events at every
single address alternate. -/

namespace TitleDock

/-- An observer takes in an event, which must not contradict what it knows. -/
def observe (known : Finset SocketAddress) : RegistryEvent → Option (Finset SocketAddress)
  | .discovered d => if d.address ∈ known then none else some (insert d.address known)
  | .lost d => if d.address ∈ known then some (known.erase d.address) else none

def replay (known : Finset SocketAddress) (es : List RegistryEvent) :
    Option (Finset SocketAddress) :=
  es.foldlM observe known

theorem replay_append (known : Finset SocketAddress) (es fs : List RegistryEvent) :
    replay known (es ++ fs) = (replay known es).bind fun known => replay known fs := by
  simp [replay, List.foldlM_append]

theorem replay_discovered {known : Finset SocketAddress} {d : Device} (h : d.address ∉ known) :
    replay known [.discovered d] = some (insert d.address known) := by
  simp [replay, observe, h]

theorem replay_lost {known : Finset SocketAddress} {d : Device} (h : d.address ∈ known) :
    replay known [.lost d] = some (known.erase d.address) := by
  simp [replay, observe, h]

def RegistryEvent.address : RegistryEvent → SocketAddress
  | .discovered d | .lost d => d.address

def RegistryEvent.isDiscovered : RegistryEvent → Bool
  | .discovered _ => true
  | .lost _ => false

@[simp] theorem RegistryEvent.isDiscovered_discovered (d : Device) :
    (discovered d).isDiscovered = true := rfl

@[simp] theorem RegistryEvent.isDiscovered_lost (d : Device) : (lost d).isDiscovered = false := rfl

/-- Whether an address was known at first, and then which kinds of events it had. -/
def kindsAt (a : SocketAddress) (known : Finset SocketAddress) (es : List RegistryEvent) :
    List Bool :=
  decide (a ∈ known) :: (es.filter (·.address = a)).map RegistryEvent.isDiscovered

theorem mem_of_observe {known known' : Finset SocketAddress} {e : RegistryEvent}
    (h : observe known e = some known') (a : SocketAddress) :
    (a ∈ known' ↔ if e.address = a then e.isDiscovered = true else a ∈ known) ∧
      (e.address ∈ known ↔ e.isDiscovered = false) := by
  cases e with
  | discovered d =>
    rw [observe] at h
    split at h
    case isTrue => cases h
    case isFalse absent =>
      obtain rfl := Option.some.inj h
      by_cases same : d.address = a
      · simp [RegistryEvent.address, RegistryEvent.isDiscovered, same, same ▸ absent]
      · simp [RegistryEvent.address, RegistryEvent.isDiscovered, same, Ne.symm same, absent]
  | lost d =>
    rw [observe] at h
    split at h
    case isFalse => cases h
    case isTrue present =>
      obtain rfl := Option.some.inj h
      by_cases same : d.address = a
      · simp [RegistryEvent.address, RegistryEvent.isDiscovered, same, same ▸ present]
      · simp [RegistryEvent.address, RegistryEvent.isDiscovered, same, Ne.symm same, present]

theorem alternates_of_replay {known known' : Finset SocketAddress} {es : List RegistryEvent}
    (h : replay known es = some known') (a : SocketAddress) :
    (kindsAt a known es).IsChain (· ≠ ·) := by
  induction es generalizing known with
  | nil => exact .singleton _
  | cons e es ih =>
    obtain ⟨next, observed, rest⟩ := Option.bind_eq_some_iff.1 h
    have chain := ih rest
    obtain ⟨after, before⟩ := mem_of_observe observed a
    rw [kindsAt] at chain ⊢
    by_cases here : e.address = a
    · subst here
      have last : decide (e.address ∈ next) = e.isDiscovered := by simp [after]
      rw [last] at chain
      rw [List.filter_cons_of_pos (by simp), List.map_cons, List.isChain_cons_cons]
      refine ⟨?_, chain⟩
      by_cases discovered : e.isDiscovered = true
      · simp [discovered, before]
      · simp [discovered, before]
    · have kept : (a ∈ next) = (a ∈ known) := by simp [after, here]
      simp only [kept] at chain
      rwa [List.filter_cons_of_neg (by simp [here])]

end TitleDock
