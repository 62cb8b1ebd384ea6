import Mathlib.Data.List.TakeDrop
import TitleDock.Remote.Simulated

/-! What a made-up device answers to the calls for the status, over all calls that it ever gets.
They take the entries of its script in turn, whoever calls, and the last entry again and again after
that. -/

namespace TitleDock

/-- The status for the call of this number, counted from zero: that entry of the script, and after
its end the last one. A script without entries is taken for one that completes at once. -/
def ScriptedStatus.due (script : List ScriptedStatus) (k : Nat) : ScriptedStatus :=
  (script[k]?.or script.getLast?).getD (.completed 0)

/-- What happens between a device and its callers: a call reaches it, or gets its answer. -/
inductive Contact where
  | reached
  | answered (call : Call)

def Contact.operation? : Contact → Option String
  | .answered (.status _ operationId) => some operationId
  | _ => none

def Answer.status? : Answer → Option (Except Fault Session)
  | .status r => some r
  | _ => none

namespace ScriptedStatus

variable {script : List ScriptedStatus} {k : Nat}

theorem due_of_lt (h : k < script.length) : due script k = script[k] := by
  simp [due, h]

theorem due_of_le (h : script.length ≤ k) :
    due script k = script.getLast?.getD (.completed 0) := by
  simp [due, h]

end ScriptedStatus

namespace SimulatedDevice

open ScriptedStatus

def serve (s : SimulatedDevice) : List Contact → List Answer × SimulatedDevice
  | [] => ([], s)
  | .reached :: contacts => s.start.serve contacts
  | .answered call :: contacts =>
    let (answer, s) := s.answer call
    let (answers, s) := s.serve contacts
    (answer :: answers, s)

/-- A device that can be reached has given so many statuses of its script. -/
structure Follows (script : List ScriptedStatus) (asked : Nat) (s : SimulatedDevice) : Prop where
  reachable : s.unreachable = false
  rest : s.script = script.drop asked
  last : s.last = (script.take asked).getLast?

section Follows

variable {script : List ScriptedStatus} {asked : Nat} {s : SimulatedDevice}

theorem Follows.start (h : Follows script asked s) : Follows script asked s.start :=
  ⟨h.reachable, h.rest, h.last⟩

theorem Follows.nextStatus (h : Follows script asked s) :
    s.nextStatus.1 = due script asked ∧ Follows script (asked + 1) s.nextStatus.2 := by
  by_cases more : asked < script.length
  · rw [nextStatus_cons (h.rest.trans (List.drop_eq_getElem_cons more)), due_of_lt more]
    refine ⟨rfl, h.reachable, rfl, ?_⟩
    rw [List.take_add_one, List.getElem?_eq_getElem more, Option.toList_some, List.getLast?_concat]
  · -- the script has been used up
    have le : script.length ≤ asked := by omega
    have last : s.last = script.getLast? := by rw [h.last, List.take_of_length_le le]
    rw [SimulatedDevice.nextStatus, h.rest, List.drop_of_length_le le, due_of_le le, ← last]
    refine ⟨rfl, h.reachable, ?_, ?_⟩
    · rw [h.rest, List.drop_of_length_le le, List.drop_of_length_le (by omega)]
    · rw [last, List.take_of_length_le (by omega)]

theorem Follows.answer_of_other (h : Follows script asked s) {call : Call}
    (other : (Contact.answered call).operation? = none) :
    (s.answer call).1.status? = none ∧ Follows script asked (s.answer call).2 := by
  rw [answer.eq_def, if_neg (by simp [h.reachable])]
  cases call with
  | info | titles | download => exact ⟨rfl, h⟩
  | status device id => cases other
  | extract device request =>
    dsimp only
    split_ifs
    · exact ⟨rfl, h⟩
    · exact ⟨rfl, h.reachable, h.rest, h.last⟩
    · exact ⟨rfl, h⟩

theorem Follows.answer_status (h : Follows script asked s) (device : Device) (id : String) :
    (s.answer (.status device id)).1 = .status (.ok ((due script asked).toSession id)) ∧
      Follows script (asked + 1) (s.answer (.status device id)).2 := by
  obtain ⟨next, follows⟩ := h.nextStatus
  rw [answer.eq_def, if_neg (by simp [h.reachable]), ← next]
  exact ⟨rfl, follows⟩

theorem Follows.serve (h : Follows script asked s) (contacts : List Contact) :
    (s.serve contacts).1.filterMap Answer.status? =
        (contacts.filterMap Contact.operation?).mapIdx
          (fun k id => .ok ((due script (asked + k)).toSession id)) ∧
      Follows script (asked + (contacts.filterMap Contact.operation?).length)
        (s.serve contacts).2 := by
  induction contacts generalizing s asked with
  | nil => exact ⟨rfl, h⟩
  | cons contact contacts ih =>
    cases contact with
    | reached => exact ih h.start
    | answered call =>
      cases operation : (Contact.answered call).operation? with
      | none =>
        obtain ⟨other, h'⟩ := h.answer_of_other operation
        obtain ⟨given, h''⟩ := ih h'
        simp only [SimulatedDevice.serve, List.filterMap_cons, other, operation]
        exact ⟨given, h''⟩
      | some id =>
        obtain ⟨device, rfl⟩ : ∃ device, call = .status device id := by
          cases call <;> simp_all [Contact.operation?]
        obtain ⟨answer, h'⟩ := h.answer_status device id
        obtain ⟨given, h''⟩ := ih h'
        simp only [SimulatedDevice.serve, List.filterMap_cons, answer, operation, Answer.status?,
          List.mapIdx_cons, List.length_cons]
        refine ⟨?_, ?_⟩
        · simpa [Nat.add_assoc, Nat.add_comm 1] using given
        · simpa [Nat.add_assoc, Nat.add_comm 1] using h''

end Follows

theorem follows_of_new {s : SimulatedDevice} (new : s.last = none)
    (reachable : s.unreachable = false) : Follows s.script 0 s :=
  ⟨reachable, rfl, new⟩

end SimulatedDevice

end TitleDock
