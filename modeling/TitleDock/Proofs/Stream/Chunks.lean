import TitleDock.Proofs.Stream.Reading

/-! The raw codec over a stream that comes in pieces. Neither the pieces nor the buffers they are
read into make a difference, and neither does a counting reader around the stream. Nothing behind
the end of the stream is taken from it. -/

namespace TitleDock

theorem readToEnd_through {ρ σ : Type} {outer : Nat → ρ → Poll × ρ} {inner : Nat → σ → Poll × σ}
    (view : ρ → σ)
    (same : ∀ room r, inner room (view r) = ((outer room r).1, view (outer room r).2))
    (rooms : Nat → Nat) (fuel k : Nat) (done : List Bytes) (r : ρ) :
    readToEnd inner rooms fuel k done (view r) =
      (readToEnd outer rooms fuel k done r).map fun (result, r) => (result, view r) := by
  induction fuel generalizing k done r with
  | zero => rfl
  | succ fuel ih =>
    rw [readToEnd, readToEnd, same]
    rcases outer (rooms k + 1) r with ⟨answer, later⟩
    cases answer with
    | pending => exact ih (k + 1) done later
    | failed e => rfl
    | ready bytes =>
      cases bytes with
      | nil => rfl
      | cons b bytes => exact ih (k + 1) ((b :: bytes) :: done) later

def ProgressReader.answer (room : Nat) (r : ProgressReader) : Poll × ProgressReader :=
  let (answer, _, _, r) := r.pollInto { filled := [], room }
  (answer, r)

theorem ProgressReader.poll_inner (room : Nat) (r : ProgressReader) :
    ReadItem.poll room r.inner = ((answer room r).1, (answer room r).2.inner) := by
  rw [answer, pollInto, ReadItem.pollInto]
  cases ReadItem.poll room r.inner with
  | mk answer rest => cases answer <;> rfl

namespace ReadItem

def bytes : ReadItem → Bytes
  | .data bytes => bytes
  | _ => []

def delivered (script : List ReadItem) : Bytes :=
  (script.takeWhile goesOn).flatMap bytes

def fault? (script : List ReadItem) : Option SystemError :=
  match script.dropWhile goesOn with
  | .failure e :: _ => some e
  | _ => none

theorem upToEnd_eq (script : List ReadItem) :
    upToEnd script = match fault? script with
      | some e => .error e
      | none => .ok (delivered script) := by
  induction script with
  | nil => rfl
  | cons item script ih =>
    cases item with
    | pending => exact ih
    | endOfStream => rfl
    | failure e => rfl
    | data bytes =>
      cases bytes with
      | nil => rfl
      | cons b bytes =>
        have stop : fault? (.data (b :: bytes) :: script) = fault? script := rfl
        rw [upToEnd, ih, stop]
        cases fault? script <;> simp [Except.map, delivered, goesOn, ReadItem.bytes]

/-- Pieces of a payload, none of them empty, with pending polls anywhere. -/
structure Splits (payload : Bytes) (pieces : List ReadItem) : Prop where
  goesOn : ∀ item ∈ pieces, item.goesOn = true
  whole : pieces.flatMap bytes = payload

inductive Stops : Option SystemError → List ReadItem → Prop
  | none : Stops none []
  | ended (after : List ReadItem) : Stops none (.endOfStream :: after)
  | empty (after : List ReadItem) : Stops none (.data [] :: after)
  | failed (e : SystemError) (after : List ReadItem) : Stops (some e) (.failure e :: after)

section Pieces

variable {payload : Bytes} {pieces tail : List ReadItem} {fault : Option SystemError}

theorem Stops.takeWhile_eq_nil (h : Stops fault tail) : tail.takeWhile ReadItem.goesOn = [] := by
  cases h <;> rfl

theorem Stops.dropWhile_eq (h : Stops fault tail) : tail.dropWhile ReadItem.goesOn = tail := by
  cases h <;> rfl

theorem Splits.append (split : Splits payload pieces) (stop : Stops fault tail) :
    delivered (pieces ++ tail) = payload ∧ fault? (pieces ++ tail) = fault ∧
      remaining (pieces ++ tail) = tail.tail := by
  have rest : (pieces ++ tail).dropWhile ReadItem.goesOn = tail := by
    rw [List.dropWhile_append_of_pos split.goesOn, stop.dropWhile_eq]
  refine ⟨?_, ?_, by rw [remaining, rest]⟩
  · rw [delivered, List.takeWhile_append_of_pos split.goesOn, stop.takeWhile_eq_nil,
      List.append_nil, split.whole]
  · rw [fault?, rest]
    cases stop <;> rfl

end Pieces

end ReadItem

namespace RawCodec

open ReadItem

def extractFrom {ρ : Type} (poll : Nat → ρ → Poll × ρ) (rooms : Nat → Nat) (fuel : Nat) (r : ρ) :
    Option (Except CodecError Bytes × ρ) :=
  (readToEnd poll rooms fuel 0 [] r).map fun (read, r) => (ofRead read, r)

/-- What it makes of a script, with a counting reader around it or without, and what is left of the
script. -/
def extractBy (rooms : Nat → Nat) (counted : Bool) (script : List ReadItem) :
    Option (Except CodecError Bytes × List ReadItem) :=
  let fuel := weight script + 1
  if counted then
    (extractFrom ProgressReader.answer rooms fuel (.new script)).map fun (result, r) => (result, r.inner)
  else extractFrom ReadItem.poll rooms fuel script

/-- The fault that reading stops at, or what was delivered before the end unless that is nothing. -/
def outcome (script : List ReadItem) : Except CodecError Bytes :=
  match fault? script with
  | some e => .error (.io e)
  | none => if delivered script = [] then .error .emptyPayload else .ok (delivered script)

theorem ofRead_upToEnd (script : List ReadItem) : ofRead (upToEnd script) = outcome script := by
  rw [upToEnd_eq, outcome]
  cases fault? script with
  | some e => rfl
  | none => cases delivered script <;> rfl

theorem extractFrom_poll (rooms : Nat → Nat) (script : List ReadItem) :
    extractFrom ReadItem.poll rooms (weight script + 1) script =
      some (outcome script, remaining script) := by
  have read := readToEnd_eq rooms 0 [] (Nat.lt_succ_self (weight script))
  rw [extractFrom, read, Option.map_some, ← ofRead_upToEnd]
  cases upToEnd script <;> simp [Except.map]

theorem extractFrom_answer (rooms : Nat → Nat) (fuel : Nat) (r : ProgressReader) :
    (extractFrom ProgressReader.answer rooms fuel r).map (fun (result, r) => (result, r.inner)) =
      extractFrom ReadItem.poll rooms fuel r.inner := by
  rw [extractFrom, extractFrom,
    readToEnd_through ProgressReader.inner ProgressReader.poll_inner rooms fuel 0 [] r,
    Option.map_map, Option.map_map]
  rfl

theorem extractBy_eq (rooms : Nat → Nat) (counted : Bool) (script : List ReadItem) :
    extractBy rooms counted script = some (outcome script, remaining script) := by
  rw [extractBy]
  cases counted with
  | false => exact extractFrom_poll rooms script
  | true => exact (extractFrom_answer rooms _ _).trans (extractFrom_poll rooms script)

end RawCodec

/-- Whatever rooms a script is read with, and whether it is counted or not, the raw codec gives the
bytes in front of the first end of the stream. It refuses if there are none, and if a fault comes
first it gives nothing but the fault. No item behind that point is taken. So pieces of one payload
that stop alike are the same to it, however the payload is split and wherever a poll is pending. -/
theorem raw_codec_ignores_chunks (script : List ReadItem) :
    (∀ rooms counted, RawCodec.extractBy rooms counted script =
        some (RawCodec.outcome script, ReadItem.remaining script)) ∧
      RawCodec.extract script = RawCodec.outcome script ∧
      ∀ payload fault pieces pieces' tail tail', ReadItem.Splits payload pieces →
        ReadItem.Splits payload pieces' → ReadItem.Stops fault tail → ReadItem.Stops fault tail' →
        ∀ rooms rooms' counted counted', ∃ result,
          RawCodec.extractBy rooms counted (pieces ++ tail) = some (result, tail.tail) ∧
            RawCodec.extractBy rooms' counted' (pieces' ++ tail') = some (result, tail'.tail) := by
  refine ⟨fun rooms counted => RawCodec.extractBy_eq rooms counted script, ?_, ?_⟩
  · rw [RawCodec.extract_eq, RawCodec.ofRead_upToEnd]
  · intro payload fault pieces pieces' tail tail' split split' stop stop' rooms rooms' counted counted'
    obtain ⟨whole, at', rest⟩ := split.append stop
    obtain ⟨whole', at'', rest'⟩ := split'.append stop'
    refine ⟨RawCodec.outcome (pieces ++ tail), ?_, ?_⟩
    · rw [RawCodec.extractBy_eq, rest]
    · rw [RawCodec.extractBy_eq, rest', RawCodec.outcome, RawCodec.outcome, whole, whole', at', at'']

/-- A payload that comes in one piece, and byte by byte into the smallest buffers. What stands
behind the end, a fault among it, stays where it is. -/
theorem raw_codec_joins_two_pieces :
    let pieces : List ReadItem := [.data [1, 2]]
    let pieces' : List ReadItem := [.pending, .data [1], .pending, .data [2]]
    let behind : List ReadItem := [.data [3], .failure (.number 104)]
    ReadItem.Splits [1, 2] pieces ∧ ReadItem.Splits [1, 2] pieces' ∧
      RawCodec.extractBy RawCodec.rooms false pieces = some (.ok [1, 2], []) ∧
      RawCodec.extractBy (fun _ => 0) true (pieces' ++ .endOfStream :: behind) =
        some (.ok [1, 2], behind) ∧
      RawCodec.extract pieces = .ok [1, 2] := by
  intro pieces pieces' behind
  have split : ReadItem.Splits [1, 2] pieces := ⟨by decide, rfl⟩
  have split' : ReadItem.Splits [1, 2] pieces' := ⟨by decide, rfl⟩
  obtain ⟨read, whole, joined⟩ := raw_codec_ignores_chunks pieces
  obtain ⟨result, one, two⟩ := joined [1, 2] none pieces pieces' [] (.endOfStream :: behind) split split'
    .none (.ended behind) RawCodec.rooms (fun _ => 0) false true
  obtain ⟨rfl, -⟩ := Prod.mk.inj (Option.some.inj ((read RawCodec.rooms false).symm.trans one))
  exact ⟨split, split', read _ _, two, whole⟩

end TitleDock
