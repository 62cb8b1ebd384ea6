import Mathlib.Logic.Function.Basic
import TitleDock.Extraction
import TitleDock.Proofs.Json.Writing
import TitleDock.Title

/-! The wire forms of titles and of reports on extractions. Both are records of texts, numbers and
flags, so what is written is read back: no field is lost, none is taken for another, and whatever is
read from a text of any origin is read again from the text that is written for it. -/

namespace TitleDock

section Reading

variable {α : Type} {write : α → Bytes} {read? : Bytes → Option α}

theorem injective_of_read (back : ∀ a, read? (write a) = some a) : Function.Injective write := by
  intro a b same
  have read := congrArg read? same
  simpa only [back, Option.some.injEq] using read

theorem read_again (back : ∀ a, read? (write a) = some a) (bs : Bytes) :
    ((read? bs).map write).bind read? = read? bs := by
  cases read? bs with
  | none => rfl
  | some a => exact back a

end Reading

namespace Title

theorem isWritten_toJson (t : Title) : t.toJson.IsWritten := by
  refine .record ?_
  simp only [List.forall_mem_cons]
  exact ⟨.text _, .text _, .text _, .natural _, .text _, .bool _, by simp⟩

theorem ofJson?_toJson (t : Title) : ofJson? t.toJson = some t := by
  have fields : t.toJson.fields? fieldNames =
      some [some (.ofText t.titleId), some (.ofText t.name), some (.ofText t.version),
        some (.ofNat t.size.toNat), some t.kind.toJson, some (.bool t.extractable)] := by
    rw [toJson, Json.fields?_record]
    simp [Json.fill?, fieldNames]
  simp [ofJson?, fields, Json.natural?_toNat, TitleKind.ofJson?, TitleKind.toJson, Json.bool?]

theorem isWritten_listToJson (ts : List Title) : (listToJson ts).IsWritten := by
  refine .array fun v member => ?_
  obtain ⟨t, -, rfl⟩ := List.mem_map.1 member
  exact t.isWritten_toJson

theorem listOfJson?_listToJson (ts : List Title) : listOfJson? (listToJson ts) = some ts := by
  have each : (ts.map toJson).mapM ofJson? = some ts := by
    induction ts with
    | nil => rfl
    | cons t ts ih => simp [List.mapM_cons, ofJson?_toJson, ih]
  simpa [listOfJson?, listToJson, Json.items?] using each

theorem decodeList?_compact (ts : List Title) : decodeList? (listToJson ts).compact = some ts := by
  rw [decodeList?, (isWritten_listToJson ts).parse?_compact, Option.bind_some,
    listOfJson?_listToJson]

end Title

namespace Session

theorem isWritten_toJson (s : Session) : s.toJson.IsWritten := by
  refine .record fun m member => ?_
  obtain required | optional := List.mem_append.1 member
  · simp only [List.mem_cons, List.not_mem_nil, or_false] at required
    rcases required with rfl | rfl | rfl | rfl
    · exact .text _
    · exact .text _
    · exact .natural _
    · exact .natural _
  · obtain ⟨text, -, rfl⟩ := Option.map_eq_some_iff.1 (Option.mem_toList.1 optional)
    exact .text text

theorem optionalText?_ofText (s : String) : optionalText? (.ofText s) = some (some s) := by
  rw [Json.ofText, optionalText?, ← Json.ofText, Json.text?_ofText]
  · rfl
  · intro same
    cases same

theorem ofJson?_toJson (s : Session) : ofJson? s.toJson = some s := by
  have fields : s.toJson.fields? fieldNames =
      some [some (.ofText s.operationId), some s.status.toJson,
        some (.ofNat s.bytesTransferred.toNat), some (.ofNat s.totalBytes.toNat),
        s.errorMessage.map Json.ofText] := by
    rw [toJson, Json.fields?_record]
    cases s.errorMessage <;> simp [Json.fill?, fieldNames]
  have message : Json.orElse none optionalText? (s.errorMessage.map Json.ofText) =
      some s.errorMessage := by
    cases s.errorMessage with
    | none => rfl
    | some m => exact optionalText?_ofText m
  simp [ofJson?, fields, Json.natural?_toNat, SessionStatus.ofJson?, SessionStatus.toJson, message]

theorem decode?_encode (s : Session) : decode? s.encode = some s := by
  rw [decode?, encode, s.isWritten_toJson.parse?_compact, Option.bind_some, ofJson?_toJson]

end Session

/-- Lists of titles and reports are read back from the text that is written for them, so no two of
them have one text; and what was read from any text at all is read again from its own text, which is
then written once more. -/
theorem wire_forms_read_back :
    let writeTitles (ts : List Title) := (Title.listToJson ts).compact
    (∀ ts, Title.decodeList? (writeTitles ts) = some ts) ∧
      (∀ s, Session.decode? (Session.encode s) = some s) ∧
      Function.Injective writeTitles ∧ Function.Injective Session.encode ∧
      (∀ bs, let again := ((Title.decodeList? bs).map writeTitles).bind Title.decodeList?
        again = Title.decodeList? bs ∧
          again.map writeTitles = (Title.decodeList? bs).map writeTitles) ∧
      ∀ bs, let again := ((Session.decode? bs).map Session.encode).bind Session.decode?
        again = Session.decode? bs ∧
          again.map Session.encode = (Session.decode? bs).map Session.encode := by
  intro writeTitles
  refine ⟨Title.decodeList?_compact, Session.decode?_encode,
    injective_of_read Title.decodeList?_compact, injective_of_read Session.decode?_encode, ?_, ?_⟩
  · intro bs again
    have titles : again = Title.decodeList? bs := read_again Title.decodeList?_compact bs
    exact ⟨titles, congrArg _ titles⟩
  · intro bs again
    have report : again = Session.decode? bs := read_again Session.decode?_encode bs
    exact ⟨report, congrArg _ report⟩

end TitleDock
