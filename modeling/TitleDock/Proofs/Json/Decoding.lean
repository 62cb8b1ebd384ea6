import Mathlib.Data.List.Forall2
import TitleDock.Extraction
import TitleDock.Proofs.Json.Members
import TitleDock.Proofs.Json.Writing
import TitleDock.Title

/-! What is read from the texts of objects. A title and a report on an extraction are told by the
members that bear the names of their fields. The order of the members, their spelling, the blanks
between them and members with other names make no difference; a field that is repeated, missing or
null does. -/

namespace TitleDock

namespace Json

def Spelled (s : String) (v : Json) : Prop := ∃ gs, v = .string gs ∧ Glyph.Means gs s.toList

/-- Two members bear names of one field. -/
def Repeats (known : List (List String)) (ms : List (List Glyph × Json)) : Prop :=
  ∃ names ∈ known, ∃ before m between n after, ms = before ++ m :: (between ++ n :: after) ∧
    Bears names m ∧ Bears names n

def Lacks (names : List String) (ms : List (List Glyph × Json)) : Prop :=
  ∀ m ∈ ms, ¬ Bears names m

def GivesNull (names : List String) (ms : List (List Glyph × Json)) : Prop :=
  ∃ m ∈ ms, Bears names m ∧ m.2 = .null

section Slots

variable {known : List (List String)} {names : List String} {ms : List (List Glyph × Json)}
  {slots : List (Option Json)} {s : String} {v : Json}

theorem Spelled.text?_eq (h : Spelled s v) : v.text? = some s := by
  obtain ⟨gs, rfl, means⟩ := h
  exact Glyph.text?_eq_some_iff.2 means

theorem Spelled.choice?_eq (h : Spelled s v) : v.choice? = some s := by
  obtain ⟨gs, rfl, means⟩ := h
  exact Glyph.text?_eq_some_iff.2 means

theorem Repeats.fields?_eq (h : Repeats known ms) (apart : known.Pairwise List.Disjoint) :
    (Json.object ms).fields? known = none := by
  obtain ⟨names, member, before, m, between, n, after, rfl, first, second⟩ := h
  by_contra some
  obtain ⟨slots, read⟩ := Option.ne_none_iff_exists'.1 some
  obtain ⟨-, filled⟩ := (fields?_object_eq_some_iff apart).1 read
  obtain ⟨o, -, same⟩ := exists_slot filled member
  have short := length_toList_le o
  rw [same, given_append, given_cons_of_bears first, given_append, given_cons_of_bears second] at short
  simp only [List.length_append, List.length_cons] at short
  omega

theorem GivesNull.mem_slots (h : GivesNull names ms) (member : names ∈ known)
    (filled : slots.map Option.toList = known.map (given · ms)) : some .null ∈ slots := by
  obtain ⟨o, listed, same⟩ := exists_slot filled member
  have null : .null ∈ o.toList := same ▸ mem_given.2 h
  rwa [← Option.mem_toList.1 null]

end Slots

section Fitting

variable {α : Type} {f : RecordField} {read : Json → Option α} {a fallback : α}
  {slot : Option Json}

theorem required_of_fits (fit : f.Fits slot) (holds : ∀ v, f.Holds v → read v = some a)
    (must : ¬ f.Omissible) : required read slot = some a := by
  cases slot with
  | none => exact absurd fit must
  | some v => exact holds v fit

theorem orElse_of_fits (fit : f.Fits slot) (holds : ∀ v, f.Holds v → read v = some a)
    (omitted : f.Omissible → fallback = a) : orElse fallback read slot = some a := by
  cases slot with
  | none => exact congrArg some (omitted fit)
  | some v => exact holds v fit

theorem required_of_lacks {names : List String} {ms : List (List Glyph × Json)} (h : Lacks names ms)
    (same : slot.toList = given names ms) : required read slot = none := by
  rw [given_eq_nil h, Option.toList_eq_nil_iff] at same
  rw [same]
  rfl

end Fitting

namespace RecordField

def key (name s : String) : RecordField :=
  { names := [name], Holds := Spelled s, Omissible := False }

def word (name : String) (n : UInt64) : RecordField :=
  { names := [name], Holds := (· = .ofNat n.toNat), Omissible := n = 0 }

variable {name s : String} {n : UInt64} {slot : Option Json}

theorem required_of_fits_key (fit : (key name s).Fits slot) : required text? slot = some s :=
  required_of_fits fit (fun _ => Spelled.text?_eq) id

theorem orElse_of_fits_word (fit : (word name n).Fits slot) :
    orElse 0 (natural? Decimal.largest64) slot = some n.toNat := by
  refine orElse_of_fits fit (fun v same => ?_) fun (zero : n = 0) => ?_
  · rw [show v = .ofNat n.toNat from same, natural?_toNat]
  · rw [zero, UInt64.toNat_zero]

end RecordField

end Json

open Json in
/-- The fields of a title. The version, the size, the kind and the flag may be left out if they are
what is taken for them then. -/
def Title.fields (t : Title) : List RecordField :=
  [.key "titleId" t.titleId, .key "name" t.name,
    { names := ["version"], Holds := Spelled t.version, Omissible := t.version = "" },
    .word "size" t.size,
    { names := ["type"], Holds := fun v => ∃ s, TitleKind.ofName s = t.kind ∧ Spelled s v
      Omissible := t.kind = .other },
    { names := ["isExtractable", "extractable"], Holds := (· = .bool t.extractable)
      Omissible := t.extractable = false }]

open Json in
/-- The fields of a report. Its error message may also be null if there is none. -/
def Session.fields (s : Session) : List RecordField :=
  [.key "operationId" s.operationId, .key "status" s.status.name,
    .word "bytesTransferred" s.bytesTransferred, .word "totalBytes" s.totalBytes,
    { names := ["errorMessage"]
      Holds := fun v => match s.errorMessage with
        | none => v = .null
        | some m => Spelled m v
      Omissible := s.errorMessage = none }]

namespace Title

open Json

theorem apart_fieldNames : fieldNames.Pairwise List.Disjoint := by
  simp [fieldNames, List.Disjoint]

theorem ofJson?_of_presents {t : Title} {ms : List (List Glyph × Json)}
    (h : Presents t.fields ms) : ofJson? (.object ms) = some t := by
  obtain ⟨slots, fit, read⟩ := h.fields?_eq apart_fieldNames
  simp only [fields, List.forall₂_cons_left_iff, List.forall₂_nil_left_iff] at fit
  obtain ⟨titleId, _, hTitleId, ⟨name, _, hName, ⟨version, _, hVersion, ⟨size, _, hSize,
    ⟨kind, _, hKind, ⟨extractable, _, hExtractable, rfl, rfl⟩, rfl⟩, rfl⟩, rfl⟩, rfl⟩, rfl⟩ := fit
  have titleIds := RecordField.required_of_fits_key hTitleId
  have names := RecordField.required_of_fits_key hName
  have versions := orElse_of_fits hVersion (fun v => Spelled.text?_eq) Eq.symm
  have sizes := RecordField.orElse_of_fits_word hSize
  have kinds : orElse .other TitleKind.ofJson? kind = some t.kind := by
    refine orElse_of_fits hKind ?_ Eq.symm
    rintro v ⟨s, same, spelled⟩
    rw [TitleKind.ofJson?, spelled.choice?_eq, Option.map_some, same]
  have flags : orElse false bool? extractable = some t.extractable :=
    orElse_of_fits hExtractable (by rintro v rfl; rfl) Eq.symm
  have found : (Json.object ms).fields? fieldNames = _ := read
  simp [ofJson?, found, titleIds, names, versions, sizes, kinds, flags]

theorem readable_of_ofJson? {v : Json} {t : Title} (h : ofJson? v = some t) :
    ∃ titleId name version size kind extractable,
      v.fields? fieldNames = some [titleId, name, version, size, kind, extractable] ∧
        required text? titleId ≠ none ∧ required text? name ≠ none ∧ orElse "" text? version ≠ none ∧
        orElse 0 (natural? Decimal.largest64) size ≠ none ∧
        orElse .other TitleKind.ofJson? kind ≠ none ∧ orElse false bool? extractable ≠ none := by
  simp only [ofJson?, Option.bind_eq_bind, Option.bind_eq_some_iff] at h
  obtain ⟨slots, found, h⟩ := h
  split at h
  case h_2 => cases h
  case h_1 titleId name version size kind extractable =>
    simp only [Option.bind_eq_some_iff] at h
    obtain ⟨_, h1, _, h2, _, h3, _, h4, _, h5, _, h6, -⟩ := h
    refine ⟨titleId, name, version, size, kind, extractable, found, ?_⟩
    simp [h1, h2, h3, h4, h5, h6]

theorem ofJson?_eq_none {ms : List (List Glyph × Json)}
    (h : Repeats fieldNames ms ∨ Lacks ["titleId"] ms ∨ Lacks ["name"] ms ∨
      ∃ names ∈ fieldNames, GivesNull names ms) : ofJson? (.object ms) = none := by
  by_contra accepted
  obtain ⟨t, accepted⟩ := Option.ne_none_iff_exists'.1 accepted
  obtain ⟨titleId, name, version, size, kind, extractable, found, hTitleId, hName, hVersion, hSize,
    hKind, hExtractable⟩ := readable_of_ofJson? accepted
  obtain ⟨-, filled⟩ := (fields?_object_eq_some_iff apart_fieldNames).1 found
  obtain repeats | lacks | lacks | ⟨names, member, null⟩ := h
  · simp [repeats.fields?_eq apart_fieldNames] at found
  · exact hTitleId (required_of_lacks lacks (List.cons.inj filled).1)
  · exact hName (required_of_lacks lacks (List.cons.inj (List.cons.inj filled).2).1)
  · have slot := null.mem_slots member filled
    simp only [List.mem_cons, List.not_mem_nil, or_false] at slot
    obtain rfl | rfl | rfl | rfl | rfl | rfl := slot
    · exact hTitleId rfl
    · exact hName rfl
    · exact hVersion rfl
    · exact hSize rfl
    · exact hKind rfl
    · exact hExtractable rfl

end Title

namespace Session

open Json

theorem apart_fieldNames : fieldNames.Pairwise List.Disjoint := by
  simp [fieldNames, List.Disjoint]

theorem optionalText?_of_spelled {m : String} {v : Json} (h : Spelled m v) :
    optionalText? v = some (some m) := by
  have read := h.text?_eq
  obtain ⟨gs, rfl, -⟩ := h
  rw [optionalText?, read]
  · rfl
  · intro same
    cases same

theorem ofJson?_of_presents {s : Session} {ms : List (List Glyph × Json)}
    (h : Presents s.fields ms) : ofJson? (.object ms) = some s := by
  obtain ⟨slots, fit, read⟩ := h.fields?_eq apart_fieldNames
  simp only [fields, List.forall₂_cons_left_iff, List.forall₂_nil_left_iff] at fit
  obtain ⟨operationId, _, hOperationId, ⟨status, _, hStatus, ⟨transferred, _, hTransferred,
    ⟨total, _, hTotal, ⟨message, _, hMessage, rfl, rfl⟩, rfl⟩, rfl⟩, rfl⟩, rfl⟩ := fit
  have operationIds := RecordField.required_of_fits_key hOperationId
  have statuses : required SessionStatus.ofJson? status = some s.status := by
    refine required_of_fits hStatus (fun v spelled => ?_) id
    rw [SessionStatus.ofJson?, Spelled.choice?_eq spelled, Option.bind_some, SessionStatus.ofName?_name]
  have transfers := RecordField.orElse_of_fits_word hTransferred
  have totals := RecordField.orElse_of_fits_word hTotal
  have messages : orElse none optionalText? message = some s.errorMessage := by
    refine orElse_of_fits hMessage (fun v holds => ?_) Eq.symm
    cases given : s.errorMessage with
    | none =>
      simp only [given] at holds
      rw [holds]
      rfl
    | some m =>
      simp only [given] at holds
      exact optionalText?_of_spelled holds
  have found : (Json.object ms).fields? fieldNames = _ := read
  simp [ofJson?, found, operationIds, statuses, transfers, totals, messages]

theorem readable_of_ofJson? {v : Json} {s : Session} (h : ofJson? v = some s) :
    ∃ operationId status transferred total message,
      v.fields? fieldNames = some [operationId, status, transferred, total, message] ∧
        required text? operationId ≠ none ∧ required SessionStatus.ofJson? status ≠ none ∧
        orElse 0 (natural? Decimal.largest64) transferred ≠ none ∧
        orElse 0 (natural? Decimal.largest64) total ≠ none := by
  simp only [ofJson?, Option.bind_eq_bind, Option.bind_eq_some_iff] at h
  obtain ⟨slots, found, h⟩ := h
  split at h
  case h_2 => cases h
  case h_1 operationId status transferred total message =>
    simp only [Option.bind_eq_some_iff] at h
    obtain ⟨_, h1, _, h2, _, h3, _, h4, -⟩ := h
    refine ⟨operationId, status, transferred, total, message, found, ?_⟩
    simp [h1, h2, h3, h4]

theorem ofJson?_eq_none {ms : List (List Glyph × Json)}
    (h : Repeats fieldNames ms ∨ Lacks ["operationId"] ms ∨ Lacks ["status"] ms ∨
      ∃ names ∈ fieldNames, names ≠ ["errorMessage"] ∧ GivesNull names ms) :
    ofJson? (.object ms) = none := by
  by_contra accepted
  obtain ⟨s, accepted⟩ := Option.ne_none_iff_exists'.1 accepted
  obtain ⟨operationId, status, transferred, total, message, found, hOperationId, hStatus,
    hTransferred, hTotal⟩ := readable_of_ofJson? accepted
  obtain ⟨-, filled⟩ := (fields?_object_eq_some_iff apart_fieldNames).1 found
  obtain repeats | lacks | lacks | ⟨names, member, other, null⟩ := h
  · simp [repeats.fields?_eq apart_fieldNames] at found
  · exact hOperationId (required_of_lacks lacks (List.cons.inj filled).1)
  · exact hStatus (required_of_lacks lacks (List.cons.inj (List.cons.inj filled).2).1)
  · have front : [operationId, status, transferred, total].map Option.toList =
        (fieldNames.take 4).map (given · ms) := congrArg (List.take 4) filled
    have member' : names ∈ fieldNames.take 4 := by
      simpa [fieldNames, other] using member
    have slot := null.mem_slots member' front
    simp only [List.mem_cons, List.not_mem_nil, or_false] at slot
    obtain rfl | rfl | rfl | rfl := slot
    · exact hOperationId rfl
    · exact hStatus rfl
    · exact hTransferred rfl
    · exact hTotal rfl

end Session

open Json in
/-- In the text of any object, a title and a report are told by the members that bear names of their
fields, in whatever order and spelling and whatever is among them. A text in which such a member is
repeated, is missing though it is required, or is null, is refused; an error message may be null. So
is a text that goes on behind the object. -/
theorem only_known_members_count :
    (∀ (t : Title) ms bs, (Json.object ms).IsText bs → Presents t.fields ms →
        Title.decode? bs = some t) ∧
      (∀ (s : Session) ms bs, (Json.object ms).IsText bs → Presents s.fields ms →
        Session.decode? bs = some s) ∧
      ∀ ms bs, (Json.object ms).IsText bs →
        (Repeats Title.fieldNames ms ∨ Lacks ["titleId"] ms ∨ Lacks ["name"] ms ∨
          (∃ names ∈ Title.fieldNames, GivesNull names ms) → Title.decode? bs = none) ∧
        (Repeats Session.fieldNames ms ∨ Lacks ["operationId"] ms ∨ Lacks ["status"] ms ∨
          (∃ names ∈ Session.fieldNames, names ≠ ["errorMessage"] ∧ GivesNull names ms) →
            Session.decode? bs = none) ∧
        ∀ junk, (∃ b ∈ junk, Token.isBlank b = false) →
          Title.decode? (bs ++ junk) = none ∧ Session.decode? (bs ++ junk) = none := by
  refine ⟨fun t ms bs text presents => ?_, fun s ms bs text presents => ?_, fun ms bs text =>
    ⟨fun bad => ?_, fun bad => ?_, fun junk solid => ?_⟩⟩
  · rw [Title.decode?, text.parse?_eq, Option.bind_some, Title.ofJson?_of_presents presents]
  · rw [Session.decode?, text.parse?_eq, Option.bind_some, Session.ofJson?_of_presents presents]
  · rw [Title.decode?, text.parse?_eq, Option.bind_some, Title.ofJson?_eq_none bad]
  · rw [Session.decode?, text.parse?_eq, Option.bind_some, Session.ofJson?_eq_none bad]
  · rw [Title.decode?, Session.decode?, text.parse?_object_append solid]
    exact ⟨rfl, rfl⟩

open Json in
/-- A title in another order, under an older name of the flag and with a member that nobody knows,
two characters escaped and blanks around it; the same with a comma behind it; a report whose message
is null; a title that gives its flag under both names. -/
theorem reordered_records_are_read :
    let bs := Bytes.ofString
      " \x7b\"extractable\":true,\"n\\u0061me\":\"\\u00E9\",\"x\":[\x7b\x7d],\"titleId\":\"7\"\x7d\n"
    Title.decode? bs = some
        { titleId := "7", name := "é", version := "", size := 0, kind := .other, extractable := true } ∧
      Title.decode? (bs ++ Bytes.ofString " ,") = none ∧
      Session.decode? (record [("errorMessage", .null), ("status", .ofText "Failed"),
          ("operationId", .ofText "7")]).compact = some
        { operationId := "7", status := .failed, bytesTransferred := 0, totalBytes := 0
          errorMessage := none } ∧
      Title.decode? (record [("titleId", .ofText "7"), ("name", .ofText "7"),
        ("extractable", .bool true), ("isExtractable", .bool true)]).compact = none := by
  intro bs
  have means (s : String) : Glyph.Means (Glyph.ofText s) s.toList :=
    Glyph.text?_eq_some_iff.1 (Glyph.text?_ofText s)
  have compact {ms : List (String × Json)} (each : ∀ m ∈ ms, m.2.IsWritten) :
      (record ms).IsText (record ms).compact := Token.laid_spelling (IsWritten.record each).spells
  let flag : List Glyph × Json := (Glyph.ofText "extractable", .bool true)
  let name : List Glyph × Json :=
    ([.byte 0x6E, .unit 0x61, .byte 0x6D, .byte 0x65], .string [.unit 0xE9])
  let other : List Glyph × Json := (Glyph.ofText "x", .array [.object []])
  let titleId : List Glyph × Json := (Glyph.ofText "titleId", .ofText "7")
  have told : Glyph.Means name.1 ['n', 'a', 'm', 'e'] :=
    .raw (c := 'n') (.unit (c := 'a') (.raw (c := 'm') (.raw (c := 'e') .nil)))
  have accent : Glyph.Means [.unit 0xE9] ['é'] := .unit (c := 'é') .nil
  have laid : ∃ laid, (Json.object [flag, name, other, titleId]).IsText laid ∧ laid = bs :=
    ⟨_, .blank (b := 0x20) rfl (.token (.mark rfl)
      (.token (.string (Glyph.row_ofText _)) (.token (.mark rfl) (.token (.mark rfl) (.token (.mark rfl)
      (.token (.string (.cons (.byte rfl) (.cons (.unit (a := 0x30) (b := 0x30) (c := 0x36) (d := 0x31) rfl)
          (.cons (.byte rfl) (.cons (.byte rfl) .nil)))))
        (.token (.mark rfl)
        (.token (.string (.cons (.unit (a := 0x30) (b := 0x30) (c := 0x45) (d := 0x39) rfl) .nil))
        (.token (.mark rfl)
      (.token (.string (Glyph.row_ofText _)) (.token (.mark rfl) (.token (.mark rfl) (.token (.mark rfl)
        (.token (.mark rfl) (.token (.mark rfl) (.token (.mark rfl)
      (.token (.string (Glyph.row_ofText _)) (.token (.mark rfl) (.token (.string (Glyph.row_ofText _))
        (.token (.mark rfl) (.blank (b := 0x0A) rfl .nil))))))))))))))))))))), by decide⟩
  obtain ⟨_, text, rfl⟩ := laid
  refine ⟨only_known_members_count.1 _ _ _ text ⟨[titleId, name, flag], [other], ?_, ?_, ?_⟩,
    ((only_known_members_count.2.2 _ _ text).2.2 _ ⟨0x2C, by decide, by decide⟩).1,
    only_known_members_count.2.1 _ _ _ (compact ?_) ?_,
    (only_known_members_count.2.2 _ _ (compact ?_)).1 (.inl ?_)⟩
  · exact .member ⟨_, by decide, means "titleId"⟩ ⟨_, rfl, means "7"⟩
      (.member ⟨"name", by decide, told⟩ ⟨_, rfl, accent⟩
      (.omitted rfl (.omitted rfl (.omitted rfl
      (.member ⟨_, by decide, means "extractable"⟩ rfl .nil)))))
  · refine List.forall_mem_singleton.2 ⟨⟨_, means "x"⟩, fun f member => ?_⟩
    rw [bears_iff_of_text? (Glyph.text?_ofText "x")]
    revert f
    decide
  · have first : [flag, name, other, titleId].Perm [titleId, flag, name, other] :=
      List.perm_append_singleton titleId [flag, name, other]
    exact first.trans (.cons _ (.swap name flag [other]))
  · simp only [List.forall_mem_cons]
    exact ⟨.null, .text _, .text _, by simp⟩
  · refine ⟨_, [], ?_, by simp, (List.reverse_perm _).symm.trans (.of_eq (List.append_nil _).symm)⟩
    exact .member ⟨_, by decide, means "operationId"⟩ ⟨_, rfl, means "7"⟩
      (.member ⟨_, by decide, means "status"⟩ ⟨_, rfl, means "Failed"⟩
      (.omitted rfl (.omitted rfl (.member ⟨_, by decide, means "errorMessage"⟩ rfl .nil))))
  · simp only [List.forall_mem_cons]
    exact ⟨.text _, .text _, .bool _, .bool _, by simp⟩
  · exact ⟨["isExtractable", "extractable"], by decide, [_, _], _, [], _, [], rfl,
      ⟨_, by decide, means "extractable"⟩, ⟨_, by decide, means "isExtractable"⟩⟩

end TitleDock
