import Mathlib.Data.List.Basic
import TitleDock.Json.Value
import TitleDock.Proofs.Json.Meaning

/-! The members of an object, known by what their keys mean. A field takes the values of the members
that bear one of its names; it is filled if there is one such member, and left empty if there is
none. Other members, and the order of all of them, make no difference. -/

namespace TitleDock.Json

/-- The key of the member means one of the names. -/
def Bears (names : List String) (m : List Glyph × Json) : Prop :=
  ∃ name ∈ names, Glyph.Means m.1 name.toList

section Bearing

variable {names : List String} {m : List Glyph × Json} {s : String}

theorem bears_iff_of_text? (h : Glyph.text? m.1 = some s) : Bears names m ↔ s ∈ names := by
  constructor
  · rintro ⟨name, member, means⟩
    rw [← Glyph.text?_eq_some_iff, h] at means
    cases means
    exact member
  · exact fun member => ⟨s, member, Glyph.text?_eq_some_iff.1 h⟩

instance (names : List String) (m : List Glyph × Json) : Decidable (Bears names m) :=
  decidable_of_iff ((Glyph.text? m.1).any (· ∈ names) = true) (by
    simp [Bears, ← Glyph.text?_eq_some_iff, Option.any_eq_true, and_comm])

end Bearing

def given (names : List String) (ms : List (List Glyph × Json)) : List Json :=
  (ms.filter (Bears names ·)).map (·.2)

section Given

variable {names : List String} {ms : List (List Glyph × Json)} {v : Json}

theorem mem_given : v ∈ given names ms ↔ ∃ m ∈ ms, Bears names m ∧ m.2 = v := by
  simp [given, and_assoc]

theorem given_append (ms ms' : List (List Glyph × Json)) :
    given names (ms ++ ms') = given names ms ++ given names ms' := by
  rw [given, List.filter_append, List.map_append, given, given]

theorem given_cons_of_bears {m : List Glyph × Json} (h : Bears names m) :
    given names (m :: ms) = m.2 :: given names ms := by
  simp [given, h]

theorem given_cons_of_not_bears {m : List Glyph × Json} (h : ¬ Bears names m) :
    given names (m :: ms) = given names ms := by
  simp [given, h]

theorem given_eq_of_perm {ms' : List (List Glyph × Json)} (perm : ms.Perm ms')
    (short : (given names ms').length ≤ 1) : given names ms = given names ms' := by
  have order : (given names ms).Perm (given names ms') :=
    (perm.filter (Bears names ·)).map Prod.snd
  rcases alone : given names ms' with _ | ⟨v, _ | ⟨w, more⟩⟩ <;> rw [alone] at order short
  · exact order.eq_nil
  · exact List.perm_singleton.1 order
  · simp at short

theorem given_eq_nil (h : ∀ m ∈ ms, ¬ Bears names m) : given names ms = [] := by
  rw [given, List.filter_eq_nil_iff.2 (by simpa using h), List.map_nil]

end Given

section Filling

variable {known : List (List String)} {ms : List (List Glyph × Json)} {slots : List (Option Json)}

theorem fill?_map (apart : known.Pairwise List.Disjoint) (name : String) (v : Json)
    (slot : List String → Option Json) : fill? name v known (known.map slot) =
      if ∃ names ∈ known, name ∈ names ∧ slot names ≠ none then none
      else some (known.map fun names => if name ∈ names then some v else slot names) := by
  induction known with
  | nil => simp [fill?]
  | cons names known ih =>
    obtain ⟨others, apart⟩ := List.pairwise_cons.1 apart
    rw [List.map_cons, fill?.eq_def]
    dsimp only
    by_cases member : name ∈ names
    · have unknown : ∀ other ∈ known, name ∉ other := fun other h => others other h member
      have same : known.map (fun other => if name ∈ other then some v else slot other) =
          known.map slot := List.map_congr_left fun other h => if_neg (unknown other h)
      rw [if_pos member, List.map_cons, if_pos member, same]
      cases filled : slot names with
      | some w => exact (if_pos ⟨names, List.mem_cons_self, member, by simp [filled]⟩).symm
      | none =>
        refine (if_neg ?_).symm
        rintro ⟨other, h, known', full⟩
        obtain rfl | h := List.mem_cons.1 h
        · exact full filled
        · exact unknown other h known'
    · rw [if_neg member, ih apart, List.map_cons, if_neg member]
      simp only [List.exists_mem_cons_iff, member, false_and, false_or]
      split <;> rfl

theorem length_toList_le (o : Option Json) : o.toList.length ≤ 1 := by
  cases o <;> simp

theorem foldlM_fill?_eq_some_iff (apart : known.Pairwise List.Disjoint) (named : List (String × Json))
    (slot : List String → Option Json) :
    named.foldlM (fun slots (name, v) => fill? name v known slots) (known.map slot) = some slots ↔
      slots.map Option.toList = known.map fun names =>
        (slot names).toList ++ (named.filter (·.1 ∈ names)).map (·.2) := by
  induction named generalizing slot with
  | nil =>
    have injective : Function.Injective (List.map (Option.toList (α := Json))) :=
      List.map_injective_iff.2 fun a b => by cases a <;> cases b <;> simp
    have slots' : known.map (fun names => (slot names).toList) = (known.map slot).map Option.toList := by
      rw [List.map_map]
      rfl
    simp only [List.foldlM_nil, List.filter_nil, List.map_nil, List.append_nil]
    rw [slots', injective.eq_iff]
    exact Option.some_inj.trans eq_comm
  | cons m named ih =>
    obtain ⟨name, v⟩ := m
    rw [List.foldlM_cons]
    simp only [fill?_map apart]
    by_cases taken : ∃ names ∈ known, name ∈ names ∧ slot names ≠ none
    · rw [if_pos taken]
      refine iff_of_false (by simp) fun full => ?_
      obtain ⟨names, member, knows, filled⟩ := taken
      obtain ⟨w, filled⟩ := Option.ne_none_iff_exists'.1 filled
      have twice := List.mem_map_of_mem (f := fun names => (slot names).toList ++
        (((name, v) :: named).filter (·.1 ∈ names)).map (·.2)) member
      rw [← full] at twice
      obtain ⟨o, -, same⟩ := List.mem_map.1 twice
      have short := length_toList_le o
      simp [same, filled, knows] at short
    · rw [if_neg taken]
      refine (ih _).trans (iff_of_eq (congrArg _ (List.map_congr_left fun names member => ?_)))
      by_cases knows : name ∈ names
      · have empty : slot names = none := by
          by_contra filled
          exact taken ⟨names, member, knows, filled⟩
        simp [knows, empty]
      · simp [knows]

theorem members?_object_eq_some {named : List (String × Json)}
    (h : (Json.object ms).members? = some named) :
    (∀ m ∈ ms, ∃ s : String, Glyph.Means m.1 s.toList) ∧
      ∀ names, given names ms = (named.filter (·.1 ∈ names)).map (·.2) := by
  rw [members?] at h
  induction ms generalizing named with
  | nil =>
    cases h
    exact ⟨by simp, fun names => rfl⟩
  | cons m ms ih =>
    obtain ⟨key, v⟩ := m
    simp only [List.mapM_cons, Option.bind_eq_bind, Option.bind_eq_some_iff, Option.map_eq_some_iff] at h
    obtain ⟨-, ⟨s, read, rfl⟩, rest, later, same⟩ := h
    cases same
    obtain ⟨texts, values⟩ := ih later
    refine ⟨List.forall_mem_cons.2 ⟨⟨s, Glyph.text?_eq_some_iff.1 read⟩, texts⟩, fun names => ?_⟩
    have bears : Bears names (key, v) ↔ s ∈ names := bears_iff_of_text? read
    by_cases member : s ∈ names
    · rw [given_cons_of_bears (bears.2 member), values]
      simp [member]
    · rw [given_cons_of_not_bears (mt bears.1 member), values]
      simp [member]

theorem isSome_members?_object (texts : ∀ m ∈ ms, ∃ s : String, Glyph.Means m.1 s.toList) :
    ∃ named, (Json.object ms).members? = some named := by
  rw [members?]
  induction ms with
  | nil => exact ⟨[], rfl⟩
  | cons m ms ih =>
    obtain ⟨⟨s, means⟩, later⟩ := List.forall_mem_cons.1 texts
    obtain ⟨named, read⟩ := ih later
    obtain ⟨key, v⟩ := m
    exact ⟨(s, v) :: named, by simp [List.mapM_cons, read, Glyph.text?_eq_some_iff.2 means]⟩

theorem fields?_object (known : List (List String)) (ms : List (List Glyph × Json)) :
    (Json.object ms).fields? known = (Json.object ms).members?.bind fun named =>
      named.foldlM (fun slots (name, v) => fill? name v known slots) (known.map fun _ => none) := by
  rw [fields?]
  · rfl
  · intro items same
    cases same

theorem fields?_object_eq_some_iff (apart : known.Pairwise List.Disjoint) :
    (Json.object ms).fields? known = some slots ↔
      (∀ m ∈ ms, ∃ s : String, Glyph.Means m.1 s.toList) ∧
        slots.map Option.toList = known.map (given · ms) := by
  rw [fields?_object]
  constructor
  · intro h
    obtain ⟨named, read, filled⟩ := Option.bind_eq_some_iff.1 h
    obtain ⟨texts, values⟩ := members?_object_eq_some read
    refine ⟨texts, ((foldlM_fill?_eq_some_iff apart named _).1 filled).trans ?_⟩
    exact List.map_congr_left fun names _ => (values names).symm
  · rintro ⟨texts, filled⟩
    obtain ⟨named, read⟩ := isSome_members?_object texts
    obtain ⟨-, values⟩ := members?_object_eq_some read
    rw [read, Option.bind_some, foldlM_fill?_eq_some_iff apart, filled]
    exact List.map_congr_left fun names _ => values names

theorem exists_slot (filled : slots.map Option.toList = known.map (given · ms)) {names : List String}
    (member : names ∈ known) : ∃ o ∈ slots, o.toList = given names ms := by
  have slot := List.mem_map_of_mem (f := (given · ms)) member
  rw [← filled] at slot
  exact List.mem_map.1 slot

end Filling

/-- A field of a record: its names, which values it may be given as, and whether it may be left out.
-/
structure RecordField where
  names : List String
  Holds : Json → Prop
  Omissible : Prop

def RecordField.Fits (f : RecordField) : Option Json → Prop
  | some v => f.Holds v
  | none => f.Omissible

/-- Each field is given under one of its names, or left out. -/
inductive Lists : List RecordField → List (List Glyph × Json) → Prop
  | nil : Lists [] []
  | member {f : RecordField} {fs : List RecordField} {m : List Glyph × Json}
      {ms : List (List Glyph × Json)} (named : Bears f.names m) (holds : f.Holds m.2)
      (rest : Lists fs ms) : Lists (f :: fs) (m :: ms)
  | omitted {f : RecordField} {fs : List RecordField} {ms : List (List Glyph × Json)}
      (omissible : f.Omissible) (rest : Lists fs ms) : Lists (f :: fs) ms

/-- The members list the fields in some order, among members with other names. -/
def Presents (fs : List RecordField) (ms : List (List Glyph × Json)) : Prop :=
  ∃ known unknown, Lists fs known ∧
    (∀ m ∈ unknown, (∃ s : String, Glyph.Means m.1 s.toList) ∧ ∀ f ∈ fs, ¬ Bears f.names m) ∧
    ms.Perm (known ++ unknown)

section Presenting

variable {fs : List RecordField} {ms : List (List Glyph × Json)}

theorem Bears.not_of_disjoint {m : List Glyph × Json} {names other : List String}
    (h : Bears names m) (apart : names.Disjoint other) : ¬ Bears other m := by
  obtain ⟨s, member, means⟩ := h
  have read := Glyph.text?_eq_some_iff.2 means
  exact fun second => apart member ((bears_iff_of_text? read).1 second)

theorem Lists.exists_bears (h : Lists fs ms) : ∀ m ∈ ms, ∃ f ∈ fs, Bears f.names m := by
  induction h with
  | nil => simp
  | member named holds rest ih =>
    refine List.forall_mem_cons.2 ⟨⟨_, List.mem_cons_self, named⟩, fun m member => ?_⟩
    obtain ⟨f, h, bears⟩ := ih m member
    exact ⟨f, List.mem_cons_of_mem _ h, bears⟩
  | omitted omissible rest ih =>
    intro m member
    obtain ⟨f, h, bears⟩ := ih m member
    exact ⟨f, List.mem_cons_of_mem _ h, bears⟩

theorem Lists.given_eq_nil (h : Lists fs ms) {names : List String}
    (others : ∀ other ∈ fs.map RecordField.names, names.Disjoint other) : given names ms = [] :=
  Json.given_eq_nil fun m member bears => by
    obtain ⟨f, listed, other⟩ := h.exists_bears m member
    exact bears.not_of_disjoint (others _ (List.mem_map_of_mem listed)) other

theorem Lists.exists_slots (h : Lists fs ms)
    (apart : (fs.map RecordField.names).Pairwise List.Disjoint) :
    ∃ slots, List.Forall₂ RecordField.Fits fs slots ∧
      slots.map Option.toList = (fs.map RecordField.names).map (given · ms) := by
  induction h with
  | nil => exact ⟨[], .nil, rfl⟩
  | @member f fs m ms named holds rest ih =>
    obtain ⟨others, apart⟩ := List.pairwise_cons.1 apart
    obtain ⟨slots, fit, filled⟩ := ih apart
    refine ⟨some m.2 :: slots, .cons holds fit, ?_⟩
    rw [List.map_cons, filled, List.map_cons, List.map_cons, given_cons_of_bears named,
      rest.given_eq_nil others]
    refine congrArg _ (List.map_congr_left fun names member => ?_)
    exact (given_cons_of_not_bears (named.not_of_disjoint (others names member))).symm
  | @omitted f fs ms omissible rest ih =>
    obtain ⟨others, apart⟩ := List.pairwise_cons.1 apart
    obtain ⟨slots, fit, filled⟩ := ih apart
    refine ⟨none :: slots, .cons omissible fit, ?_⟩
    rw [List.map_cons, filled, List.map_cons, List.map_cons, rest.given_eq_nil others]
    rfl

theorem Presents.fields?_eq (h : Presents fs ms)
    (apart : (fs.map RecordField.names).Pairwise List.Disjoint) :
    ∃ slots, List.Forall₂ RecordField.Fits fs slots ∧
      (Json.object ms).fields? (fs.map RecordField.names) = some slots := by
  obtain ⟨known, unknown, lists, others, perm⟩ := h
  obtain ⟨slots, fit, filled⟩ := lists.exists_slots apart
  refine ⟨slots, fit, (fields?_object_eq_some_iff apart).2 ⟨fun m member => ?_, ?_⟩⟩
  · obtain member | member := List.mem_append.1 (perm.mem_iff.1 member)
    · obtain ⟨f, -, s, -, means⟩ := lists.exists_bears m member
      exact ⟨s, means⟩
    · exact (others m member).1
  · rw [filled]
    refine List.map_congr_left fun names member => ?_
    obtain ⟨f, h, rfl⟩ := List.mem_map.1 member
    have foreign : given f.names unknown = [] :=
      Json.given_eq_nil fun m member => (others m member).2 f h
    have all : given f.names (known ++ unknown) = given f.names known := by
      rw [given_append, foreign, List.append_nil]
    obtain ⟨o, -, same⟩ := exists_slot filled member
    have short : (given f.names (known ++ unknown)).length ≤ 1 := by
      rw [all, ← same]
      exact length_toList_le o
    rw [given_eq_of_perm perm short, all]

end Presenting

end TitleDock.Json
