import Mathlib.Data.List.Chain
import TitleDock.Proofs.Text.Pieces
import TitleDock.Settings.Environment

/-! The paths that the names of variables stand for. A name is read in any case, and one that is
made of the parts of a path, with two underscores between them, leads to this path. -/

namespace TitleDock

section Case

variable {c x : Char}

theorem toLower_cases (c : Char) :
    c.toLower = c ∨ 65 ≤ c.toNat ∧ c.toNat ≤ 90 ∧ c.toLower.toNat = c.toNat + 32 := by
  delta Char.toLower
  split
  case isTrue upper =>
    obtain ⟨low, high⟩ := upper
    simp only [ge_iff_le, UInt32.le_iff_toNat_le] at low high
    simp only [Char.toNat, UInt32.toNat_add] at *
    have first : 'A'.val.toNat = 65 := rfl
    have last : 'Z'.val.toNat = 90 := rfl
    have apart : ('a'.val - 'A'.val).toNat = 32 := rfl
    omega
  case isFalse => exact .inl rfl

theorem toList_toLower (s : String) : s.toLower.toList = s.toList.map Char.toLower :=
  String.toList_map

theorem toLower_toLower (c : Char) : c.toLower.toLower = c.toLower := by
  obtain same | ⟨low, high, moved⟩ := toLower_cases c
  · rw [same, same]
  · obtain same | ⟨-, high', -⟩ := toLower_cases c.toLower
    · exact same
    · omega

theorem toLower_eq_iff (other : x.toNat < 65 ∨ 90 < x.toNat ∧ x.toNat < 97) :
    c.toLower = x ↔ c = x := by
  obtain same | ⟨low, high, moved⟩ := toLower_cases c
  · rw [same]
  · refine iff_of_false ?_ ?_ <;> rintro rfl <;> omega

end Case

namespace Text

theorem isBlank_toLower (c : Char) : isBlank c.toLower = isBlank c := by
  obtain same | ⟨low, high, moved⟩ := toLower_cases c
  · rw [same]
  · simp only [isBlank, moved]
    grind

theorem trim_toLower (cs : List Char) : trim (cs.map Char.toLower) = (trim cs).map Char.toLower := by
  have same : isBlank ∘ Char.toLower = isBlank := funext isBlank_toLower
  rw [trim, trim, dropEndWhile, dropEndWhile, List.dropWhile_map, same, ← List.map_reverse,
    List.dropWhile_map, same, List.map_reverse]

theorem splitOn_toLower {sep : Char} (other : sep.toNat < 65 ∨ 90 < sep.toNat ∧ sep.toNat < 97)
    (cs : List Char) :
    splitOn sep (cs.map Char.toLower) = (splitOn sep cs).map (List.map Char.toLower) := by
  induction cs with
  | nil => rfl
  | cons c cs ih =>
    rw [List.map_cons, splitOn, splitOn, ih]
    simp only [toLower_eq_iff other]
    split
    · rfl
    · cases splitOn sep cs <;> rfl

end Text

namespace Environment

theorem pointed_cons {c : Char} {cs : List Char} (alone : c = '_' → cs.head? ≠ some '_') :
    pointed (c :: cs) = c :: pointed cs := by
  rw [pointed]
  rintro r rfl rfl
  exact alone rfl rfl

theorem pointed_toLower (cs : List Char) :
    pointed (cs.map Char.toLower) = (pointed cs).map Char.toLower := by
  have underscore (c : Char) : c.toLower = '_' ↔ c = '_' := toLower_eq_iff (.inr (by decide))
  fun_induction pointed cs with
  | case1 r ih => exact congrArg ('.' :: ·) ih
  | case2 c r alone ih =>
    rw [List.map_cons, pointed_cons, ih, List.map_cons]
    rw [underscore, List.head?_map]
    rintro rfl next
    obtain ⟨d, first, same⟩ := Option.map_eq_some_iff.1 next
    obtain rfl := (underscore d).1 same
    obtain ⟨r', rfl⟩ := List.head?_eq_some_iff.1 first
    exact alone r' rfl rfl
  | case3 => rfl

theorem afterIgnoringCase?_toLower (ws cs : List Char) :
    afterIgnoringCase? ws (cs.map Char.toLower) =
      (afterIgnoringCase? ws cs).map (List.map Char.toLower) := by
  fun_induction afterIgnoringCase? ws cs with
  | case1 r => rfl
  | case2 => rfl
  | case3 w ws c r same ih => rw [List.map_cons, afterIgnoringCase?, toLower_toLower, if_pos same, ih]
  | case4 w ws c r other =>
    rw [List.map_cons, afterIgnoringCase?, toLower_toLower, if_neg other]
    rfl

theorem path?_toLower (name : String) : path? name.toLower = path? name := by
  have twice (p : List Char) : (p.map Char.toLower).map Char.toLower = p.map Char.toLower := by
    rw [List.map_map]
    exact List.map_congr_left fun c _ => toLower_toLower c
  have empty : List.isEmpty ∘ List.map Char.toLower = List.isEmpty := by
    funext p
    cases p <;> rfl
  rw [path?, path?, toList_toLower, Text.trim_toLower, afterIgnoringCase?_toLower]
  cases afterIgnoringCase? nameStart.toList (Text.trim name.toList) with
  | none => rfl
  | some rest =>
    simp only [Option.map_some, Option.bind_eq_bind, Option.bind_some]
    rw [pointed_toLower, Text.trim_toLower, Text.splitOn_toLower (.inl (by decide)), List.any_map,
      empty, List.map_map]
    split
    · rfl
    · congr 2
      funext p
      exact congrArg String.ofList (twice p)

/-- A part of a path as it can stand in a name: without blanks, points and capitals, and without an
underscore beside another one or at the end. -/
structure IsPart (part : String) : Prop where
  proper : part ≠ ""
  chars : part.toList.all fun c => c.toLower = c ∧ Text.isBlank c = false ∧ c ≠ '.'
  apart : part.toList.IsChain fun a b => a ≠ '_' ∨ b ≠ '_'
  last : part.toList.getLast? ≠ some '_'

instance (part : String) : Decidable (IsPart part) :=
  decidable_of_iff (part ≠ "" ∧
      (part.toList.all fun c => c.toLower = c ∧ Text.isBlank c = false ∧ c ≠ '.') = true ∧
      part.toList.IsChain (fun a b => a ≠ '_' ∨ b ≠ '_') ∧ part.toList.getLast? ≠ some '_')
    ⟨fun ⟨h₁, h₂, h₃, h₄⟩ => ⟨h₁, h₂, h₃, h₄⟩, fun h => ⟨h.1, h.2, h.3, h.4⟩⟩

theorem IsPart.of_mem {part : String} (h : IsPart part) {c : Char} (member : c ∈ part.toList) :
    c.toLower = c ∧ Text.isBlank c = false ∧ c ≠ '.' := by
  simpa using List.all_eq_true.1 h.chars c member

/-- The name is made of the parts of the path, in any case. -/
def Spells (name : String) (path : List String) : Prop :=
  name.toLower = nameStart.toLower ++ "__".intercalate path

instance (name : String) (path : List String) : Decidable (Spells name path) :=
  inferInstanceAs (Decidable (_ = _))

section Parts

variable {part : List Char} (apart : part.IsChain fun a b => a ≠ '_' ∨ b ≠ '_')
  (last : part.getLast? ≠ some '_')

include apart last

theorem pointed_append (r : List Char) : pointed (part ++ r) = part ++ pointed r := by
  induction part with
  | nil => rfl
  | cons c part ih =>
    have alone : c = '_' → (part ++ r).head? ≠ some '_' := by
      rintro rfl
      cases part with
      | nil => exact absurd rfl last
      | cons d part => simpa using (List.isChain_cons_cons.1 apart).1
    have last' : part.getLast? ≠ some '_' := by
      cases part with
      | nil => simp
      | cons d part => rwa [List.getLast?_cons_cons] at last
    rw [List.cons_append, pointed_cons alone, ih apart.tail last', List.cons_append]

end Parts

theorem pointed_intercalate {path : List String} (parts : ∀ part ∈ path, IsPart part) :
    pointed (['_', '_'].intercalate (path.map String.toList)) =
      ['.'].intercalate (path.map String.toList) := by
  induction path with
  | nil => rfl
  | cons part path ih =>
    obtain ⟨first, later⟩ := List.forall_mem_cons.1 parts
    cases path with
    | nil =>
      have alone := pointed_append first.apart first.last []
      simpa [pointed] using alone
    | cons next path =>
      rw [List.map_cons, List.map_cons, List.intercalate_cons_cons, List.intercalate_cons_cons,
        List.append_assoc, pointed_append first.apart first.last, List.append_assoc]
      exact congrArg (part.toList ++ '.' :: ·) (ih later)

theorem afterIgnoringCase?_append (ws r : List Char) :
    afterIgnoringCase? ws (ws.map Char.toLower ++ r) = some r := by
  induction ws with
  | nil => rfl
  | cons w ws ih =>
    rw [List.map_cons, List.cons_append, afterIgnoringCase?, toLower_toLower, if_pos rfl, ih]

theorem forall_mem_intercalate {P : Char → Prop} {sep : List Char} {pieces : List (List Char)}
    (between : ∀ c ∈ sep, P c) (within : ∀ piece ∈ pieces, ∀ c ∈ piece, P c) :
    ∀ c ∈ sep.intercalate pieces, P c := by
  induction pieces with
  | nil => simp
  | cons piece pieces ih =>
    obtain ⟨first, later⟩ := List.forall_mem_cons.1 within
    cases pieces with
    | nil => rwa [List.intercalate_singleton]
    | cons next pieces =>
      rw [List.intercalate_cons_cons, List.forall_mem_append, List.forall_mem_append]
      exact ⟨⟨first, between⟩, ih later⟩

theorem path?_of_spells {name : String} {path : List String} (h : Spells name path)
    (long : path ≠ []) (parts : ∀ part ∈ path, IsPart part) : path? name = some path := by
  have each : ∀ p ∈ path.map String.toList,
      p ≠ [] ∧ ∀ c ∈ p, c.toLower = c ∧ Text.isBlank c = false ∧ c ≠ '.' := by
    simp only [List.forall_mem_map]
    exact fun part member => ⟨mt String.toList_eq_nil_iff.1 (parts part member).proper,
      fun c inside => (parts part member).of_mem inside⟩
  have bare {sep : List Char} (blank : ∀ c ∈ sep, Text.isBlank c = false) :
      ∀ c ∈ sep.intercalate (path.map String.toList), Text.isBlank c = false :=
    forall_mem_intercalate blank fun p member c inside => ((each p member).2 c inside).2.1
  have whole : Text.trim (nameStart.toList.map Char.toLower ++
      ['_', '_'].intercalate (path.map String.toList)) =
        nameStart.toList.map Char.toLower ++ ['_', '_'].intercalate (path.map String.toList) := by
    have start : (nameStart.toList.map Char.toLower).all (Text.isBlank · = false) := by
      decide +kernel
    refine Text.trim_eq_self (List.forall_mem_append.2 ⟨?_, bare ?_⟩)
    · exact fun c member => by simpa using List.all_eq_true.1 start c member
    · exact List.forall_mem_cons.2 ⟨rfl, List.forall_mem_singleton.2 rfl⟩
  have split : Text.splitOn '.' (['.'].intercalate (path.map String.toList)) =
      path.map String.toList := by
    obtain ⟨first, rest, rfl⟩ := List.exists_cons_of_ne_nil long
    refine Text.splitOn_intercalate fun p member dot => ?_
    exact ((each p member).2 '.' dot).2.2 rfl
  have full : (path.map String.toList).any List.isEmpty = false := by
    simpa using fun p member => (each p member).1
  rw [← path?_toLower, h, path?, String.toList_append, String.toList_intercalate, toList_toLower,
    show "__".toList = ['_', '_'] from rfl, whole, afterIgnoringCase?_append]
  simp only [Option.bind_eq_bind, Option.bind_some]
  rw [pointed_intercalate parts, Text.trim_eq_self (bare (List.forall_mem_singleton.2 rfl)), split,
    full, List.map_map, if_neg (by simp), Option.some_inj]
  have same : ∀ part ∈ path, String.ofList (part.toList.map Char.toLower) = part := by
    intro part member
    rw [List.map_congr_left fun c inside => ((parts part member).of_mem inside).1, List.map_id',
      String.ofList_toList]
  exact (List.map_congr_left same).trans (List.map_id' path)

end Environment

end TitleDock
