import TitleDock.Text.Blank

/-! Taking apart what was put together: a run of characters of one kind in front of what is not of
that kind or behind it, and pieces with a separator in front of each. -/

namespace TitleDock.Text

theorem span_append {α : Type} {p : α → Bool} {l r : List α} (all : ∀ a ∈ l, p a = true)
    (stop : ∀ a ∈ r.head?, p a = false) :
    (l ++ r).takeWhile p = l ∧ (l ++ r).dropWhile p = r := by
  rw [List.takeWhile_append_of_pos all, List.dropWhile_append_of_pos all]
  cases r with
  | nil => simp
  | cons a r => simp [stop a rfl]

section Split

variable {sep : Char} {cs piece next r : List Char} {pieces : List (List Char)}

theorem splitOn_append {piece : List Char} (clean : sep ∉ piece) (r : List Char) :
    ∃ first rest, splitOn sep r = first :: rest ∧ splitOn sep (piece ++ r) = (piece ++ first) :: rest := by
  induction piece with
  | nil =>
    cases pieces : splitOn sep r with
    | nil => exact absurd pieces (splitOn_ne_nil sep r)
    | cons first rest => exact ⟨first, rest, rfl, pieces⟩
  | cons c piece ih =>
    obtain ⟨other, clean'⟩ : sep ≠ c ∧ sep ∉ piece := by simpa using clean
    obtain ⟨first, rest, pieces, more⟩ := ih clean'
    refine ⟨first, rest, pieces, ?_⟩
    rw [List.cons_append, splitOn, if_neg (Ne.symm other), more]
    rfl

theorem splitOn_flatMap {pieces : List (List Char)} (clean : ∀ piece ∈ pieces, sep ∉ piece) :
    splitOn sep (pieces.flatMap (sep :: ·)) = [] :: pieces := by
  induction pieces with
  | nil => rfl
  | cons piece pieces ih =>
    have later := ih fun p member => clean p (List.mem_cons_of_mem _ member)
    obtain ⟨first, rest, same, split⟩ :=
      splitOn_append (clean piece List.mem_cons_self) (pieces.flatMap (sep :: ·))
    obtain ⟨rfl, rfl⟩ : [] = first ∧ pieces = rest := by simpa [later] using same
    rw [List.flatMap_cons, List.cons_append, splitOn, if_pos rfl, split, List.append_nil]

theorem splitOn_of_not_mem (clean : sep ∉ piece) : splitOn sep piece = [piece] := by
  obtain ⟨first, rest, pieces, split⟩ := splitOn_append clean []
  cases pieces
  simpa using split

theorem splitOn_append_cons (clean : sep ∉ piece) (r : List Char) :
    splitOn sep (piece ++ sep :: r) = piece :: splitOn sep r := by
  obtain ⟨first, rest, pieces, split⟩ := splitOn_append clean (sep :: r)
  rw [splitOn, if_pos rfl] at pieces
  cases pieces
  simpa using split

theorem splitOn_eq_cons_iff : splitOn sep cs = piece :: pieces ↔
    sep ∉ piece ∧ (cs = piece ∧ pieces = [] ∨
      ∃ r, cs = piece ++ sep :: r ∧ splitOn sep r = pieces) := by
  constructor
  · intro split
    by_cases clean : sep ∈ cs
    · obtain ⟨before, r, rfl, none⟩ := List.eq_append_cons_of_mem clean
      rw [splitOn_append_cons none] at split
      cases split
      exact ⟨none, .inr ⟨r, rfl, rfl⟩⟩
    · rw [splitOn_of_not_mem clean] at split
      cases split
      exact ⟨clean, .inl ⟨rfl, rfl⟩⟩
  · rintro ⟨clean, ⟨rfl, rfl⟩ | ⟨r, rfl, rfl⟩⟩
    · exact splitOn_of_not_mem clean
    · exact splitOn_append_cons clean r

theorem splitOn_eq_cons_cons_iff : splitOn sep cs = piece :: next :: pieces ↔
    sep ∉ piece ∧ ∃ r, cs = piece ++ sep :: r ∧ splitOn sep r = next :: pieces := by
  simp [splitOn_eq_cons_iff]

theorem splitOn_intercalate (clean : ∀ p ∈ piece :: pieces, sep ∉ p) :
    splitOn sep ([sep].intercalate (piece :: pieces)) = piece :: pieces := by
  induction pieces generalizing piece with
  | nil =>
    rw [List.intercalate_singleton]
    exact splitOn_of_not_mem (clean piece List.mem_cons_self)
  | cons next pieces ih =>
    obtain ⟨first, later⟩ := List.forall_mem_cons.1 clean
    rw [List.intercalate_cons_cons, List.append_assoc, List.singleton_append,
      splitOn_append_cons first, ih later]

end Split

section Ends

variable {p : Char → Bool} {cs body trail mid : List Char}

theorem stop_dropWhile (p : Char → Bool) (cs : List Char) :
    ∀ c ∈ (cs.dropWhile p).head?, p c = false := by
  intro c first
  have stop := List.head?_dropWhile_not p cs
  rwa [Option.mem_def.1 first] at stop

theorem all_takeWhile (p : Char → Bool) (cs : List Char) : ∀ c ∈ cs.takeWhile p, p c = true :=
  List.all_eq_true.1 List.all_takeWhile

theorem dropEndWhile_append (all : ∀ c ∈ trail, p c = true)
    (stop : ∀ c ∈ body.getLast?, p c = false) : dropEndWhile p (body ++ trail) = body := by
  rw [dropEndWhile, List.reverse_append,
    (span_append (by simpa using all) (by rwa [List.head?_reverse])).2, List.reverse_reverse]

theorem dropEndWhile_eq_iff : dropEndWhile p cs = body ↔
    ∃ trail, cs = body ++ trail ∧ (∀ c ∈ trail, p c = true) ∧
      ∀ c ∈ body.getLast?, p c = false := by
  constructor
  · rintro rfl
    refine ⟨(cs.reverse.takeWhile p).reverse, ?_, ?_, ?_⟩
    · rw [dropEndWhile, ← List.reverse_append, List.takeWhile_append_dropWhile, List.reverse_reverse]
    · intro c member
      exact all_takeWhile p cs.reverse c (List.mem_reverse.1 member)
    · rw [dropEndWhile, List.getLast?_reverse]
      exact stop_dropWhile p cs.reverse
  · rintro ⟨trail, rfl, all, stop⟩
    exact dropEndWhile_append all stop

theorem trim_eq_iff (some : mid ≠ []) : trim cs = mid ↔
    ∃ left right, cs = left ++ mid ++ right ∧ (∀ c ∈ left, isBlank c = true) ∧
      (∀ c ∈ right, isBlank c = true) ∧ (∀ c ∈ mid.head?, isBlank c = false) ∧
        ∀ c ∈ mid.getLast?, isBlank c = false := by
  have head (right : List Char) : (mid ++ right).head? = mid.head? := by
    cases mid with
    | nil => exact absurd rfl some
    | cons => rfl
  rw [trim, dropEndWhile_eq_iff]
  constructor
  · rintro ⟨right, split, blank, stop⟩
    refine ⟨cs.takeWhile isBlank, right, ?_, all_takeWhile isBlank cs, blank, ?_, stop⟩
    · rw [List.append_assoc, ← split, List.takeWhile_append_dropWhile]
    · have start := stop_dropWhile isBlank cs
      rwa [split, head] at start
  · rintro ⟨left, right, rfl, before, after, start, stop⟩
    refine ⟨right, ?_, after, stop⟩
    rw [List.append_assoc]
    exact (span_append before (by rwa [head])).2

theorem trim_append {left right : List Char} (some : mid ≠ []) (before : ∀ c ∈ left, isBlank c = true)
    (after : ∀ c ∈ right, isBlank c = true) (bare : ∀ c ∈ mid, isBlank c = false) :
    trim (left ++ mid ++ right) = mid :=
  (trim_eq_iff some).2 ⟨left, right, rfl, before, after,
    fun c first => bare c (List.mem_of_mem_head? first),
    fun c last => bare c (List.mem_of_getLast? last)⟩

theorem trim_eq_self (bare : ∀ c ∈ cs, isBlank c = false) : trim cs = cs := by
  by_cases none : cs = []
  · rw [none]
    rfl
  · have whole : trim ([] ++ cs ++ []) = cs := trim_append none nofun nofun bare
    simpa using whole

end Ends

end TitleDock.Text
