import Mathlib.Data.List.Basic
import TitleDock.Proofs.Files.Names

/-! Trees that grow. Making folders leaves every file and folder where it is; what is new is
folders, each where a path leads that was asked for. Where a path leads does not change while a tree
grows, nor when a file goes to which it does not lead. -/

namespace TitleDock.Files.Tree

structure KeepsFolders (t t' : Tree) : Prop where
  workingFolder : t'.workingFolder = t.workingFolder
  folders : ∀ p, t.isFolder p = true → t'.isFolder p = true

section Walk

variable {t t' : Tree} {p q folder : Place} {path name : String}

theorem isFolder_iff : t.isFolder p = true ↔ t.get? p = some .folder := by
  simp [isFolder]

theorem walk_cons_of_not_isFolder (h : ¬ t.isFolder p = true) (name : String) (rest : List String) :
    t.walk p (name :: rest) = .error .notDirectory := by
  rw [walk, if_pos (by simpa using h)]

theorem isFolder_of_walk {names : List String} (proper : names ≠ []) (h : t.walk p names = .ok q) :
    t.isFolder p = true := by
  cases names with
  | nil => exact absurd rfl proper
  | cons name rest =>
    by_contra no
    rw [walk_cons_of_not_isFolder no] at h
    cases h

theorem walk_append (t : Tree) (p : Place) (ns ms : List String) :
    t.walk p (ns ++ ms) = (t.walk p ns).bind fun q => t.walk q ms := by
  induction ns generalizing p with
  | nil => rfl
  | cons name rest ih =>
    rw [List.cons_append, walk, walk]
    split
    · rfl
    · split
      · exact ih p
      · split
        · exact ih _
        · split
          · rfl
          · split
            · exact ih _
            · rfl

theorem KeepsFolders.walk (h : KeepsFolders t t') {names : List String}
    (there : (t.get? q).isSome → (t'.get? q).isSome) (arrives : t.walk p names = .ok q) :
    t'.walk p names = .ok q := by
  induction names generalizing p with
  | nil => exact arrives
  | cons name rest ih =>
    have here := isFolder_of_walk (by simp) arrives
    have here' := h.folders p here
    rw [Tree.walk, if_neg (by simpa using here)] at arrives
    rw [Tree.walk, if_neg (by simpa using here')]
    split at arrives
    case isTrue point => rw [if_pos point]; exact ih arrives
    case isFalse point =>
      rw [if_neg point]
      split at arrives
      case isTrue up => rw [if_pos up]; exact ih arrives
      case isFalse up =>
        rw [if_neg up]
        split at arrives
        case isTrue long => cases arrives
        case isFalse long =>
          rw [if_neg long]
          split at arrives
          case h_1 held =>
            -- the walk goes on from here only in a folder, and ends only at `q`
            have next : (t'.get? (p ++ [name])).isSome := by
              cases rest with
              | nil =>
                obtain rfl : p ++ [name] = q := by simpa [Tree.walk] using arrives
                exact there (by rw [held]; rfl)
              | cons second rest =>
                have inside := h.folders _ (isFolder_of_walk (by simp) arrives)
                rw [isFolder_iff.1 inside]
                rfl
            obtain ⟨n, found⟩ := Option.isSome_iff_exists.1 next
            rw [found]
            exact ih arrives
          case h_2 => cases arrives

theorem locate_eq_ok : t.locate path = .ok p ↔ check path = .ok () ∧
    t.walk (t.start path) (names path) = .ok p ∧
      (endsWithSlash path = true ∨ (names path).getLast? = some "." → t.isFolder p = true) := by
  rw [locate]
  cases check path with
  | error e => simp [bind, Except.bind]
  | ok =>
    cases walked : t.walk (t.start path) (names path) with
    | error e => simp [bind, Except.bind]
    | ok q =>
      simp only [bind, Except.bind, true_and, Except.ok.injEq]
      split
      case isTrue fails =>
        simp only [reduceCtorEq, false_iff]
        rintro ⟨rfl, folder⟩
        exact fails.2 (folder fails.1)
      case isFalse fits =>
        constructor
        · intro same
          obtain rfl := Except.ok.inj same
          exact ⟨rfl, fun ending => by_contra fun no => fits ⟨ending, no⟩⟩
        · rintro ⟨rfl, -⟩
          rfl

theorem KeepsFolders.locate (h : KeepsFolders t t')
    (there : (t.get? p).isSome → (t'.get? p).isSome) (leads : t.locate path = .ok p) :
    t'.locate path = .ok p := by
  obtain ⟨checked, arrives, folder⟩ := locate_eq_ok.1 leads
  refine locate_eq_ok.2 ⟨checked, ?_, fun end' => h.folders p (folder end')⟩
  have start : t'.start path = t.start path := by rw [start, start, h.workingFolder]
  rw [start]
  exact h.walk there arrives

/-- A path names an entry of a folder, which need not exist. -/
structure Enters (t : Tree) (path : String) (folder : Place) (name : String) : Prop where
  checked : check path = .ok ()
  walk : t.walk (t.start path) (names path).dropLast = .ok folder
  isFolder : t.isFolder folder = true
  last : (names path).getLast? = some name
  proper : ¬ (name = "." ∨ name = "..")

theorem enters_of_entryAt (h : t.entryAt path = .ok (folder, some name)) :
    t.Enters path folder name := by
  rw [entryAt] at h
  cases checked : check path with
  | error e => simp [checked, bind, Except.bind] at h
  | ok =>
    cases walk : t.walk (t.start path) (names path).dropLast with
    | error e => simp [checked, walk, bind, Except.bind] at h
    | ok q =>
      simp only [checked, walk, bind, Except.bind] at h
      split at h
      case isTrue => cases h
      case isFalse inside =>
        split at h
        case h_1 last' last =>
          split at h
          case isTrue => cases h
          case isFalse proper =>
            obtain ⟨rfl, rfl⟩ : q = folder ∧ last' = name := by simpa using h
            exact ⟨checked, walk, not_not.1 inside, last, proper⟩
        case h_2 => cases h

theorem Enters.keeps (h : t.Enters path folder name) (kept : KeepsFolders t t') :
    t'.Enters path folder name := by
  have inside := kept.folders folder h.isFolder
  have start : t'.start path = t.start path := by rw [Tree.start, Tree.start, kept.workingFolder]
  refine ⟨h.checked, ?_, inside, h.last, h.proper⟩
  rw [start]
  exact kept.walk (fun _ => by rw [isFolder_iff.1 inside]; rfl) h.walk

theorem Enters.locate (h : t.Enters path folder name) {n : Node} (short : checkName name = .ok ())
    (there : t.get? (folder ++ [name]) = some n) (slash : endsWithSlash path = true → n = .folder) :
    t.locate path = .ok (folder ++ [name]) := by
  have split : names path = (names path).dropLast ++ [name] :=
    (List.dropLast_append_getLast? name h.last).symm
  refine locate_eq_ok.2 ⟨h.checked, ?_, ?_⟩
  · have fits : ¬ maxName < name.utf8ByteSize := by
      intro long
      rw [checkName, if_pos long] at short
      cases short
    obtain ⟨notPoint, notUp⟩ := not_or.1 h.proper
    rw [split, walk_append, h.walk, Except.bind, Tree.walk, if_neg (not_not.2 h.isFolder),
      if_neg notPoint, if_neg notUp, if_neg fits, there]
    rfl
  · rintro (slashed | point)
    · rw [isFolder_iff, there, slash slashed]
    · rw [h.last] at point
      exact absurd (.inl (Option.some.inj point)) h.proper

end Walk

/-- A place holds what it held before, or where nothing was a folder to which one of the paths
leads. -/
def Kept (paths : List String) (t t' : Tree) (p : Place) : Prop :=
  t'.get? p = t.get? p ∨
    t.get? p = none ∧ t'.get? p = some .folder ∧ ∃ path ∈ paths, t'.locate path = .ok p

/-- Nothing has changed but for new folders, to which the paths lead. -/
structure Grown (paths : List String) (t t' : Tree) : Prop where
  workingFolder : t'.workingFolder = t.workingFolder
  places : ∀ p, Kept paths t t' p

section Growth

variable {t t' t'' : Tree} {p q : Place} {disk : Disk} {path : String} {paths paths' : List String}

theorem Kept.trans (h : Kept paths t t' p) (h' : Kept paths t' t'' p) (kept : KeepsFolders t' t'') :
    Kept paths t t'' p := by
  obtain same | ⟨free, made, leads⟩ := h'
  · obtain same' | ⟨free, made, path, member, leads⟩ := h
    · exact .inl (same.trans same')
    · rw [← same] at made
      exact .inr ⟨free, made, path, member, kept.locate (fun _ => by rw [made]; rfl) leads⟩
  · obtain same' | ⟨-, made', -⟩ := h
    · exact .inr ⟨same'.symm.trans free, made, leads⟩
    · rw [made'] at free
      cases free

theorem Kept.mono (h : Kept paths t t' p) (sub : paths ⊆ paths') : Kept paths' t t' p := by
  obtain same | ⟨free, made, path, member, leads⟩ := h
  · exact .inl same
  · exact .inr ⟨free, made, path, sub member, leads⟩

theorem Kept.get?_eq (h : Kept paths t t' p) {n : Node} (there : t.get? p = some n) :
    t'.get? p = some n := by
  obtain same | ⟨free, -⟩ := h
  · rw [same, there]
  · rw [there] at free
    cases free

theorem Kept.isFolder (h : Kept paths t t' p) (folder : t.isFolder p = true) :
    t'.isFolder p = true := by
  rw [isFolder_iff] at folder ⊢
  exact h.get?_eq folder

theorem Grown.refl (paths : List String) (t : Tree) : Grown paths t t := ⟨rfl, fun _ => .inl rfl⟩

theorem Grown.keepsFolders (h : Grown paths t t') : KeepsFolders t t' :=
  ⟨h.workingFolder, fun p => (h.places p).isFolder⟩

theorem Grown.trans (h : Grown paths t t') (h' : Grown paths t' t'') : Grown paths t t'' :=
  ⟨h'.workingFolder.trans h.workingFolder,
    fun p => (h.places p).trans (h'.places p) h'.keepsFolders⟩

theorem Grown.mono (h : Grown paths t t') (sub : paths ⊆ paths') : Grown paths' t t' :=
  ⟨h.workingFolder, fun p => (h.places p).mono sub⟩

theorem Grown.get?_eq (h : Grown paths t t') {n : Node} (there : t.get? p = some n) :
    t'.get? p = some n :=
  (h.places p).get?_eq there

theorem ne_nil_of_not_folder (h : t.get? p ≠ some .folder) : p ≠ [] := by
  rintro rfl
  exact h rfl

theorem ne_nil_of_free (h : t.get? p = none) : p ≠ [] := by
  rintro rfl
  cases h

theorem keepsFolders_put (h : t.get? p ≠ some .folder) (n : Node) : KeepsFolders t (t.put p n) := by
  refine ⟨rfl, fun q folder => ?_⟩
  rw [isFolder_iff] at folder ⊢
  by_cases same : q = p
  · exact absurd (same ▸ folder) h
  · rw [get?_put_of_ne same, folder]

theorem keepsFolders_erase (h : t.get? p ≠ some .folder) : KeepsFolders t (t.erase p) := by
  refine ⟨rfl, fun q folder => ?_⟩
  rw [isFolder_iff] at folder ⊢
  by_cases same : q = p
  · exact absurd (same ▸ folder) h
  · rw [get?_erase_of_ne same, folder]

theorem makeFolder_eq_ok (h : t.makeFolder disk path = .ok t') :
    ∃ folder name, t.Enters path folder name ∧ checkName name = .ok () ∧
      t.get? (folder ++ [name]) = none ∧ t' = t.put (folder ++ [name]) .folder := by
  obtain ⟨-, -, h⟩ := Except.bind_eq_ok.1 h
  obtain ⟨⟨folder, _ | name⟩, entry, h⟩ := Except.bind_eq_ok.1 h
  · cases h
  · obtain ⟨⟨⟩, short, h⟩ := Except.bind_eq_ok.1 h
    split at h
    case h_1 => cases h
    case h_2 free =>
      exact ⟨folder, name, enters_of_entryAt entry, short, free, (Except.ok.inj h).symm⟩

theorem grown_makeFolder (h : t.makeFolder disk path = .ok t') : Grown [path] t t' := by
  obtain ⟨folder, name, enters, short, free, rfl⟩ := makeFolder_eq_ok h
  have made : (t.put (folder ++ [name]) .folder).get? (folder ++ [name]) = some .folder :=
    get?_put_self (by simp) t .folder
  have kept : KeepsFolders t (t.put (folder ++ [name]) .folder) :=
    keepsFolders_put (by simp [free]) .folder
  refine ⟨rfl, fun p => ?_⟩
  by_cases here : p = folder ++ [name]
  · subst here
    have leads := (enters.keeps kept).locate short made fun _ => rfl
    exact .inr ⟨free, made, path, List.mem_singleton_self _, leads⟩
  · exact .inl (get?_put_of_ne here t .folder)

theorem grown_makeOutermost (disk : Disk) (missing : List String) {rest : List String}
    (sub : rest ⊆ paths) : Grown paths t (t.makeOutermost disk missing rest).1 := by
  induction rest generalizing missing with
  | nil => exact .refl paths t
  | cons path rest ih =>
    obtain ⟨first, later⟩ := List.cons_subset.1 sub
    rw [makeOutermost]
    split
    · exact .refl paths t
    · split
      case h_1 t' made => exact (grown_makeFolder made).mono (by simpa using first)
      case h_2 e _ =>
        split
        · exact ih _ later
        · split <;> exact .refl paths t

theorem subset_of_makeOutermost (disk : Disk) {missing rest left : List String} (sub : rest ⊆ paths)
    (sub' : missing ⊆ paths) (h : (t.makeOutermost disk missing rest).2 = .ok left) : left ⊆ paths := by
  induction rest generalizing missing with
  | nil =>
    obtain rfl := Except.ok.inj h
    exact sub'
  | cons path rest ih =>
    obtain ⟨first, later⟩ := List.cons_subset.1 sub
    rw [makeOutermost] at h
    split at h
    · obtain rfl := Except.ok.inj h
      exact sub'
    · split at h
      · obtain rfl := Except.ok.inj h
        exact sub'
      · split at h
        · exact ih later (List.cons_subset.2 ⟨first, sub'⟩) h
        · split at h
          · obtain rfl := Except.ok.inj h
            exact sub'
          · cases h

theorem grown_makeAll {missing : List String} (sub : missing ⊆ paths) :
    Grown paths t (t.makeAll disk missing).1 := by
  induction missing generalizing t with
  | nil => exact .refl paths t
  | cons path rest ih =>
    obtain ⟨first, later⟩ := List.cons_subset.1 sub
    rw [makeAll]
    split
    case h_1 t' made => exact ((grown_makeFolder made).mono (by simpa using first)).trans (ih later)
    case h_2 =>
      split
      · exact ih later
      · exact .refl paths t

theorem grown_makeFolders (t : Tree) (disk : Disk) (path : String) :
    Grown (ancestors path) t (t.makeFolders disk path).1 := by
  have grown := grown_makeOutermost (t := t) disk [] (List.Subset.refl (ancestors path))
  rw [makeFolders]
  split
  case h_1 t' missing made =>
    have sub := subset_of_makeOutermost (t := t) disk (List.Subset.refl (ancestors path))
      (by simp) (congrArg Prod.snd made)
    rw [made] at grown
    exact grown.trans (grown_makeAll sub)
  case h_2 t' e made =>
    rw [made] at grown
    exact grown

theorem locate_erase_iff (file : t.get? q ≠ some .folder) (other : p ≠ q) :
    (t.erase q).locate path = .ok p ↔ t.locate path = .ok p := by
  have proper := ne_nil_of_not_folder file
  have back : KeepsFolders (t.erase q) t := by
    refine ⟨rfl, fun r folder => ?_⟩
    rw [isFolder_iff] at folder ⊢
    by_cases here : r = q
    · subst here
      rw [get?_erase_self proper] at folder
      cases folder
    · rwa [get?_erase_of_ne here] at folder
  constructor
  · exact back.locate fun there => by rwa [get?_erase_of_ne other] at there
  · exact (keepsFolders_erase file).locate fun there => by rwa [get?_erase_of_ne other]

end Growth

end TitleDock.Files.Tree
