import TitleDock.Proofs.Files.Growth

/-! Files that come and go. A temporary file stands where nothing stood, so a tree from which it is
taken away again has only grown. Content reaches its path whole, by the move of a part that is there
no longer afterwards. -/

namespace TitleDock.Files.Tree

/-- The content stands at the place where the path leads; beyond that the tree has only grown. -/
structure StoredAt (paths : List String) (path : String) (content : Bytes) (t t' : Tree)
    (p : Place) : Prop where
  leads : t'.locate path = .ok p
  held : t'.get? p = some (.file content)
  replaced : t.get? p ≠ some .folder
  workingFolder : t'.workingFolder = t.workingFolder
  others : ∀ q, q ≠ p → Kept paths t t' q

section Stored

variable {t t' t'' : Tree} {disk : Disk} {p q source : Place} {path folder : String}
  {paths : List String} {content : Bytes}

theorem Kept.file_iff (h : Kept paths t t' p) :
    t'.get? p = some (.file content) ↔ t.get? p = some (.file content) := by
  refine ⟨fun there => ?_, h.get?_eq⟩
  obtain same | ⟨-, made, -⟩ := h
  · exact same.symm.trans there
  · rw [made] at there
    cases there

theorem readAt?_eq (leads : t.locate path = .ok p) (held : t.get? p = some (.file content)) :
    t.readAt? path = some content := by
  simp [readAt?, leads, held]

theorem StoredAt.keepsFolders (h : StoredAt paths path content t t' p) : KeepsFolders t t' := by
  refine ⟨h.workingFolder, fun q folder => ?_⟩
  by_cases here : q = p
  · exact absurd (isFolder_iff.1 (here ▸ folder)) h.replaced
  · exact (h.others q here).isFolder folder

theorem Grown.storedAt (h : Grown paths t t') (h' : StoredAt paths path content t' t'' p) :
    StoredAt paths path content t t'' p := by
  refine ⟨h'.leads, h'.held, fun folder => h'.replaced (h.get?_eq folder),
    h'.workingFolder.trans h.workingFolder, fun q other => ?_⟩
  exact (h.places q).trans (h'.others q other) h'.keepsFolders

theorem Kept.erase (h : Kept paths t t' p) (file : t'.get? q ≠ some .folder) :
    Kept paths (t.erase q) (t'.erase q) p := by
  by_cases here : p = q
  · subst here
    have proper := ne_nil_of_not_folder file
    exact .inl (by rw [get?_erase_self proper, get?_erase_self proper])
  · rw [Kept, get?_erase_of_ne here, get?_erase_of_ne here]
    obtain same | ⟨free, made, path, member, leads⟩ := h
    · exact .inl same
    · exact .inr ⟨free, made, path, member, (locate_erase_iff file here).2 leads⟩

theorem Grown.erase (h : Grown paths t t') {held : Bytes} (file : t.get? p = some (.file held)) :
    Grown paths (t.erase p) (t'.erase p) := by
  have file' := h.get?_eq file
  exact ⟨h.workingFolder, fun q => (h.places q).erase (by simp [file'])⟩

theorem StoredAt.erase (h : StoredAt paths path content t t' p) {held : Bytes}
    (file : t.get? q = some (.file held)) (ne : q ≠ p) :
    StoredAt paths path content (t.erase q) (t'.erase q) p := by
  have file' : t'.get? q = some (.file held) := (h.others q ne).get?_eq file
  refine ⟨(locate_erase_iff (by simp [file']) ne.symm).2 h.leads, ?_, ?_, h.workingFolder, ?_⟩
  · rw [get?_erase_of_ne ne.symm, h.held]
  · rw [get?_erase_of_ne ne.symm]
    exact h.replaced
  · intro r other
    exact (h.others r other).erase (by simp [file'])

theorem StoredAt.grown_erase (h : StoredAt paths path content t t' p) :
    Grown paths (t.erase p) (t'.erase p) := by
  have file : t'.get? p ≠ some .folder := by simp [h.held]
  have proper := ne_nil_of_not_folder file
  refine ⟨h.workingFolder, fun q => ?_⟩
  by_cases here : q = p
  · subst here
    exact .inl (by rw [get?_erase_self proper, get?_erase_self proper])
  · exact (h.others q here).erase file

@[simp] theorem erase_put (t : Tree) (p : Place) (n : Node) : (t.put p n).erase p = t.erase p := by
  simp [put, Tree.erase, List.filter_filter]

theorem grown_erase (free : t.get? p = none) : Grown paths t (t.erase p) := by
  have proper := ne_nil_of_free free
  refine ⟨rfl, fun q => .inl ?_⟩
  by_cases here : q = p
  · subst here
    rw [get?_erase_self proper, free]
  · exact get?_erase_of_ne here t

section Erased

variable {ps : List Place}

theorem get?_foldl_erase_of_notMem (other : p ∉ ps) :
    (ps.foldl Tree.erase t).get? p = t.get? p := by
  induction ps generalizing t with
  | nil => rfl
  | cons q ps ih =>
    obtain ⟨ne, others⟩ := List.ne_and_not_mem_of_not_mem_cons other
    exact (ih others).trans (get?_erase_of_ne ne t)

theorem get?_foldl_erase_of_mem (proper : p ≠ []) (member : p ∈ ps) :
    (ps.foldl Tree.erase t).get? p = none := by
  induction ps generalizing t with
  | nil => cases member
  | cons q ps ih =>
    by_cases later : p ∈ ps
    · exact ih later
    · obtain rfl : p = q := by simpa [later] using member
      exact (get?_foldl_erase_of_notMem later).trans (get?_erase_self proper t)

theorem locate_foldl_erase_iff (files : ∀ q ∈ ps, t.get? q ≠ some .folder) (other : p ∉ ps) :
    (ps.foldl Tree.erase t).locate path = .ok p ↔ t.locate path = .ok p := by
  induction ps generalizing t with
  | nil => rfl
  | cons q ps ih =>
    obtain ⟨file, files'⟩ := List.forall_mem_cons.1 files
    obtain ⟨ne, others⟩ := List.ne_and_not_mem_of_not_mem_cons other
    have kept : ∀ r ∈ ps, (t.erase q).get? r ≠ some .folder := by
      intro r member
      by_cases here : r = q
      · simp [here, get?_erase_self (ne_nil_of_not_folder file)]
      · rw [get?_erase_of_ne here]
        exact files' r member
    exact (ih kept others).trans (locate_erase_iff file ne)

end Erased

/-- Why there is no spool: the refusal, and how it is told. -/
inductive SpoolDenied (t : Tree) (disk : Disk) (folder : String) : String → SystemError → Prop
  | folder {e : SystemError} (denied : (t.makeFolders disk folder).2 = .error e) :
      SpoolDenied t disk folder "failed to create temp directory" e
  | file {g : Tree} {e : SystemError} (made : t.makeFolders disk folder = (g, .ok ()))
      (denied : g.createIn disk folder "nxlink-" ".nsp" = .error e) :
      SpoolDenied t disk folder "failed to create spool file" e
  | opened {g g' : Tree} {p : Place} {e : SystemError}
      (made : t.makeFolders disk folder = (g, .ok ()))
      (created : g.createIn disk folder "nxlink-" ".nsp" = .ok (p, g'))
      (denied : disk.allow g' (.reopen p) = .error e) :
      SpoolDenied t disk folder "failed to download payload" e

theorem SpoolDenied.openSpool {context : String} {e : SystemError}
    (h : t.SpoolDenied disk folder context e) :
    (t.openSpool disk folder).2 = .error (.ofSystem context e) := by
  rw [Tree.openSpool]
  cases h with
  | folder denied =>
    cases made : t.makeFolders disk folder with
    | mk g r =>
      obtain rfl : r = .error e := by simpa [made] using denied
      rfl
  | file made denied => simp only [made, denied]
  | opened made created denied => simp only [made, created, denied]

theorem openSpool_cases (t : Tree) (disk : Disk) (folder : String) :
    ∃ g, Grown (ancestors folder) t g ∧
      ((∃ context e, t.openSpool disk folder = (g, .error (.ofSystem context e)) ∧
          SpoolDenied t disk folder context e) ∨
        ∃ p n, t.openSpool disk folder = (g.put p (.file []), .ok p) ∧ g.get? p = none ∧
          p.getLast? = some (disk.name "nxlink-" ".nsp" n)) := by
  have grown := grown_makeFolders t disk folder
  rw [openSpool]
  cases made : t.makeFolders disk folder with
  | mk g r =>
    rw [made] at grown
    refine ⟨g, grown, ?_⟩
    cases r with
    | error e => exact .inl ⟨_, e, rfl, .folder (by rw [made])⟩
    | ok =>
      cases created : g.createIn disk folder "nxlink-" ".nsp" with
      | error e => exact .inl ⟨_, e, by simp only [created], .file made created⟩
      | ok spool =>
        obtain ⟨p, g'⟩ := spool
        obtain ⟨⟨n, named⟩, free, rfl⟩ := createIn_eq_ok created
        simp only [created]
        cases opened : disk.allow (g.put p (.file [])) (.reopen p) with
        | error e => exact .inl ⟨_, e, rfl, .opened made created opened⟩
        | ok => exact .inr ⟨p, n, rfl, free, named⟩

theorem openPart_eq_ok (h : t.openPart disk path = .ok (p, t')) :
    t.get? p = none ∧ t' = t.put p (.file []) := by
  obtain ⟨⟨part, made⟩, created, h⟩ := Except.bind_eq_ok.1 h
  obtain ⟨⟨⟩, -, h⟩ := Except.bind_eq_ok.1 h
  obtain ⟨rfl, rfl⟩ := Prod.mk.inj (Except.ok.inj h)
  exact (createIn_eq_ok created).2

theorem moveTo_eq_ok (h : t.moveTo disk source path = .ok t') :
    ∃ folder name n, t.Enters path folder name ∧ checkName name = .ok () ∧
      endsWithSlash path = false ∧ t.get? (folder ++ [name]) ≠ some .folder ∧
      t.get? source = some n ∧ t' = (t.erase source).put (folder ++ [name]) n := by
  obtain ⟨⟨⟩, -, h⟩ := Except.bind_eq_ok.1 h
  obtain ⟨⟨folder, _ | name⟩, entry, h⟩ := Except.bind_eq_ok.1 h
  · cases h
  · obtain ⟨⟨⟩, short, h⟩ := Except.bind_eq_ok.1 h
    split at h
    case isTrue => cases h
    case isFalse plain =>
      dsimp only at h
      split at h
      case h_1 => cases h
      case h_2 n held notFolder =>
        exact ⟨folder, name, n, enters_of_entryAt entry, short, by simpa using plain, notFolder,
          held, (Except.ok.inj h).symm⟩
      case h_3 => cases h

theorem storedAt_of_moveTo (held : t.get? p = some (.file content))
    (h : t.moveTo disk p path = .ok t') :
    ∃ q, StoredAt paths path content (t.erase p) t' q ∧ q.getLast? = (names path).getLast? := by
  obtain ⟨folder, name, n, enters, short, plain, notFolder, same, rfl⟩ := moveTo_eq_ok h
  obtain rfl : .file content = n := Option.some.inj (held.symm.trans same)
  have proper := ne_nil_of_not_folder (t := t) (p := p) (by simp [held])
  have erased : KeepsFolders t (t.erase p) := keepsFolders_erase (by simp [held])
  have replaced : (t.erase p).get? (folder ++ [name]) ≠ some .folder := by
    by_cases own : folder ++ [name] = p
    · simp [own, get?_erase_self proper]
    · rwa [get?_erase_of_ne own]
  have moved : ((t.erase p).put (folder ++ [name]) (.file content)).get? (folder ++ [name]) =
      some (.file content) := get?_put_self (by simp) _ _
  have put := keepsFolders_put replaced (.file content)
  refine ⟨folder ++ [name], ⟨?_, moved, replaced, rfl, fun q other => ?_⟩, ?_⟩
  · exact ((enters.keeps erased).keeps put).locate short moved (by simp [plain])
  · exact .inl (get?_put_of_ne other _ _)
  · rw [List.getLast?_concat, enters.last]

theorem storedAt_of_storePart {old : Bytes} (there : t.get? p = some (.file old))
    (h : t.storePart disk p path content = .ok t') :
    ∃ q, StoredAt paths path content (t.erase p) t' q ∧ q.getLast? = (names path).getLast? := by
  have proper := ne_nil_of_not_folder (t := t) (p := p) (by simp [there])
  obtain ⟨⟨⟩, -, h⟩ := Except.bind_eq_ok.1 h
  obtain ⟨⟨⟩, -, h⟩ := Except.bind_eq_ok.1 h
  rw [← erase_put t p (.file content)]
  exact storedAt_of_moveTo (get?_put_self proper t _) h

end Stored

end TitleDock.Files.Tree
