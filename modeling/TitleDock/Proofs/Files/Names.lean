import TitleDock.Transfer.Spool

/-! Names of temporary files. A disk draws the letters in the middle of them, and what stands before
and behind these is fixed, so a path that ends in another kind of name cannot meet one. A new
temporary file has one of these names, and stands where nothing was. -/

namespace TitleDock

theorem Except.bind_eq_ok {ε α β : Type} {x : Except ε α} {f : α → Except ε β} {b : β} :
    x >>= f = .ok b ↔ ∃ a, x = .ok a ∧ f a = .ok b := by
  cases x <;> simp [bind, Except.bind]

namespace Files

section Names

variable {disk : Disk} {t t' : Tree} {p folder : Place} {path before after : String} {n left : Nat}

theorem Disk.take_name (disk : Disk) (before after : String) (n : Nat) :
    (disk.name before after n).toList.take before.toList.length = before.toList := by
  simp [Disk.name]

/-- None of the names that the disk draws for a spool is the last one of the path. -/
def Disk.Avoids (disk : Disk) (path : String) : Prop :=
  ∀ n, (names path).getLast? ≠ some (disk.name "nxlink-" ".nsp" n)

theorem Disk.avoids (disk : Disk)
    (other : (names path).getLast?.map (·.toList.take 7) ≠ some "nxlink-".toList) :
    disk.Avoids path := by
  intro n same
  rw [same, Option.map_some] at other
  exact other (congrArg some (disk.take_name "nxlink-" ".nsp" n))

namespace Tree

theorem createFile_eq_ok (h : t.createFile disk p = .ok t') :
    t.get? p = none ∧ t' = t.put p (.file []) := by
  obtain ⟨-, -, h⟩ := Except.bind_eq_ok.1 h
  split at h
  case isTrue => cases h
  case isFalse =>
    split at h
    case h_1 => cases h
    case h_2 free => exact ⟨free, (Except.ok.inj h).symm⟩

theorem createFresh_eq_ok (h : t.createFresh disk folder before after n left = .ok (p, t')) :
    (∃ k, p.getLast? = some (disk.name before after k)) ∧ t.get? p = none ∧
      t' = t.put p (.file []) := by
  induction left generalizing n with
  | zero => cases h
  | succ left ih =>
    rw [createFresh] at h
    split at h
    case h_1 made =>
      obtain ⟨rfl, rfl⟩ := Prod.mk.inj (Except.ok.inj h)
      exact ⟨⟨n, List.getLast?_concat⟩, createFile_eq_ok made⟩
    case h_2 =>
      split at h
      · exact ih h
      · cases h

theorem createIn_eq_ok (h : t.createIn disk path before after = .ok (p, t')) :
    (∃ k, p.getLast? = some (disk.name before after k)) ∧ t.get? p = none ∧
      t' = t.put p (.file []) := by
  obtain ⟨folder, -, h⟩ := Except.bind_eq_ok.1 h
  exact createFresh_eq_ok h

end Tree

end Names

end Files

end TitleDock
