import Mathlib.Data.List.Nodup
import TitleDock.Settings.Value

/-! One layer of settings over another, seen from the end of a path of keys: whatever reads no table
finds there what the upper layer has, and what the lower one has if the upper one has nothing. The
layers have to agree on which keys on the way are tables, and no table may have a key twice. -/

namespace TitleDock

inductive Placed {α : Type} (key : String) (v : α) : List (String × α) → List (String × α) → Prop
  | last : Placed key v [] [(key, v)]
  | here (old : α) (r : List (String × α)) : Placed key v ((key, old) :: r) ((key, v) :: r)
  | later {k : String} {r r' : List (String × α)} (old : α) (other : k ≠ key) (h : Placed key v r r') :
    Placed key v ((k, old) :: r) ((k, old) :: r')

namespace Placed

variable {α : Type} {key : String} {v : α} {es es' : List (String × α)}

theorem mem (h : Placed key v es es') {e : String × α} (member : e ∈ es') : e = (key, v) ∨ e ∈ es := by
  induction h with
  | last => exact .inl (List.mem_singleton.1 member)
  | here => exact (List.mem_cons.1 member).imp_right (List.mem_cons_of_mem _)
  | later old other h ih =>
    obtain rfl | member := List.mem_cons.1 member
    · exact .inr (List.mem_cons_self ..)
    · exact (ih member).imp_right (List.mem_cons_of_mem _)

theorem nodup_keys (h : Placed key v es es') (keys : (es.map Prod.fst).Nodup) :
    (es'.map Prod.fst).Nodup := by
  induction h with
  | last => simp
  | here => simpa using keys
  | later old other h ih =>
    rw [List.map_cons, List.nodup_cons] at keys ⊢
    refine ⟨fun member => ?_, ih keys.2⟩
    obtain ⟨e, placed, name⟩ := List.mem_map.1 member
    obtain rfl | early := h.mem placed
    · exact other name.symm
    · exact keys.1 (List.mem_map.2 ⟨e, early, name⟩)

end Placed

theorem mem_of_lookup {α : Type} {key : String} {v : α} {es : List (String × α)}
    (h : es.lookup key = some v) : (key, v) ∈ es := by
  obtain ⟨before, after, rfl, -⟩ := List.lookup_eq_some_iff.1 h
  simp

namespace SettingValue

def isTable : SettingValue → Bool
  | .table _ => true
  | _ => false

theorem isTable_iff {v : SettingValue} : v.isTable = true ↔ ∃ es, v = .table es := by
  cases v <;> simp [isTable]

inductive Proper : SettingValue → Prop
  | table {es : Entries} (keys : (es.map Prod.fst).Nodup) (values : ∀ e ∈ es, Proper e.2) :
    Proper (.table es)
  | other {v : SettingValue} (h : ∀ es, v ≠ .table es) : Proper v

theorem Proper.keys {es : Entries} (h : Proper (.table es)) : (es.map Prod.fst).Nodup := by
  cases h with
  | table keys _ => exact keys
  | other h => exact absurd rfl (h es)

theorem Proper.values {es : Entries} (h : Proper (.table es)) : ∀ e ∈ es, Proper e.2 := by
  cases h with
  | table _ values => exact values
  | other h => exact absurd rfl (h es)

theorem Proper.empty : Proper (.table []) := .table (by simp) (by simp)

theorem placed_put (key : String) (v : SettingValue) (es : Entries) :
    Placed key v es (put key v es) := by
  induction es with
  | nil => exact .last
  | cons e r ih =>
    rw [put]
    split
    case isTrue same => exact same ▸ .here ..
    case isFalse other => exact .later _ other ih

theorem Proper.put {key : String} {v : SettingValue} {es : Entries} (proper : Proper (.table es))
    (value : Proper v) : Proper (.table (put key v es)) := by
  have placed := placed_put key v es
  refine .table (placed.nodup_keys proper.keys) fun e member => ?_
  obtain rfl | early := placed.mem member
  · exact value
  · exact proper.values e early

theorem proper_of_lookup {key : String} {v : SettingValue} {es : Entries}
    (proper : Proper (.table es)) (h : es.lookup key = some v) : Proper v :=
  proper.values _ (mem_of_lookup h)

section Onto

def upon (v : SettingValue) (below : Option SettingValue) : SettingValue := below.elim v v.onto

theorem onto_table (us ls : Entries) : (table us).onto (table ls) = table (entriesOnto us ls) := by
  rw [onto]

theorem onto_of_ne_table {v : SettingValue} (h : ∀ es, v ≠ .table es) (lower : SettingValue) :
    v.onto lower = v := by
  cases v with
  | table es => exact absurd rfl (h es)
  | _ => cases lower <;> simp [onto]

theorem entriesOnto_cons (key : String) (v : SettingValue) (r lower : Entries) :
    entriesOnto ((key, v) :: r) lower = entriesOnto r (put key (v.upon (lower.lookup key)) lower) := by
  rw [entriesOnto, upon]
  cases lower.lookup key <;> rfl

theorem lookup_entriesOnto {upper lower : Entries} (keys : (upper.map Prod.fst).Nodup)
    (key : String) : (entriesOnto upper lower).lookup key =
      ((upper.lookup key).map fun v => v.upon (lower.lookup key)).or (lower.lookup key) := by
  induction upper generalizing lower with
  | nil => simp [entriesOnto]
  | cons first r ih =>
    obtain ⟨k, v⟩ := first
    rw [List.map_cons, List.nodup_cons] at keys
    rw [entriesOnto_cons, ih keys.2]
    by_cases same : key = k
    · subst same
      have absent : r.lookup key = none := by
        rw [List.lookup_eq_none_iff]
        intro e member
        have other : key ≠ e.1 := fun name => keys.1 (List.mem_map.2 ⟨e, member, name.symm⟩)
        simpa using other
      simp [absent, lookup_put_self]
    · have other : (key == k) = false := by simpa using same
      rw [lookup_put_of_ne same, List.lookup_cons, other]

theorem Proper.upon {v : SettingValue} {below : Option SettingValue} (proper : Proper v)
    (merged : ∀ lower ∈ below, Proper (v.onto lower)) : Proper (v.upon below) := by
  cases below with
  | none => exact proper
  | some lower => exact merged lower rfl

theorem Proper.onto {upper lower : SettingValue} (proper : Proper upper) (below : Proper lower) :
    Proper (upper.onto lower) := by
  induction proper generalizing lower with
  | other h => rw [onto_of_ne_table h]; exact .other h
  | @table es keys values ih =>
    have entries {es' ls : Entries} (below : Proper (.table ls)) (sub : es' ⊆ es) :
        Proper (.table (entriesOnto es' ls)) := by
      induction es' generalizing ls with
      | nil => exact below
      | cons first r rest =>
        obtain ⟨member, later⟩ := List.cons_subset.1 sub
        rw [entriesOnto_cons]
        refine rest (below.put ?_) later
        exact (values _ member).upon fun old found =>
          ih _ member (proper_of_lookup below found)
    cases lower with
    | table ls => exact entries below (List.Subset.refl es)
    | _ => exact .table keys values

end Onto

/-- The value at the end of a path of keys. -/
def at? : List String → SettingValue → Option SettingValue
  | [], v => some v
  | key :: path, .table es => (es.lookup key).bind (at? path)
  | _ :: _, _ => none

/-- What is on the way along a path, as far as there is anything, is tables. -/
def IsWay : List String → SettingValue → Prop
  | [], _ => True
  | key :: path, v => ∃ es, v = .table es ∧ ∀ inner ∈ es.lookup key, IsWay path inner

theorem at?_nest (path : List String) (v : SettingValue) : (nest path v).at? path = some v := by
  induction path with
  | nil => rfl
  | cons key path ih => simpa [nest, at?] using ih

theorem at?_nest_of_apart {path other : List String} (apart : ¬ path <+: other)
    (apart' : ¬ other <+: path) (v : SettingValue) : (nest path v).at? other = none := by
  induction path generalizing other with
  | nil => exact absurd List.nil_prefix apart
  | cons key path ih =>
    cases other with
    | nil => exact absurd List.nil_prefix apart'
    | cons key' other =>
      rw [List.cons_prefix_cons] at apart apart'
      by_cases same : key' = key
      · subst same
        simpa [nest, at?] using ih (fun h => apart ⟨rfl, h⟩) fun h => apart' ⟨rfl, h⟩
      · have none : List.lookup key' [(key, nest path v)] = none := by
          simp [List.lookup_cons, beq_eq_false_iff_ne.2 same]
        rw [nest, at?, none]
        rfl

section Reading

variable {α : Type} {read : SettingValue → Option α} {path : List String}
  {upper lower : SettingValue}

/-- What a layer says at the end of a path, if anything: a value that is read, or one that is not.
-/
def given? (read : SettingValue → Option α) (path : List String) (v : SettingValue) :
    Option (Option α) :=
  (v.at? path).map read

theorem read_onto (tables : ∀ es, read (.table es) = none) (upper lower : SettingValue) :
    read (upper.onto lower) = read upper := by
  cases upper with
  | table es => cases lower <;> simp [onto, tables]
  | _ => cases lower <;> simp [onto]

theorem given?_onto (tables : ∀ es, read (.table es) = none) (proper : Proper upper)
    (way : IsWay path upper) (way' : IsWay path lower) :
    given? read path (upper.onto lower) = (given? read path upper).or (given? read path lower) := by
  induction path generalizing upper lower with
  | nil => simp [given?, at?, read_onto tables]
  | cons key path ih =>
    obtain ⟨us, rfl, way⟩ := way
    obtain ⟨ls, rfl, way'⟩ := way'
    simp only [given?, onto, at?, lookup_entriesOnto proper.keys]
    cases above : us.lookup key with
    | none => simp
    | some v =>
      cases below : ls.lookup key with
      | none => simp [upon]
      | some old =>
        exact ih (proper_of_lookup proper above) (way v above) (way' old below)

theorem IsWay.onto (proper : Proper upper) (way : IsWay path upper) (way' : IsWay path lower) :
    IsWay path (upper.onto lower) := by
  induction path generalizing upper lower with
  | nil => trivial
  | cons key path ih =>
    obtain ⟨us, rfl, way⟩ := way
    obtain ⟨ls, rfl, way'⟩ := way'
    refine ⟨_, onto_table us ls, fun inner found => ?_⟩
    rw [lookup_entriesOnto proper.keys] at found
    cases above : us.lookup key with
    | none =>
      rw [above] at found
      exact way' inner (by simpa using found)
    | some v =>
      cases below : ls.lookup key with
      | none =>
        obtain rfl : v = inner := by simpa [above, below, upon] using found
        exact way v above
      | some old =>
        obtain rfl : v.onto old = inner := by simpa [above, below, upon] using found
        exact ih (proper_of_lookup proper above) (way v above) (way' old below)

end Reading

end SettingValue

end TitleDock
