/-! Values of settings, before they are checked against the fields that they are meant for. A layer
of settings lies over another one key by key: tables merge, and anything else replaces what is
below. -/

namespace TitleDock

inductive SettingValue where
  | null
  | bool (b : Bool)
  | integer (n : Int)
  | fraction
  | text (s : String)
  | list (items : List SettingValue)
  | table (entries : List (String × SettingValue))

namespace SettingValue

abbrev Entries := List (String × SettingValue)

def put (key : String) (v : SettingValue) : Entries → Entries
  | [] => [(key, v)]
  | (k, old) :: r => if k = key then (key, v) :: r else (k, old) :: put key v r

theorem lookup_put_self (key : String) (v : SettingValue) (es : Entries) :
    (put key v es).lookup key = some v := by
  induction es with
  | nil => simp [put]
  | cons e r ih =>
    obtain ⟨k, old⟩ := e
    rw [put]
    split
    · simp
    · next h =>
      have hk : (key == k) = false := by simpa using Ne.symm h
      rw [List.lookup_cons, hk]
      exact ih

theorem lookup_put_of_ne {key other : String} (h : other ≠ key) (v : SettingValue) (es : Entries) :
    (put key v es).lookup other = es.lookup other := by
  have ho : (other == key) = false := by simpa using h
  induction es with
  | nil => simp [put, List.lookup_cons, ho]
  | cons e r ih =>
    obtain ⟨k, old⟩ := e
    rw [put]
    split
    · next hk => rw [List.lookup_cons, List.lookup_cons, ho, hk, ho]
    · rw [List.lookup_cons, List.lookup_cons, ih]

mutual

/-- The value with the upper layer over the lower one. -/
def onto : SettingValue → SettingValue → SettingValue
  | .table upper, .table lower => .table (entriesOnto upper lower)
  | .null, _ => .null
  | .bool b, _ => .bool b
  | .integer n, _ => .integer n
  | .fraction, _ => .fraction
  | .text s, _ => .text s
  | .list items, _ => .list items
  | .table upper, _ => .table upper

def entriesOnto : Entries → Entries → Entries
  | [], lower => lower
  | (key, v) :: r, lower =>
    match lower.lookup key with
    | some old => entriesOnto r (put key (onto v old) lower)
    | none => entriesOnto r (put key v lower)

end

def nest : List String → SettingValue → SettingValue
  | [], v => v
  | key :: r, v => .table [(key, nest r v)]

/-- The fields of a section with the given names: those of a table by name, those of a list by
place. -/
def fields? (names : List String) : SettingValue → Option (List (Option SettingValue))
  | .table entries => some (names.map fun name => entries.lookup name)
  | .list items => some ((List.range names.length).map fun i => items[i]?)
  | _ => none

def bool? : SettingValue → Option Bool
  | .bool b => some b
  | _ => none

def text? : SettingValue → Option String
  | .text s => some s
  | _ => none

def natural? (most : Nat) : SettingValue → Option Nat
  | .integer n => if 0 ≤ n ∧ n ≤ most then some n.toNat else none
  | _ => none

def orElse {α : Type} (fallback : α) (read : SettingValue → Option α) :
    Option SettingValue → Option α
  | none => some fallback
  | some v => read v

end SettingValue

end TitleDock
