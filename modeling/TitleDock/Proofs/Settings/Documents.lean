import TitleDock.Proofs.Settings.Merging
import TitleDock.Settings.Environment
import TitleDock.Settings.Toml.Document

/-! What is read from a file or from a variable has no table with a key twice. In a file this is for
the reader to see to: a key goes into a table only when it is not there, and what a header opens is
put back in its place. In a variable the last of several entries with a key counts. -/

namespace TitleDock

namespace Toml

namespace Node

/-- No table in the node has a key twice. -/
inductive Proper : Node → Prop
  | value {v : SettingValue} (h : v.Proper) : Proper (.value v)
  | table {isOpen dotted : Bool} {es : Entries} (keys : (es.map Prod.fst).Nodup)
    (values : ∀ e ∈ es, Proper e.2) : Proper (.table isOpen dotted es)
  | tables {done : List Node} (all : ∀ n ∈ done, Proper n) : Proper (.tables done)

structure EntriesProper (es : Entries) : Prop where
  keys : (es.map Prod.fst).Nodup
  values : ∀ e ∈ es, Proper e.2

section Entries

variable {es : Entries} {key : String} {n : Node}

theorem EntriesProper.empty : EntriesProper [] := ⟨by simp, by simp⟩

theorem Proper.entries {isOpen dotted : Bool} (h : Proper (.table isOpen dotted es)) :
    EntriesProper es := by
  cases h with
  | table keys values => exact ⟨keys, values⟩

theorem EntriesProper.table (h : EntriesProper es) (isOpen dotted : Bool) :
    Proper (.table isOpen dotted es) :=
  .table h.keys h.values

theorem Proper.all {done : List Node} (h : Proper (.tables done)) : ∀ n ∈ done, Proper n := by
  cases h with
  | tables all => exact all

theorem EntriesProper.lookup (h : EntriesProper es) (found : es.lookup key = some n) : Proper n :=
  h.values _ (mem_of_lookup found)

theorem placed_put (key : String) (n : Node) (es : Entries) : Placed key n es (put key n es) := by
  induction es with
  | nil => exact .last
  | cons e r ih =>
    rw [put]
    split
    case isTrue same => exact same ▸ .here ..
    case isFalse other => exact .later _ other ih

theorem EntriesProper.put (h : EntriesProper es) (proper : Proper n) :
    EntriesProper (put key n es) := by
  have placed := placed_put key n es
  refine ⟨placed.nodup_keys h.keys, fun e member => ?_⟩
  obtain rfl | early := placed.mem member
  · exact proper
  · exact h.values e early

theorem EntriesProper.concat (h : EntriesProper es) (absent : es.lookup key = none)
    (proper : Proper n) : EntriesProper (es ++ [(key, n)]) := by
  constructor
  · rw [List.map_append, List.nodup_append]
    refine ⟨h.keys, by simp, fun k member k' last same => ?_⟩
    obtain ⟨e, member', rfl⟩ := List.mem_map.1 member
    obtain rfl : k' = key := by simpa using last
    have other := List.lookup_eq_none_iff.1 absent e member'
    simp [same] at other
  · intro e member
    obtain early | rfl := (List.mem_append.1 member).imp_right List.mem_singleton.1
    · exact h.values e early
    · exact proper

theorem entryValues_eq_map (es : Entries) :
    entryValues es = es.map fun e => (e.1, e.2.toValue) := by
  induction es with
  | nil => rfl
  | cons e r ih => rw [entryValues, ih]; rfl

theorem Proper.toValue (h : Proper n) : n.toValue.Proper := by
  induction h with
  | value h => exact h
  | tables => exact .other (by simp [Node.toValue])
  | table keys values ih =>
    rw [Node.toValue, entryValues_eq_map]
    refine .table (by simpa [Function.comp_def] using keys) fun e member => ?_
    obtain ⟨inner, member', rfl⟩ := List.mem_map.1 member
    exact ih inner member'

theorem EntriesProper.descend {dotted : Bool} {change : Bool → Entries → Option Entries}
    (kept : ∀ isDotted es es', EntriesProper es → change isDotted es = some es' → EntriesProper es')
    {path : List String} {isDotted : Bool} {es es' : Entries} (h : EntriesProper es)
    (changed : Node.descend dotted change path isDotted es = some es') : EntriesProper es' := by
  induction path generalizing isDotted es es' with
  | nil => exact kept _ _ _ h changed
  | cons key path ih =>
    rw [Node.descend] at changed
    have there : Proper ((es.lookup key).getD (.table true dotted [])) := by
      cases found : es.lookup key with
      | none => exact EntriesProper.empty.table true dotted
      | some n => exact h.lookup found
    split at changed
    case h_1 => cases changed
    case h_2 isOpen isDotted' inner same =>
      rw [same] at there
      split at changed
      · cases changed
      · obtain ⟨inner', deeper, placed⟩ := Option.bind_eq_some_iff.1 changed
        obtain rfl := Option.some.inj placed
        exact h.put ((ih there.entries deeper).table ..)
    case h_3 done same =>
      rw [same] at there
      split at changed
      case h_1 isOpen isDotted' inner earlier last =>
        have all : ∀ n ∈ Node.table isOpen isDotted' inner :: earlier, Proper n := fun n member =>
          there.all n (List.mem_reverse.1 (last ▸ member))
        rw [List.forall_mem_cons] at all
        obtain ⟨inner', deeper, placed⟩ := Option.bind_eq_some_iff.1 changed
        obtain rfl := Option.some.inj placed
        refine h.put (.tables fun n member => ?_)
        obtain rfl | early := List.mem_cons.1 (List.mem_reverse.1 member)
        · exact (ih all.1.entries deeper).table ..
        · exact all.2 n early
      case h_2 => cases changed

theorem EntriesProper.assign {path : List String} {v : SettingValue} {es' : Entries}
    (h : EntriesProper es) (value : v.Proper) (assigned : Node.assign path v es = some es') :
    EntriesProper es' := by
  rw [Node.assign] at assigned
  split at assigned
  · cases assigned
  · refine h.descend (fun isDotted es es' before changed => ?_) assigned
    split_ifs at changed with _ taken
    obtain rfl := Option.some.inj changed
    exact before.concat (Option.not_isSome_iff_eq_none.1 taken) (.value value)

end Entries

end Node

section Values

open Node

theorem proper_momentValue : momentValue.Proper :=
  .table (by simp) fun e member => by
    obtain rfl := List.mem_singleton.1 member
    exact .other nofun

theorem proper_of_numberOrTime? {cs r : Rest} {v : SettingValue}
    (h : numberOrTime? cs = some (v, r)) : v.Proper := by
  rw [numberOrTime?] at h
  split at h
  · obtain ⟨rfl, -⟩ := Prod.mk.inj (Option.some.inj h)
    exact proper_momentValue
  · split at h
    · obtain ⟨rfl, -⟩ := Prod.mk.inj (Option.some.inj h)
      exact .other nofun
    · obtain ⟨_, -, read⟩ := Option.map_eq_some_iff.1 h
      obtain ⟨rfl, -⟩ := Prod.mk.inj read
      exact .other nofun

theorem proper_of_plainValue? {cs r : Rest} {v : SettingValue} (h : plainValue? cs = some (v, r)) :
    v.Proper := by
  cases cs with
  | nil => cases h
  | cons c rest =>
    rw [plainValue?] at h
    split_ifs at h with _ number
    case pos =>
      obtain ⟨_, -, read⟩ := Option.map_eq_some_iff.1 h
      obtain ⟨rfl, -⟩ := Prod.mk.inj read
      exact .other nofun
    case pos => exact proper_of_numberOrTime? h
    all_goals
      obtain ⟨_, -, read⟩ := Option.map_eq_some_iff.1 h
      obtain ⟨rfl, -⟩ := Prod.mk.inj read
      exact .other nofun

theorem entriesProper_of_inlineEntries? {value? : Rest → Option (SettingValue × Rest)}
    (each : ∀ cs v r, value? cs = some (v, r) → v.Proper) {done es : Entries} {fuel : Nat}
    {cs r : Rest} (before : EntriesProper done)
    (h : inlineEntries? value? done fuel cs = some (es, r)) : EntriesProper es := by
  induction fuel generalizing done cs with
  | zero => cases h
  | succ fuel ih =>
    rw [inlineEntries?] at h
    simp only [Option.bind_eq_bind, Option.bind_eq_some_iff, Prod.exists] at h
    obtain ⟨path, r₁, -, r₂, -, v, r₃, read, done', assigned, h⟩ := h
    have after := before.assign (each _ _ _ read) assigned
    split at h
    · exact ih after h
    · obtain ⟨rfl, -⟩ := Prod.mk.inj (Option.some.inj h)
      exact after
    · cases h

theorem proper_of_value? {depth : Nat} {cs r : Rest} {v : SettingValue}
    (h : value? depth cs = some (v, r)) : v.Proper := by
  induction depth generalizing cs v r with
  | zero =>
    unfold value? at h
    split at h
    · cases h
    · cases h
    · exact proper_of_plainValue? h
  | succ depth ih =>
    unfold value? at h
    split at h
    · obtain ⟨_, -, read⟩ := Option.map_eq_some_iff.1 h
      obtain ⟨rfl, -⟩ := Prod.mk.inj read
      exact .other nofun
    · dsimp only at h
      split at h
      · obtain ⟨rfl, -⟩ := Prod.mk.inj (Option.some.inj h)
        exact .empty
      · obtain ⟨_, entries, read⟩ := Option.map_eq_some_iff.1 h
        obtain ⟨rfl, -⟩ := Prod.mk.inj read
        have proper := entriesProper_of_inlineEntries? (fun _ _ _ => ih) .empty entries
        exact (proper.table ..).toValue
    · exact proper_of_plainValue? h

end Values

namespace Document

open Node

structure Proper (d : Document) : Prop where
  root : EntriesProper d.root
  current : EntriesProper d.current

variable {d d' : Document} {path : List String}

theorem Proper.close (h : d.Proper) {es : Entries} (closed : d.close = some es) :
    EntriesProper es := by
  rw [Document.close] at closed
  split at closed
  · exact Option.some.inj closed ▸ h.current
  · have table : Node.Proper (.table false false d.current) := h.current.table ..
    refine h.root.descend (fun isDotted es es' before changed => ?_) closed
    split_ifs at changed
    · split at changed
      · rename_i done found
        obtain rfl := Option.some.inj changed
        refine before.put (.tables fun n member => ?_)
        obtain early | rfl := (List.mem_append.1 member).imp_right List.mem_singleton.1
        · exact (before.lookup found).all n early
        · exact table
      · cases changed
      · obtain rfl := Option.some.inj changed
        exact before.put (.tables fun n member => List.mem_singleton.1 member ▸ table)
    · exact Option.some.inj changed ▸ before.put table

theorem proper_of_under {root : Entries} (h : EntriesProper root) {n : Node}
    (found : under path root = some (some n)) : n.Proper := by
  rw [under] at found
  split at found
  · cases found
  · rename_i key way _
    generalize way.reverse = way at found
    induction way generalizing root with
    | nil => exact h.lookup (Option.some.inj found)
    | cons k way ih =>
      rw [under.go] at found
      split at found
      · cases found
      · cases found
      · rename_i inner there
        exact ih (h.lookup there).entries found
      · rename_i done there
        split at found
        · rename_i inner last
          exact ih ((h.lookup there).all _ (List.mem_of_getLast? last)).entries found
        · cases found

theorem Proper.openTable (h : d.Proper) (opened : d.openTable path = some d') : d'.Proper := by
  simp only [Document.openTable, Option.bind_eq_bind, Option.bind_eq_some_iff] at opened
  obtain ⟨root, closed, there, found, opened⟩ := opened
  have root := h.close closed
  split at opened
  · exact Option.some.inj opened ▸ ⟨root, .empty⟩
  · exact Option.some.inj opened ▸ ⟨root, (proper_of_under root found).entries⟩
  · cases opened

theorem Proper.openArrayItem (h : d.Proper) (opened : d.openArrayItem path = some d') :
    d'.Proper := by
  simp only [Document.openArrayItem, Option.bind_eq_bind, Option.bind_eq_some_iff] at opened
  obtain ⟨root, closed, there, -, opened⟩ := opened
  have root := h.close closed
  split at opened
  · exact Option.some.inj opened ▸ ⟨root, .empty⟩
  · exact Option.some.inj opened ▸ ⟨root, .empty⟩
  · cases opened

theorem Proper.set (h : d.Proper) {v : SettingValue} (value : v.Proper)
    (done : d.set path v = some d') : d'.Proper := by
  simp only [Document.set, Option.bind_eq_bind, Option.bind_eq_some_iff] at done
  obtain ⟨current, assigned, done⟩ := done
  exact Option.some.inj done ▸ ⟨h.root, h.current.assign value assigned⟩

theorem Proper.line? (h : d.Proper) {cs r : Rest} (read : line? cs d = some (d', r)) : d'.Proper := by
  unfold Document.line? at read
  split at read
  all_goals
    simp only [Option.bind_eq_bind, Option.bind_eq_some_iff, Prod.exists, Option.some.injEq,
      Prod.mk.injEq] at read
  · obtain ⟨path, _, -, _, -, _, -, _, -, d', opened, rfl, -⟩ := read
    exact h.openArrayItem opened
  · obtain ⟨path, _, -, _, -, _, -, d', opened, rfl, -⟩ := read
    exact h.openTable opened
  · obtain ⟨path, _, -, _, -, v, _, value, _, -, d', done, rfl, -⟩ := read
    exact h.set (proper_of_value? value) done

theorem Proper.lines? (h : d.Proper) {fuel : Nat} {cs : Rest} (read : lines? fuel cs d = some d') :
    d'.Proper := by
  induction fuel generalizing cs d with
  | zero => cases read
  | succ fuel ih =>
    rw [Document.lines?] at read
    split at read
    · exact Option.some.inj read ▸ h
    · simp only [Option.bind_eq_bind, Option.bind_eq_some_iff, Prod.exists] at read
      obtain ⟨next, r, line, read⟩ := read
      exact ih (h.line? line) read

end Document

theorem proper_of_parse? {text : List Char} {v : SettingValue} (h : parse? text = some v) :
    v.Proper ∧ ∃ es, v = .table es := by
  simp only [parse?, Option.bind_eq_bind, Option.bind_eq_some_iff, Option.some.injEq] at h
  obtain ⟨d, read, root, closed, rfl⟩ := h
  have empty : Document.empty.Proper := ⟨.empty, .empty⟩
  exact ⟨(((empty.lines? read).close closed).table ..).toValue, _, rfl⟩

end Toml

namespace Environment

section Values

theorem forall_mem_of_members? {α : Type} {P : α → Prop} {close : Char}
    {member? : Rest → Option (α × Rest)} (each : ∀ cs m r, member? cs = some (m, r) → P m)
    {done ms : List α} {fuel : Nat} {cs r : Rest} (before : ∀ m ∈ done, P m)
    (h : members? close member? done fuel cs = some (ms, r)) : ∀ m ∈ ms, P m := by
  induction fuel generalizing done cs with
  | zero => cases h
  | succ fuel ih =>
    rw [members?] at h
    split at h
    · obtain ⟨rfl, -⟩ := Prod.mk.inj (Option.some.inj h)
      exact fun m member => before m (List.mem_reverse.1 member)
    · simp only [Option.bind_eq_bind, Option.bind_eq_some_iff, Prod.exists] at h
      obtain ⟨m, r', read, h⟩ := h
      have after : ∀ m' ∈ m :: done, P m' := List.forall_mem_cons.2 ⟨each _ _ _ read, before⟩
      split at h
      · exact ih after h
      · obtain ⟨_, -, same⟩ := Option.map_eq_some_iff.1 h
        obtain ⟨rfl, -⟩ := Prod.mk.inj same
        exact fun m member => after m (List.mem_reverse.1 member)

theorem proper_of_members {es : SettingValue.Entries} (each : ∀ e ∈ es, e.2.Proper) :
    (SettingValue.table (es.foldl (fun t e => SettingValue.put e.1 e.2 t) [])).Proper := by
  have onto (es : SettingValue.Entries) (each : ∀ e ∈ es, e.2.Proper) {t : SettingValue.Entries}
      (before : (SettingValue.table t).Proper) :
      (SettingValue.table (es.foldl (fun t e => SettingValue.put e.1 e.2 t) t)).Proper := by
    induction es generalizing t with
    | nil => exact before
    | cons e es ih =>
      rw [List.forall_mem_cons] at each
      exact ih each.2 (before.put each.1)
  exact onto es each .empty

theorem proper_plain (cs : List Char) : (plain cs).Proper := by
  refine .other fun es => ?_
  rw [plain]
  split_ifs
  · nofun
  · split <;> nofun

theorem proper_of_value? {depth : Nat} {cs r : Rest} {v : SettingValue}
    (h : value? depth cs = some (v, r)) : v.Proper := by
  induction depth generalizing cs v r with
  | zero => cases h
  | succ depth ih =>
    have pairs {cs r : Rest} {e : String × SettingValue}
        (read : pairAt? (value? depth) cs = some (e, r)) : e.2.Proper := by
      simp only [pairAt?, Option.bind_eq_bind, Option.bind_eq_some_iff, Prod.exists,
        Option.some.injEq, Prod.mk.injEq] at read
      obtain ⟨key, _, -, _, -, v, _, value, rfl, -⟩ := read
      exact ih value
    rw [value?] at h
    simp only [Option.bind_eq_bind] at h
    split at h
    all_goals
      obtain ⟨⟨v', r'⟩, read, same⟩ := Option.bind_eq_some_iff.1 h
      obtain ⟨rfl, -⟩ := Prod.mk.inj (Option.some.inj same)
    case h_3 =>
      obtain ⟨⟨es, _⟩, members, same⟩ := Option.map_eq_some_iff.1 read
      obtain ⟨rfl, -⟩ := Prod.mk.inj same
      exact proper_of_members (forall_mem_of_members? (fun _ _ _ => pairs) (by simp) members)
    case h_4 | h_5 =>
      obtain ⟨_, -, same⟩ := Option.map_eq_some_iff.1 read
      obtain ⟨rfl, -⟩ := Prod.mk.inj same
      exact .other nofun
    case h_7 => cases read
    case h_8 =>
      obtain ⟨rfl, -⟩ := Prod.mk.inj (Option.some.inj read)
      exact proper_plain _
    all_goals
      obtain ⟨rfl, -⟩ := Prod.mk.inj (Option.some.inj read)
      exact .other nofun

theorem proper_value (text : List Char) : (value text).Proper := by
  rw [value]
  split
  · exact .other nofun
  · split
    · exact proper_of_value? ‹_›
    · exact .other nofun

end Values

/-- What one variable says, if its name leads anywhere. -/
def said? (x : String × String) : Option SettingValue :=
  (path? x.1).map fun path => SettingValue.nest path (value (Text.trim x.2.toList))

section Layer

variable {envVars : List (String × String)}

theorem layer_eq_foldl (envVars : List (String × String)) :
    layer envVars =
      (envVars.filterMap said?).foldl (fun below v => v.onto below) (.table []) := by
  rw [layer, List.foldl_filterMap]
  congr 1
  funext below ⟨name, text⟩
  simp only [said?]
  cases path? name <;> rfl

theorem exists_of_path? {name : String} {path : List String} (h : path? name = some path) :
    ∃ key rest, path = key :: rest := by
  simp only [path?, Option.bind_eq_bind, Option.bind_eq_some_iff] at h
  obtain ⟨rest, -, h⟩ := h
  split_ifs at h
  obtain rfl := Option.some.inj h
  have pieces := Text.splitOn_ne_nil '.' (Text.trim (pointed rest))
  obtain ⟨first, others, same⟩ := List.exists_cons_of_ne_nil pieces
  exact ⟨_, _, by rw [same, List.map_cons]⟩

theorem proper_nest {v : SettingValue} (h : v.Proper) (path : List String) :
    (SettingValue.nest path v).Proper := by
  induction path with
  | nil => exact h
  | cons key path ih =>
    refine .table (by simp) fun e member => ?_
    obtain rfl := List.mem_singleton.1 member
    exact ih

theorem proper_of_said? {x : String × String} {v : SettingValue} (h : said? x = some v) :
    v.Proper ∧ ∃ es, v = .table es := by
  obtain ⟨path, led, rfl⟩ := Option.map_eq_some_iff.1 h
  obtain ⟨key, rest, rfl⟩ := exists_of_path? led
  exact ⟨proper_nest (proper_value _) _, _, rfl⟩

theorem said_of_mem {v : SettingValue} (h : v ∈ envVars.filterMap said?) :
    v.Proper ∧ ∃ es, v = .table es := by
  obtain ⟨x, -, here⟩ := List.mem_filterMap.1 h
  exact proper_of_said? here

theorem proper_layer (envVars : List (String × String)) :
    (layer envVars).Proper ∧ ∃ es, layer envVars = .table es := by
  have onto (vs : List SettingValue) (each : ∀ v ∈ vs, v.Proper ∧ ∃ es, v = .table es)
      {below : SettingValue} (h : below.Proper ∧ ∃ es, below = .table es) :
      (vs.foldl (fun below v => v.onto below) below).Proper ∧
        ∃ es, vs.foldl (fun below v => v.onto below) below = .table es := by
    induction vs generalizing below with
    | nil => exact h
    | cons v vs ih =>
      rw [List.forall_mem_cons] at each
      obtain ⟨lower, ls, rfl⟩ := h
      obtain ⟨⟨proper, us, rfl⟩, later⟩ := each
      exact ih later ⟨proper.onto lower, _, SettingValue.onto_table us ls⟩
  rw [layer_eq_foldl]
  exact onto _ (fun v => said_of_mem) ⟨.empty, _, rfl⟩

end Layer

end Environment

end TitleDock
