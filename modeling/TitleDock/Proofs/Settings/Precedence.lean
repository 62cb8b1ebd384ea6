import TitleDock.Proofs.Settings.Documents
import TitleDock.Proofs.Settings.Fields
import TitleDock.Proofs.Settings.Variables
import TitleDock.Settings.Layers

/-! Which layer decides. Settings are what the command line, the environment, the file and the
standard say, field by field and in this order: the first that says something about a field decides
what the field is, and nothing else in any layer matters. -/

namespace TitleDock.Settings

def SectionsAreTables (v : SettingValue) : Prop :=
  ∀ name ∈ sections, ∀ w ∈ v.at? [name], w.isTable = true

instance (v : SettingValue) : Decidable (SectionsAreTables v) :=
  inferInstanceAs (Decidable (∀ name ∈ sections, ∀ w ∈ v.at? [name], w.isTable = true))

structure IsLayer (v : SettingValue) : Prop where
  proper : v.Proper
  table : ∃ es, v = .table es
  parts : SectionsAreTables v

theorem path_cases : ∀ f ∈ fields, (∃ name, f.path = [name]) ∨
    ∃ part ∈ sections, ∃ name, f.path = [part, name] := by
  simp [fields, DiscoverySettings.fields, ClientSettings.fields, TransferSettings.fields,
    Field.inside, sections]

section Layers

variable {v upper lower : SettingValue} {name : String}

theorem isWay_iff {es : SettingValue.Entries} (name key : String) :
    SettingValue.IsWay [name, key] (.table es) ↔
      ∀ w ∈ (SettingValue.table es).at? [name], w.isTable = true := by
  simp [SettingValue.IsWay, SettingValue.at?, SettingValue.isTable_iff]

theorem IsLayer.isWay (h : IsLayer v) (member : name ∈ sections) (key : String) :
    SettingValue.IsWay [name, key] v := by
  obtain ⟨es, rfl⟩ := h.table
  exact (isWay_iff name key).2 (h.parts name member)

theorem IsLayer.way (h : IsLayer v) : ∀ f ∈ fields, SettingValue.IsWay f.path v := by
  intro f member
  obtain ⟨name, path⟩ | ⟨part, known, name, path⟩ := path_cases f member
  · obtain ⟨es, rfl⟩ := h.table
    rw [path]
    exact ⟨es, rfl, fun _ _ => trivial⟩
  · rw [path]
    exact h.isWay known name

theorem IsLayer.onto (h : IsLayer upper) (h' : IsLayer lower) : IsLayer (upper.onto lower) := by
  have way (name : String) (member : name ∈ sections) := SettingValue.IsWay.onto h.proper
    (h.isWay member "") (h'.isWay member "")
  have proper := h.proper.onto h'.proper
  obtain ⟨us, rfl⟩ := h.table
  obtain ⟨ls, rfl⟩ := h'.table
  rw [SettingValue.onto_table] at way proper ⊢
  exact ⟨proper, ⟨_, rfl⟩, fun name member => (isWay_iff name "").1 (way name member)⟩

theorem given?_onto (h : IsLayer upper) (h' : IsLayer lower) {f : Field Settings}
    (member : f ∈ fields) : f.given? (upper.onto lower) = (f.given? upper).or (f.given? lower) :=
  SettingValue.given?_onto (read_table f member) h.proper (h.way f member) (h'.way f member)

theorem isLayer_empty : IsLayer (.table []) where
  proper := .empty
  table := ⟨_, rfl⟩
  parts := by simp [SectionsAreTables, SettingValue.at?]

theorem silent : ∀ f ∈ fields, f.given? (.table []) = none := by
  intro f member
  obtain ⟨name, path⟩ | ⟨part, -, name, path⟩ := path_cases f member <;>
    simp [Field.given?, SettingValue.given?, path, SettingValue.at?]

theorem isLayer_standard (tempDir : String) : IsLayer (standard tempDir).toValue where
  proper := by
    have flat {es : SettingValue.Entries} (keys : (es.map Prod.fst).Nodup)
        (values : ∀ e ∈ es, ∀ inner, e.2 ≠ .table inner) : (SettingValue.table es).Proper :=
      .table keys fun e member => .other (values e member)
    refine .table (by simp) ?_
    simp only [List.forall_mem_cons]
    exact ⟨.other nofun, .other nofun, .other nofun,
      flat (by simp) (by simp [SettingValue.ofNat]),
      flat (by simp) (by simp [SettingValue.ofNat]),
      flat (by simp) (by simp [SettingValue.ofNat]), by simp⟩
  table := ⟨_, rfl⟩
  parts := by
    simp [SectionsAreTables, sections, toValue, DiscoverySettings.toValue, ClientSettings.toValue,
      TransferSettings.toValue, SettingValue.at?, SettingValue.isTable, List.lookup_cons]

end Layers

section Merged

variable {file environment command : SettingValue} (tempDir : String) (h₁ : IsLayer file)
  (h₂ : IsLayer environment) (h₃ : IsLayer command)

include h₁ h₂ h₃

theorem isLayer_layered : IsLayer (layered tempDir file environment command) :=
  h₃.onto (h₂.onto (h₁.onto (isLayer_standard tempDir)))

theorem settled_layered {f : Field Settings} (member : f ∈ fields) :
    f.settled (standard tempDir) [layered tempDir file environment command] =
      f.settled (standard tempDir) [command, environment, file] := by
  have below := h₁.onto (isLayer_standard tempDir)
  rw [Field.settled_one, layered, given?_onto h₃ (h₂.onto below) member, given?_onto h₂ below member,
    given?_onto h₁ (isLayer_standard tempDir) member, given?_standard tempDir f member, Field.settled]
  simp only [List.findSome?_cons, List.findSome?_nil]
  cases f.given? command <;> cases f.given? environment <;> cases f.given? file <;> rfl

theorem reads_layered : ∃ es, layered tempDir file environment command = .table es ∧
    Field.Reads (ofValue? tempDir) (standard tempDir) fields es := by
  have layer := isLayer_layered tempDir h₁ h₂ h₃
  obtain ⟨es, table⟩ := layer.table
  refine ⟨es, table, reads tempDir fun name member v found => ?_⟩
  refine SettingValue.isTable_iff.1 (layer.parts name member v ?_)
  rw [table, SettingValue.at?, Option.mem_def, Option.bind_eq_some_iff]
  exact ⟨v, found, rfl⟩

theorem ofValue?_layered (s : Settings) :
    ofValue? tempDir (layered tempDir file environment command) = some s ↔
      ∀ f ∈ fields, f.settled (standard tempDir) [command, environment, file] = some (f.get s) := by
  obtain ⟨es, table, reads⟩ := reads_layered tempDir h₁ h₂ h₃
  have same {f : Field Settings} (member : f ∈ fields) := settled_layered tempDir h₁ h₂ h₃ member
  rw [table] at same ⊢
  exact (reads.eq_some_iff s).trans (forall₂_congr fun f member => by rw [same member])

theorem isSome_layered : (ofValue? tempDir (layered tempDir file environment command)).isSome ↔
    ∀ f ∈ fields, (f.settled (standard tempDir) [command, environment, file]).isSome := by
  obtain ⟨es, table, reads⟩ := reads_layered tempDir h₁ h₂ h₃
  have same {f : Field Settings} (member : f ∈ fields) := settled_layered tempDir h₁ h₂ h₃ member
  constructor
  · intro read f member
    obtain ⟨s, read⟩ := Option.isSome_iff_exists.1 read
    rw [(ofValue?_layered tempDir h₁ h₂ h₃ s).1 read f member]
    rfl
  · intro settled
    rw [table] at same ⊢
    exact reads.isSome fun f member => by rw [same member]; exact settled f member

end Merged

/-- What a variable says about a field, if anything. -/
def givenBy? (f : Field Settings) (x : String × String) : Option (Option f.Value) :=
  (Environment.said? x).bind f.given?

theorem isPart_of_path : ∀ f ∈ fields, f.path ≠ [] ∧ ∀ part ∈ f.path, Environment.IsPart part := by
  decide +kernel

theorem not_prefix_of_path :
    ∀ f ∈ fields, ∀ g ∈ fields, g.path ≠ f.path → ¬ f.path <+: g.path ∧ ¬ g.path <+: f.path := by
  decide +kernel

theorem givenBy?_of_spells {f : Field Settings} (member : f ∈ fields) {name : String}
    (spells : Environment.Spells name f.path) (text : String) :
    givenBy? f (name, text) = some (f.read (Environment.value (Text.trim text.toList))) ∧
      ∀ g ∈ fields, g.path ≠ f.path → givenBy? g (name, text) = none := by
  obtain ⟨long, parts⟩ := isPart_of_path f member
  have said : Environment.said? (name, text) =
      some (SettingValue.nest f.path (Environment.value (Text.trim text.toList))) := by
    rw [Environment.said?, Environment.path?_of_spells spells long parts]
    rfl
  rw [givenBy?, said, Option.bind_some, Field.given?, SettingValue.given?, SettingValue.at?_nest]
  refine ⟨rfl, fun g known other => ?_⟩
  obtain ⟨apart, apart'⟩ := not_prefix_of_path f member g known other
  rw [givenBy?, said, Option.bind_some, Field.given?, SettingValue.given?,
    SettingValue.at?_nest_of_apart apart apart']
  rfl

section Variables

variable {envVars : List (String × String)} {f : Field Settings}

theorem given?_foldl {vs : List SettingValue} (each : ∀ v ∈ vs, IsLayer v) {below : SettingValue}
    (h : IsLayer below) (member : f ∈ fields) :
    f.given? (vs.foldl (fun below v => v.onto below) below) =
      (vs.reverse.findSome? f.given?).or (f.given? below) := by
  induction vs generalizing below with
  | nil => rfl
  | cons v vs ih =>
    rw [List.forall_mem_cons] at each
    rw [List.foldl_cons, ih each.2 (each.1.onto h), given?_onto each.1 h member, List.reverse_cons,
      List.findSome?_append, List.findSome?_singleton, Option.or_assoc]

variable (tables : ∀ x ∈ envVars, ∀ v, Environment.said? x = some v → SectionsAreTables v)

include tables

theorem given?_layer (member : f ∈ fields) :
    f.given? (Environment.layer envVars) = envVars.reverse.findSome? (givenBy? f) := by
  have each : ∀ v ∈ envVars.filterMap Environment.said?, IsLayer v := by
    intro v member
    obtain ⟨proper, table⟩ := Environment.said_of_mem member
    obtain ⟨x, member, here⟩ := List.mem_filterMap.1 member
    exact ⟨proper, table, tables x member v here⟩
  rw [Environment.layer_eq_foldl, given?_foldl each isLayer_empty member, silent f member, Option.or_none,
    ← List.filterMap_reverse, ← List.head?_filterMap, List.filterMap_filterMap, List.head?_filterMap]
  rfl

theorem given?_layer_eq_some_iff (apart : envVars.Pairwise fun x y =>
      ∀ f ∈ fields, givenBy? f x = none ∨ givenBy? f y = none) (member : f ∈ fields)
    (r : Option f.Value) : f.given? (Environment.layer envVars) = some r ↔
      ∃ x ∈ envVars, givenBy? f x = some r := by
  rw [given?_layer tables member]
  clear tables
  induction apart with
  | nil => simp
  | @cons x vars others _ ih =>
    rw [List.reverse_cons, List.findSome?_append, List.findSome?_singleton, List.exists_mem_cons_iff]
    cases here : givenBy? f x with
    | none => simp [← ih]
    | some r' =>
      have silent : vars.reverse.findSome? (givenBy? f) = none := by
        refine List.findSome?_eq_none_iff.2 fun y later => ?_
        simpa [here] using others y (List.mem_reverse.1 later) f member
      simp [silent, ← ih]

end Variables

/-- What the command line, the environment and the file say, if the file can be read. -/
def layers (t : Files.Tree) (file : Option String) (envVars : List (String × String))
    (command : Option SettingValue) : Option (List SettingValue) :=
  (fileLayer (find? t (file.getD defaultFile))).map fun said =>
    [command.getD (.table []), Environment.layer envVars, said]

/-- What the fields are in an environment when no layer says anything. -/
def basis (envVars : List (String × String)) : Settings := standard (Environment.tempDir envVars)

/-- The command line is a table without a key twice, and wherever a section is, it is a table. -/
structure Layered (t : Files.Tree) (file : Option String) (envVars : List (String × String))
    (command : Option SettingValue) : Prop where
  object : ∀ v ∈ command, v.Proper ∧ ∃ es, v = .table es
  parts : ∀ ls ∈ layers t file envVars command, ∀ v ∈ ls, SectionsAreTables v

def made? (t : Files.Tree) (file : Option String) (envVars : List (String × String))
    (command : Option SettingValue) : Option Settings := do
  let fileValue ← fileLayer (find? t (file.getD defaultFile))
  let commandValue ← commandLayer command
  let tempDir := Environment.tempDir envVars
  ofValue? tempDir (layered tempDir fileValue (Environment.layer envVars) commandValue)

section Loading

variable {t : Files.Tree} {file : Option String} {envVars : List (String × String)}
  {command : Option SettingValue}

theorem load_of_missing {path : String} (missing : t.existsAt path = false) :
    load t (some path) envVars command = .error (.fileNotFound path) := by
  simp [load, missing]

theorem load_of_present (present : ∀ path ∈ file, t.existsAt path = true) :
    load t file envVars command = (made? t file envVars command).elim (.error .invalid) .ok := by
  cases file with
  | none =>
    simp only [load, Bool.false_eq_true, if_false]
    rw [← made?]
    cases made? t none envVars command <;> rfl
  | some path =>
    simp only [load, present path rfl, Bool.not_true, Bool.false_eq_true, if_false]
    rw [← made?]
    cases made? t (some path) envVars command <;> rfl

theorem isLayer_of_fileLayer {v : SettingValue} {content : Option Bytes}
    (h : fileLayer content = some v) (parts : SectionsAreTables v) : IsLayer v := by
  cases content with
  | none =>
    obtain rfl := Option.some.inj h
    exact isLayer_empty
  | some bytes =>
    obtain ⟨text, -, read⟩ := Option.bind_eq_some_iff.1 h
    obtain ⟨proper, table⟩ := Toml.proper_of_parse? read
    exact ⟨proper, table, parts⟩

theorem commandLayer_eq (h : Layered t file envVars command) :
    commandLayer command = some (command.getD (.table [])) := by
  cases command with
  | none => rfl
  | some v =>
    obtain ⟨-, es, rfl⟩ := h.object v rfl
    rfl

theorem Layered.isLayer {fileValue : SettingValue} (h : Layered t file envVars command)
    (read : fileLayer (find? t (file.getD defaultFile)) = some fileValue) :
    IsLayer fileValue ∧ IsLayer (Environment.layer envVars) ∧ IsLayer (command.getD (.table [])) := by
  have parts := h.parts _ (Option.map_eq_some_iff.2 ⟨_, read, rfl⟩)
  simp only [List.forall_mem_cons] at parts
  obtain ⟨proper, table⟩ := Environment.proper_layer envVars
  refine ⟨isLayer_of_fileLayer read parts.2.2.1, ⟨proper, table, parts.2.1⟩, ?_⟩
  cases command with
  | none => exact isLayer_empty
  | some v =>
    obtain ⟨proper, table⟩ := h.object v rfl
    exact ⟨proper, table, parts.1⟩

theorem made?_eq_some_iff (h : Layered t file envVars command) (s : Settings) :
    made? t file envVars command = some s ↔ ∃ ls, layers t file envVars command = some ls ∧
      ∀ f ∈ fields, f.settled (basis envVars) ls = some (f.get s) := by
  rw [made?, layers, commandLayer_eq h]
  cases read : fileLayer (find? t (file.getD defaultFile)) with
  | none => simp
  | some fileValue =>
    obtain ⟨h₁, h₂, h₃⟩ := h.isLayer read
    simpa [basis] using ofValue?_layered _ h₁ h₂ h₃ s

theorem isSome_made? (h : Layered t file envVars command) :
    (made? t file envVars command).isSome ↔ ∃ ls, layers t file envVars command = some ls ∧
      ∀ f ∈ fields, (f.settled (basis envVars) ls).isSome := by
  rw [made?, layers, commandLayer_eq h]
  cases read : fileLayer (find? t (file.getD defaultFile)) with
  | none => simp
  | some fileValue =>
    obtain ⟨h₁, h₂, h₃⟩ := h.isLayer read
    simpa [basis] using isSome_layered _ h₁ h₂ h₃

theorem load_eq_ok_iff {s : Settings} : load t file envVars command = .ok s ↔
    (∀ path ∈ file, t.existsAt path = true) ∧ made? t file envVars command = some s := by
  by_cases present : ∀ path ∈ file, t.existsAt path = true
  · rw [load_of_present present, and_iff_right present]
    cases made? t file envVars command <;> simp
  · have ⟨path, named, missing⟩ : ∃ path ∈ file, t.existsAt path = false := by simpa using present
    obtain rfl : file = some path := named
    rw [load_of_missing missing]
    exact iff_of_false nofun fun loaded => present loaded.1

theorem map_layers_eq_iff {t : Files.Tree} {s : Settings} :
    (∃ ls, layers t file envVars command = some ls ∧
      ∀ f ∈ fields, f.settled (basis envVars) ls = some (f.get s)) ↔
      ∀ f ∈ fields,
        (layers t file envVars command).map (f.settled (basis envVars)) = some (some (f.get s)) := by
  cases layers t file envVars command with
  | none =>
    have nonempty : ∃ f, f ∈ fields := ⟨_, List.mem_cons_self ..⟩
    simpa using nonempty
  | some ls => simp

theorem load_congr {t' : Files.Tree} {envVars' : List (String × String)}
    {command' : Option SettingValue} (h : Layered t file envVars command)
    (h' : Layered t' file envVars' command')
    (there : ∀ path ∈ file, t'.existsAt path = t.existsAt path)
    (alike : ∀ f ∈ fields, (layers t' file envVars' command').map (f.settled (basis envVars')) =
      (layers t file envVars command).map (f.settled (basis envVars))) :
    load t' file envVars' command' = load t file envVars command := by
  have made : made? t' file envVars' command' = made? t file envVars command := by
    ext s
    rw [made?_eq_some_iff h', made?_eq_some_iff h,
      map_layers_eq_iff, map_layers_eq_iff]
    exact forall₂_congr fun f member => by rw [alike f member]
  by_cases present : ∀ path ∈ file, t.existsAt path = true
  · have present' : ∀ path ∈ file, t'.existsAt path = true := fun path named =>
      (there path named).trans (present path named)
    rw [load_of_present present, load_of_present present', made]
  · have ⟨path, named, missing⟩ : ∃ path ∈ file, t.existsAt path = false := by simpa using present
    obtain rfl : file = some path := named
    rw [load_of_missing missing, load_of_missing ((there path rfl).trans missing)]

/-- Settings are loaded exactly if the file that is named is there, the file that is found can be
read, and what the highest layer says about a field is a value of the field, for every field. Then
every field is that value, or the standard one when no layer says anything. What layers say
otherwise, above or below, does not matter. Of the environment, each variable counts for the fields
that it sets, and one that is named for a field, in any case, sets it and no other. -/
theorem load_takes_highest (t : Files.Tree) (file : Option String)
    (envVars : List (String × String)) (command : Option SettingValue)
    (h : Layered t file envVars command) :
    ((∃ s, load t file envVars command = .ok s) ↔
      (∀ path ∈ file, t.existsAt path = true) ∧ ∃ ls, layers t file envVars command = some ls ∧
        ∀ f ∈ fields, (f.settled (basis envVars) ls).isSome) ∧
    (∀ s, load t file envVars command = .ok s → ∃ ls, layers t file envVars command = some ls ∧
      ∀ f ∈ fields, f.settled (basis envVars) ls = some (f.get s)) ∧
    (∀ t' envVars' command', Layered t' file envVars' command' →
      (∀ path ∈ file, t'.existsAt path = t.existsAt path) →
      (∀ f ∈ fields, (layers t' file envVars' command').map (f.settled (basis envVars')) =
        (layers t file envVars command).map (f.settled (basis envVars))) →
      load t' file envVars' command' = load t file envVars command) ∧
    ((∀ x ∈ envVars, ∀ v, Environment.said? x = some v → SectionsAreTables v) →
      (envVars.Pairwise fun x y => ∀ f ∈ fields, givenBy? f x = none ∨ givenBy? f y = none) →
      ∀ f ∈ fields, ∀ r, f.given? (Environment.layer envVars) = some r ↔
        ∃ x ∈ envVars, givenBy? f x = some r) ∧
    ∀ f ∈ fields, ∀ name text, Environment.Spells name f.path →
      givenBy? f (name, text) = some (f.read (Environment.value (Text.trim text.toList))) ∧
        ∀ g ∈ fields, g.path ≠ f.path → givenBy? g (name, text) = none := by
  refine ⟨?_, ?_, ?_, ?_, ?_⟩
  · rw [← isSome_made? h, Option.isSome_iff_exists]
    simp only [load_eq_ok_iff, exists_and_left]
  · intro s loaded
    exact (made?_eq_some_iff h s).1 (load_eq_ok_iff.1 loaded).2
  · exact fun t' envVars' command' h' there alike => load_congr h h' there alike
  · exact fun tables apart f member r => given?_layer_eq_some_iff tables apart member r
  · exact fun f member name text spells => givenBy?_of_spells member spells text

def plainTree : Files.Tree :=
  let text := "verbose = 3\n[transfer]\nformat = \"xci\"\npoll_interval_ms = 250"
  { entries := [(["nxlink.toml"], .file (Bytes.ofString text))], workingFolder := [] }

def plainVariables : List (String × String) :=
  [("NXLINK_VERBOSE", "true"), ("NXLINK_TRANSFER__POLL_INTERVAL_MS", "500"),
    ("nxlink_transfer__other", "1"), ("TMPDIR", "/var/tmp")]

def plainCommand : SettingValue := .table [("simulation", .bool true)]

/-- Variables set a field of the whole and one of a section, over what the file says of them; the
file sets another field of the section, and the folder for temporary files is the one of the
environment. -/
theorem load_takes_variable_over_file :
    Layered plainTree none plainVariables (some plainCommand) ∧
      ∃ s, load plainTree none plainVariables (some plainCommand) = .ok s ∧
        s.verbose = true ∧ s.transfer = { TransferSettings.standard "/var/tmp" with
          pollIntervalMs := 500, format := "xci" } := by
  have layered : Layered plainTree none plainVariables (some plainCommand) := by
    refine ⟨?_, by decide +kernel⟩
    rintro v ⟨⟩
    refine ⟨.table (by decide) fun e member => ?_, _, rfl⟩
    obtain rfl := List.mem_singleton.1 member
    exact .other nofun
  obtain ⟨loads, decides, -⟩ := load_takes_highest _ _ _ _ layered
  have readable : ∃ ls, layers plainTree none plainVariables (some plainCommand) = some ls :=
    Option.isSome_iff_exists.1 (by decide +kernel)
  let expected : TransferSettings :=
    { TransferSettings.standard "/var/tmp" with pollIntervalMs := 500, format := "xci" }
  have each : ∀ ls ∈ layers plainTree none plainVariables (some plainCommand),
      (∀ f ∈ fields, (f.settled (basis plainVariables) ls).isSome) ∧
      Field.settled ⟨["verbose"], Bool, SettingValue.bool?, verbose⟩ (basis plainVariables) ls =
        some true ∧
      Field.settled ⟨["transfer", "poll_interval_ms"], Nat, SettingValue.natural? Decimal.largest64,
        (·.transfer.pollIntervalMs)⟩ (basis plainVariables) ls = some expected.pollIntervalMs ∧
      (Field.settled ⟨["transfer", "temp_dir"], String, SettingValue.text?, (·.transfer.tempDir)⟩
        (basis plainVariables) ls = some expected.tempDir ∧
      Field.settled ⟨["transfer", "format"], String, SettingValue.text?, (·.transfer.format)⟩
        (basis plainVariables) ls = some expected.format) ∧
      Field.settled ⟨["transfer", "include_updates"], Bool, SettingValue.bool?,
        (·.transfer.includeUpdates)⟩ (basis plainVariables) ls = some expected.includeUpdates ∧
      Field.settled ⟨["transfer", "include_dlc"], Bool, SettingValue.bool?,
        (·.transfer.includeDlc)⟩ (basis plainVariables) ls = some expected.includeDlc := by
    decide +kernel
  obtain ⟨ls, here⟩ := readable
  obtain ⟨fit, verbose, poll, ⟨dir, format⟩, updates, dlc⟩ := each ls here
  obtain ⟨s, loaded⟩ := loads.2 ⟨nofun, ls, here, fit⟩
  obtain ⟨ls', here', takes⟩ := decides s loaded
  obtain rfl := Option.some.inj (here.symm.trans here')
  simp only [fields, TransferSettings.fields, List.map, List.forall_mem_append,
    List.forall_mem_cons] at takes
  obtain ⟨⟨-, verbose', -⟩, -, -, poll', dir', format', updates', dlc', -⟩ := takes
  refine ⟨layered, s, loaded, Option.some.inj (verbose'.symm.trans verbose), ?_⟩
  have same : s.transfer = expected := by
    obtain ⟨simulation, verbose, logs, discovery, client, a, b, c, d, e⟩ := s
    obtain rfl : a = expected.pollIntervalMs := Option.some.inj (poll'.symm.trans poll)
    obtain rfl : b = expected.tempDir := Option.some.inj (dir'.symm.trans dir)
    obtain rfl : c = expected.format := Option.some.inj (format'.symm.trans format)
    obtain rfl : d = expected.includeUpdates := Option.some.inj (updates'.symm.trans updates)
    obtain rfl : e = expected.includeDlc := Option.some.inj (dlc'.symm.trans dlc)
    rfl
  exact same

end Loading

end TitleDock.Settings
