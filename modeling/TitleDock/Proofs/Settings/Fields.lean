import TitleDock.Proofs.Settings.Merging
import TitleDock.Settings.Fields

/-! The fields of settings one by one: where each stands, how it is read, and what it is when
nothing is said. Settings are read from a value exactly if every field is, and then they are what
the fields were read as. -/

namespace TitleDock

/-- A field of settings: the path to it, and how what stands there is read. -/
structure Field (S : Type) where
  path : List String
  Value : Type
  read : SettingValue → Option Value
  get : S → Value

namespace Field

variable {S T : Type}

/-- What a layer says about a field, if anything: a value of the field, or something else. -/
def given? (f : Field S) (v : SettingValue) : Option (Option f.Value) :=
  SettingValue.given? f.read f.path v

/-- What a field is after the first of the layers that says something about it. -/
def settled (f : Field S) (standard : S) (layers : List SettingValue) : Option f.Value :=
  (layers.findSome? f.given?).getD (some (f.get standard))

def inside (key : String) (part : S → T) (f : Field T) : Field S :=
  { f with path := key :: f.path, get := f.get ∘ part }

structure Reads (ofValue? : SettingValue → Option S) (standard : S) (fields : List (Field S))
    (es : SettingValue.Entries) : Prop where
  eq_some_iff : ∀ s, ofValue? (.table es) = some s ↔
    ∀ f ∈ fields, f.settled standard [.table es] = some (f.get s)
  isSome : (∀ f ∈ fields, (f.settled standard [.table es]).isSome) → (ofValue? (.table es)).isSome

section Reading

variable {ofValue? : SettingValue → Option T} {standard : S} {es : SettingValue.Entries}

theorem settled_one (f : Field S) (standard : S) (v : SettingValue) :
    f.settled standard [v] = (f.given? v).getD (some (f.get standard)) := by
  rw [settled, List.findSome?_cons]
  cases f.given? v <;> rfl

theorem settled_name {name : String} {Value : Type} {read : SettingValue → Option Value}
    {get : S → Value} : settled ⟨[name], Value, read, get⟩ standard [.table es] =
      SettingValue.orElse (get standard) read (es.lookup name) := by
  rw [settled_one]
  cases found : es.lookup name <;>
    simp [given?, SettingValue.given?, SettingValue.at?, found, SettingValue.orElse]

theorem given?_inside {key : String} {part : S → T} (f : Field T) :
    (f.inside key part).given? (.table es) = (es.lookup key).bind f.given? := by
  cases found : es.lookup key <;>
    simp [given?, inside, SettingValue.given?, SettingValue.at?, found]

variable {part : S → T} {fields : List (Field T)} {key : String}

theorem settled_inside (f : Field T) (standard : S) : (f.inside key part).settled standard [.table es] =
    ((es.lookup key).bind f.given?).getD (some (f.get (part standard))) := by
  rw [settled_one, given?_inside]
  rfl

theorem Reads.of_empty (h : Reads ofValue? (part standard) fields [])
    (silent : ∀ f ∈ fields, f.given? (.table []) = none) :
    ofValue? (.table []) = some (part standard) := by
  refine (h.eq_some_iff _).2 fun f member => ?_
  rw [settled_one, silent f member]
  rfl

variable (part standard) (reads : ∀ es, Reads ofValue? (part standard) fields es)
  (tables : ∀ v ∈ es.lookup key, ∃ inner, v = .table inner)

include reads tables

theorem orElse_eq_some_iff (silent : ∀ f ∈ fields, f.given? (.table []) = none) (s : S) :
    SettingValue.orElse (part standard) ofValue? (es.lookup key) = some (part s) ↔
      ∀ f ∈ fields.map (inside key part), f.settled standard [.table es] = some (f.get s) := by
  rw [List.forall_mem_map]
  simp only [settled_inside]
  cases found : es.lookup key with
  | none =>
    have empty := (reads []).eq_some_iff (part s)
    rw [(reads []).of_empty silent] at empty
    refine empty.trans (forall₂_congr fun f member => ?_)
    rw [settled_one, silent f member]
    rfl
  | some v =>
    obtain ⟨inner, rfl⟩ := tables v found
    refine ((reads inner).eq_some_iff (part s)).trans (forall₂_congr fun f _ => ?_)
    rw [settled_one]
    rfl

theorem isSome_orElse
    (h : ∀ f ∈ fields.map (inside key part), (f.settled standard [.table es]).isSome) :
    (SettingValue.orElse (part standard) ofValue? (es.lookup key)).isSome := by
  rw [List.forall_mem_map] at h
  simp only [settled_inside] at h
  cases found : es.lookup key with
  | none => rfl
  | some v =>
    obtain ⟨inner, rfl⟩ := tables v found
    refine (reads inner).isSome fun f member => ?_
    have given := h f member
    rw [found] at given
    rw [settled_one]
    exact given

end Reading

end Field

namespace DiscoverySettings

def fields : List (Field DiscoverySettings) :=
  [⟨["bind"], _, SettingValue.address?, bind⟩, ⟨["broadcast"], _, SettingValue.address?, broadcast⟩,
    ⟨["probe_interval_secs"], _, SettingValue.natural? Decimal.largest64, probeIntervalSecs⟩,
    ⟨["stale_after_secs"], _, SettingValue.natural? Decimal.largest64, staleAfterSecs⟩,
    ⟨["event_capacity"], _, SettingValue.natural? Decimal.largest64, eventCapacity⟩]

theorem reads (es : SettingValue.Entries) : Field.Reads ofValue? standard fields es where
  eq_some_iff s := by
    simp only [fields, List.forall_mem_cons, Field.settled_name]
    simp only [ofValue?, SettingValue.fields?, fieldNames, List.map, Option.bind_eq_bind,
      Option.bind_some, Option.bind_eq_some_iff, Option.some.injEq]
    constructor
    · rintro ⟨a, ha, b, hb, c, hc, d, hd, e, he, rfl⟩
      exact ⟨ha, hb, hc, hd, he, by simp⟩
    · rintro ⟨ha, hb, hc, hd, he, -⟩
      exact ⟨_, ha, _, hb, _, hc, _, hd, _, he, rfl⟩
  isSome := by
    simp only [fields, List.forall_mem_cons, Field.settled_name, Option.isSome_iff_exists]
    rintro ⟨⟨a, ha⟩, ⟨b, hb⟩, ⟨c, hc⟩, ⟨d, hd⟩, ⟨e, he⟩, -⟩
    simp [ofValue?, SettingValue.fields?, fieldNames, ha, hb, hc, hd, he]

theorem silent : ∀ f ∈ fields, f.given? (.table []) = none := by
  simp [fields, Field.given?, SettingValue.given?, SettingValue.at?]

end DiscoverySettings

namespace ClientSettings

def fields : List (Field ClientSettings) :=
  [⟨["request_timeout_secs"], _, SettingValue.natural? Decimal.largest64, requestTimeoutSecs⟩]

theorem reads (es : SettingValue.Entries) : Field.Reads ofValue? standard fields es where
  eq_some_iff s := by
    simp only [fields, List.forall_mem_cons, Field.settled_name]
    simp only [ofValue?, SettingValue.fields?, fieldNames, List.map, Option.bind_eq_bind,
      Option.bind_some, Option.bind_eq_some_iff, Option.some.injEq]
    constructor
    · rintro ⟨a, ha, rfl⟩
      exact ⟨ha, by simp⟩
    · rintro ⟨ha, -⟩
      exact ⟨_, ha, rfl⟩
  isSome := by
    simp only [fields, List.forall_mem_cons, Field.settled_name, Option.isSome_iff_exists]
    rintro ⟨⟨a, ha⟩, -⟩
    simp [ofValue?, SettingValue.fields?, fieldNames, ha]

theorem silent : ∀ f ∈ fields, f.given? (.table []) = none := by
  simp [fields, Field.given?, SettingValue.given?, SettingValue.at?]

end ClientSettings

namespace TransferSettings

def fields : List (Field TransferSettings) :=
  [⟨["poll_interval_ms"], _, SettingValue.natural? Decimal.largest64, pollIntervalMs⟩,
    ⟨["temp_dir"], _, SettingValue.text?, tempDir⟩, ⟨["format"], _, SettingValue.text?, format⟩,
    ⟨["include_updates"], _, SettingValue.bool?, includeUpdates⟩,
    ⟨["include_dlc"], _, SettingValue.bool?, includeDlc⟩]

theorem reads (tempDir : String) (es : SettingValue.Entries) :
    Field.Reads (ofValue? tempDir) (standard tempDir) fields es where
  eq_some_iff s := by
    simp only [fields, List.forall_mem_cons, Field.settled_name]
    simp only [ofValue?, SettingValue.fields?, fieldNames, List.map, Option.bind_eq_bind,
      Option.bind_some, Option.bind_eq_some_iff, Option.some.injEq]
    constructor
    · rintro ⟨a, ha, b, hb, c, hc, d, hd, e, he, rfl⟩
      exact ⟨ha, hb, hc, hd, he, by simp⟩
    · rintro ⟨ha, hb, hc, hd, he, -⟩
      exact ⟨_, ha, _, hb, _, hc, _, hd, _, he, rfl⟩
  isSome := by
    simp only [fields, List.forall_mem_cons, Field.settled_name, Option.isSome_iff_exists]
    rintro ⟨⟨a, ha⟩, ⟨b, hb⟩, ⟨c, hc⟩, ⟨d, hd⟩, ⟨e, he⟩, -⟩
    simp [ofValue?, SettingValue.fields?, fieldNames, ha, hb, hc, hd, he]

theorem silent : ∀ f ∈ fields, f.given? (.table []) = none := by
  simp [fields, Field.given?, SettingValue.given?, SettingValue.at?]

end TransferSettings

namespace Settings

def sections : List String := ["discovery", "client", "transfer"]

def fields : List (Field Settings) :=
  [⟨["simulation"], _, SettingValue.bool?, simulation⟩, ⟨["verbose"], _, SettingValue.bool?, verbose⟩,
    ⟨["json_logs"], _, SettingValue.bool?, jsonLogs⟩] ++
  (DiscoverySettings.fields.map (.inside "discovery" discovery) ++
  (ClientSettings.fields.map (.inside "client" client) ++
  TransferSettings.fields.map (.inside "transfer" transfer)))

theorem reads (tempDir : String) {es : SettingValue.Entries}
    (tables : ∀ name ∈ sections, ∀ v ∈ es.lookup name, ∃ inner, v = .table inner) :
    Field.Reads (ofValue? tempDir) (standard tempDir) fields es where
  eq_some_iff s := by
    have discovery := Field.orElse_eq_some_iff (standard tempDir) discovery DiscoverySettings.reads
      (tables "discovery" (by decide)) DiscoverySettings.silent s
    have client := Field.orElse_eq_some_iff (standard tempDir) client ClientSettings.reads
      (tables "client" (by decide)) ClientSettings.silent s
    have transfer := Field.orElse_eq_some_iff (standard tempDir) transfer
      (TransferSettings.reads tempDir)
      (tables "transfer" (by decide)) TransferSettings.silent s
    simp only [fields, List.forall_mem_append, List.forall_mem_cons, Field.settled_name,
      ← discovery, ← client, ← transfer]
    simp only [ofValue?, SettingValue.fields?, fieldNames, List.map, Option.bind_eq_bind,
      Option.bind_some, Option.bind_eq_some_iff, Option.some.injEq]
    constructor
    · rintro ⟨a, ha, b, hb, c, hc, d, hd, e, he, f, hf, rfl⟩
      exact ⟨⟨ha, hb, hc, by simp⟩, hd, he, hf⟩
    · rintro ⟨⟨ha, hb, hc, -⟩, hd, he, hf⟩
      exact ⟨_, ha, _, hb, _, hc, _, hd, _, he, _, hf, rfl⟩
  isSome := by
    simp only [fields, List.forall_mem_append, List.forall_mem_cons, Field.settled_name,
      Option.isSome_iff_exists]
    rintro ⟨⟨⟨a, ha⟩, ⟨b, hb⟩, ⟨c, hc⟩, -⟩, discovery, client, transfer⟩
    simp only [← Option.isSome_iff_exists] at discovery client transfer
    obtain ⟨d, hd⟩ := Option.isSome_iff_exists.1 <| Field.isSome_orElse (standard tempDir) _
      DiscoverySettings.reads (tables "discovery" (by decide)) discovery
    obtain ⟨e, he⟩ := Option.isSome_iff_exists.1 <| Field.isSome_orElse (standard tempDir) _
      ClientSettings.reads (tables "client" (by decide)) client
    obtain ⟨f, hf⟩ := Option.isSome_iff_exists.1 <| Field.isSome_orElse (standard tempDir) _
      (TransferSettings.reads tempDir) (tables "transfer" (by decide)) transfer
    simp only [ofValue?, SettingValue.fields?, fieldNames, List.map, Option.bind_eq_bind,
      Option.bind_some, Option.bind_eq_some_iff]
    exact ⟨_, a, ha, b, hb, c, hc, d, hd, e, he, f, hf, rfl⟩

theorem read_table : ∀ f ∈ fields, ∀ es, f.read (.table es) = none := by
  simp [fields, DiscoverySettings.fields, ClientSettings.fields, TransferSettings.fields, Field.inside,
    SettingValue.bool?, SettingValue.text?, SettingValue.natural?, SettingValue.address?]

theorem given?_standard (tempDir : String) :
    ∀ f ∈ fields, f.given? (standard tempDir).toValue = some (some (f.get (standard tempDir))) := by
  let discovery := DiscoverySettings.standard
  have bind : SettingValue.address? (.text (toString discovery.bind)) = some discovery.bind := by
    decide +kernel
  have broadcast : SettingValue.address? (.text (toString discovery.broadcast)) =
      some discovery.broadcast := by decide +kernel
  simp only [fields, DiscoverySettings.fields, ClientSettings.fields, TransferSettings.fields,
    List.map, List.forall_mem_append, List.forall_mem_cons]
  exact ⟨⟨rfl, rfl, rfl, by simp⟩,
    ⟨congrArg some bind, congrArg some broadcast, rfl, rfl, rfl, by simp⟩,
    ⟨rfl, by simp⟩, rfl, rfl, rfl, rfl, rfl, by simp⟩

end Settings

end TitleDock
