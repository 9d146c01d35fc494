import Mathlib.Data.List.Nodup
import Switchboard.Config.File
import Switchboard.Proofs.Config.Selection
import Switchboard.Proofs.Host.FileTree
import Switchboard.Proofs.Toml.Table

/-!
# Settings are completed with defaults

A section is read setting by setting: whatever the order, the settings read so far have their values
and the others their defaults. The same holds of the sections of a document. Only the name of the
node cannot be left out of a section that is there.
-/

namespace Switchboard

open Toml (Value Setting Section)

/-! ## Kinds of settings -/

theorem Reading.number_whole {bound n : Nat} (h : n < bound) (expected : String) :
    Reading.number bound expected (.whole n) = .ok n := by
  have hrange : 0 ≤ (n : Int) ∧ (n : Int) < (bound : Int) := by omega
  simp [Reading.number, hrange]

theorem Reading.order_name (o : ByteOrder) : Reading.order (.text o.name) = .ok o := by
  cases o <;> rfl

/-! ## Sections -/

/-- Under distinct keys there is one value for each. -/
theorem eq_of_nodup_keys {entries : List (String × Value)} (h : (entries.map Prod.fst).Nodup)
    {key : String} {v w : Value} (hv : (key, v) ∈ entries) (hw : (key, w) ∈ entries) : v = w :=
  congrArg Prod.snd (List.inj_on_of_nodup_map h hv hw rfl)

/-- That each reading of a section is for one of its settings and takes over its value. What the
settings hold of the section is their `part`. -/
structure ReadsSettings {S : Type} (r : SectionReading S) (name hostName : String)
    (part : Config → S) : Prop where
  start : r.start = part (Config.default hostName)
  known : ∀ x ∈ r.readings, ∃ k : SettingKey, k.sectionName = name ∧ k.key = x.key
  takes : ∀ (c : Config) (k : SettingKey) (s : Setting), k.sectionName = name →
    c.setting? k = some s → ∃ x, (r.readings.find? fun x => x.key = k.key) = some x ∧
      ∀ K, x.read s.value (part (c.completed hostName K)) =
        .ok (part (c.completed hostName (k :: K)))
  part_filter : ∀ (c : Config) (K : List SettingKey),
    part (c.completed hostName (K.filter fun k => k.sectionName = name)) =
      part (c.completed hostName K)

theorem GeneralConfig.readsSettings (hostName : String) :
    ReadsSettings (reading hostName) "general" hostName Config.general := by
  constructor
  · rfl
  · simp only [reading, List.forall_mem_cons]
    exact ⟨⟨.name, rfl, rfl⟩, ⟨.verbose, rfl, rfl⟩, ⟨.logFile, rfl, rfl⟩, by simp⟩
  · intro c k s hk hs
    cases k <;> simp [SettingKey.sectionName] at hk
    case name =>
      cases hs
      simp [reading, SettingKey.key, Setting.value, Reading.text, Config.completed]
    case verbose =>
      cases hs
      simp [reading, SettingKey.key, Setting.value, Reading.flag, Config.completed]
    case logFile =>
      obtain ⟨path, hpath, rfl⟩ := Option.map_eq_some_iff.mp hs
      simp [reading, SettingKey.key, Setting.value, Reading.text, Config.completed, hpath]
  · intro c K
    simp [Config.completed, SettingKey.sectionName]

theorem ProtocolConfig.readsSettings (hostName : String) :
    ReadsSettings reading "protocol" hostName Config.protocol := by
  constructor
  · rfl
  · simp only [reading, List.forall_mem_cons]
    exact ⟨⟨.byteOrder, rfl, rfl⟩, ⟨.maxFrameSize, rfl, rfl⟩, by simp⟩
  · intro c k s hk hs
    cases k <;> simp [SettingKey.sectionName] at hk
    case byteOrder =>
      cases hs
      simp [reading, SettingKey.key, Setting.value, Reading.order_name, Config.completed]
    case maxFrameSize =>
      cases hs
      have hread := Reading.number_whole c.protocol.maxFrameSize.toNat_lt_size "usize"
      simp [reading, SettingKey.key, Setting.value, hread, Config.completed]
  · intro c K
    simp [Config.completed, SettingKey.sectionName]

theorem ListenConfig.readsSettings (hostName : String) :
    ReadsSettings reading "network" hostName Config.network := by
  constructor
  · rfl
  · simp only [reading, List.forall_mem_cons]
    exact ⟨⟨.port, rfl, rfl⟩, ⟨.bindAddress, rfl, rfl⟩, ⟨.connectTimeout, rfl, rfl⟩, by simp⟩
  · intro c k s hk hs
    cases k <;> simp [SettingKey.sectionName] at hk
    case port =>
      cases hs
      have hread := Reading.number_whole c.network.port.toNat_lt_size "u16"
      simp [reading, SettingKey.key, Setting.value, hread, Config.completed]
    case bindAddress =>
      obtain ⟨address, haddress, rfl⟩ := Option.map_eq_some_iff.mp hs
      simp [reading, SettingKey.key, Setting.value, Reading.text, Config.completed, haddress]
    case connectTimeout =>
      cases hs
      have hread := Reading.number_whole c.network.connectTimeoutMs.toNat_lt_size "u64"
      simp [reading, SettingKey.key, Setting.value, hread, Config.completed]
  · intro c K
    simp [Config.completed, SettingKey.sectionName]

theorem RouterConfig.readsSettings (hostName : String) :
    ReadsSettings reading "router" hostName Config.router := by
  constructor
  · rfl
  · simp only [reading, List.forall_mem_cons]
    exact ⟨⟨.workers, rfl, rfl⟩, by simp⟩
  · intro c k s hk hs
    cases k <;> simp [SettingKey.sectionName] at hk
    case workers =>
      cases hs
      have hread := Reading.number_whole c.router.workers.toNat_lt_size "usize"
      simp [reading, SettingKey.key, Setting.value, hread, Config.completed]
  · intro c K
    simp [Config.completed, SettingKey.sectionName]

namespace ReadsSettings

variable {S : Type} {r : SectionReading S} {name hostName : String} {part : Config → S}
  {c : Config} {es : List (String × Value)}

/-- Whatever has been read, the entries of a table add their settings to it. -/
theorem readEntries (hr : ReadsSettings r name hostName part)
    (hes : ∀ (k : SettingKey) (v : Value), k.sectionName = name → (k.key, v) ∈ es →
      ∃ s, c.setting? k = some s ∧ v = s.value) (K : List SettingKey) :
    ∃ L, r.readEntries es (part (c.completed hostName K)) = .ok (part (c.completed hostName L)) ∧
      ∀ k : SettingKey, k.sectionName = name → (k ∈ L ↔ k ∈ K ∨ k.key ∈ es.map Prod.fst) := by
  induction es generalizing K with
  | nil => exact ⟨K, rfl, by simp⟩
  | cons e es ih =>
    obtain ⟨key, v⟩ := e
    have hrest := ih fun k v hk hv => hes k v hk (List.mem_cons_of_mem _ hv)
    rw [SectionReading.readEntries]
    cases hfind : r.readings.find? fun x => x.key = key with
    | none =>
      -- a key that no setting of the section has
      obtain ⟨L, hread, hL⟩ := hrest K
      refine ⟨L, hread, ?_⟩
      intro k hk
      have hne : k.key ≠ key := by
        rintro rfl
        obtain ⟨s, hs, -⟩ := hes k v hk List.mem_cons_self
        obtain ⟨x, hx, -⟩ := hr.takes c k s hk hs
        rw [hfind] at hx
        cases hx
      simp [hL k hk, hne]
    | some x =>
      have hx := List.mem_of_find?_eq_some hfind
      have hkey : x.key = key := by simpa using List.find?_some hfind
      obtain ⟨k, hk, hkx⟩ := hr.known x hx
      obtain rfl : k.key = key := hkx.trans hkey
      obtain ⟨s, hs, rfl⟩ := hes k v hk List.mem_cons_self
      obtain ⟨y, hy, htake⟩ := hr.takes c k s hk hs
      obtain rfl : x = y := Option.some.inj (hfind.symm.trans hy)
      obtain ⟨L, hread, hL⟩ := hrest (k :: K)
      refine ⟨L, ?_, ?_⟩
      · simp only [htake K, bind, Except.bind]
        exact hread
      · intro l hl
        have hsame : l = k ↔ l.key = k.key := ⟨congrArg _, fun h => SettingKey.key_injective h⟩
        rw [hL l hl, List.mem_cons, List.map_cons, List.mem_cons, hsame]
        constructor
        · rintro ((hkey | hK) | hrest)
          · exact .inr (.inl hkey)
          · exact .inl hK
          · exact .inr (.inr hrest)
        · rintro (hK | hkey | hrest)
          · exact .inl (.inr hK)
          · exact .inl (.inl hkey)
          · exact .inr hrest

/-- What a section holds depends on its own settings alone. -/
theorem part_congr (hr : ReadsSettings r name hostName part) {K L : List SettingKey}
    (h : ∀ k : SettingKey, k.sectionName = name → (c.setting? k).isSome → (k ∈ K ↔ k ∈ L)) :
    part (c.completed hostName K) = part (c.completed hostName L) := by
  rw [← hr.part_filter c K, ← hr.part_filter c L]
  congr 1
  apply Config.completed_congr
  intro k hk
  simp only [List.mem_filter, decide_eq_true_eq]
  constructor
  · rintro ⟨hK, hname⟩
    exact ⟨(h k hname hk).mp hK, hname⟩
  · rintro ⟨hL, hname⟩
    exact ⟨(h k hname hk).mpr hL, hname⟩

/-- Once a section is among those that are read, all its settings count. -/
theorem part_filter_self (hr : ReadsSettings r name hostName part) (K : List SettingKey)
    (done : List String) :
    part (c.completed hostName K) =
      part (c.completed hostName (K.filter fun k => k.sectionName ∈ name :: done)) := by
  apply hr.part_congr
  rintro k hk -
  simp [hk]

/-- Another section leaves a section as it is. -/
theorem part_filter_other (hr : ReadsSettings r name hostName part) (other : String)
    (hother : name ≠ other) (K : List SettingKey) (done : List String) :
    part (c.completed hostName (K.filter fun k => k.sectionName ∈ done)) =
      part (c.completed hostName (K.filter fun k => k.sectionName ∈ other :: done)) := by
  apply hr.part_congr
  rintro k hk -
  simp [hk, hother]

/-- The table of a section gives the settings that its document sets. -/
theorem readEntries_of_sets (hr : ReadsSettings r name hostName part) {K : List SettingKey}
    {entries : List (String × Value)} (hsets : c.Sets K entries)
    (hdistinct : (entries.map Prod.fst).Nodup) (htable : (name, .table es) ∈ entries) :
    r.readEntries es r.start = .ok (part (c.completed hostName K)) := by
  have hes : ∀ (k : SettingKey) (v : Value), k.sectionName = name → (k.key, v) ∈ es →
      ∃ s, c.setting? k = some s ∧ v = s.value :=
    fun k v hk hv => (hsets.only k es v (hk ▸ htable) hv).2
  obtain ⟨L, hread, hL⟩ := hr.readEntries hes []
  rw [hr.start, ← Config.completed_nil hostName c, hread]
  congr 1
  apply hr.part_congr
  intro k hk hsome
  rw [hL k hk]
  constructor
  · rintro (hnil | hkey)
    · cases hnil
    · obtain ⟨⟨key, v⟩, hv, rfl⟩ := List.mem_map.mp hkey
      exact (hsets.only k es v (hk ▸ htable) hv).1
  · intro hK
    right
    obtain ⟨s, hs⟩ := Option.isSome_iff_exists.mp hsome
    obtain ⟨es', htable', hv⟩ := hsets.given k hK s hs
    have hsame := eq_of_nodup_keys hdistinct (hk ▸ htable') htable
    cases hsame
    exact List.mem_map_of_mem hv

end ReadsSettings

/-- A table with everything that is required is read like its entries. -/
theorem SectionReading.readTable_of_readEntries {S : Type} {r : SectionReading S} {s : S}
    {es : List (String × Value)} (h : r.readEntries es r.start = .ok s)
    (hrequired : ∀ x ∈ r.readings, x.required = true → x.key ∈ es.map Prod.fst) :
    r.readTable es = .ok s := by
  have hfind : (r.readings.find? fun x => x.required && (es.lookup x.key).isNone) = none := by
    rw [List.find?_eq_none]
    intro x hx hmissing
    rw [Bool.and_eq_true, Option.isNone_iff_eq_none, Toml.lookup_eq_none_iff] at hmissing
    exact hmissing.2 (hrequired x hx hmissing.1)
  rw [readTable, h]
  simp only [bind, Except.bind, hfind]
  rfl

/-! ## Documents -/

namespace Config

variable {c : Config} {K : List SettingKey} {entries : List (String × Value)} {hostName : String}

/-- The name is given where a section that is there gives it. -/
theorem Sets.name_mem_iff (hsets : c.Sets K entries) (hdistinct : (entries.map Prod.fst).Nodup)
    {es : List (String × Value)} (htable : ("general", .table es) ∈ entries) :
    "name" ∈ es.map Prod.fst ↔ .name ∈ K := by
  constructor
  · intro hkey
    obtain ⟨⟨key, v⟩, hv, rfl⟩ := List.mem_map.mp hkey
    exact (hsets.only .name es v htable hv).1
  · intro hK
    obtain ⟨es', htable', hv⟩ := hsets.given .name hK _ rfl
    cases eq_of_nodup_keys hdistinct htable' htable
    exact List.mem_map_of_mem hv

/-- The sections that are read are those of the settings. -/
theorem exists_key_of_reading {x : Reading Config} (hx : x ∈ (reading hostName).readings) :
    ∃ k : SettingKey, k.sectionName = x.key := by
  simp only [reading, List.mem_cons, List.not_mem_nil, or_false] at hx
  rcases hx with rfl | rfl | rfl | rfl
  · exact ⟨.name, rfl⟩
  · exact ⟨.byteOrder, rfl⟩
  · exact ⟨.port, rfl⟩
  · exact ⟨.workers, rfl⟩

theorem exists_reading (hostName : String) (k : SettingKey) :
    ∃ x ∈ (reading hostName).readings, x.key = k.sectionName := by
  cases k <;> simp [reading, SettingKey.sectionName]

/-- A section is added to those that were read before. -/
theorem Sets.read_section (hsets : c.Sets K entries) (hdistinct : (entries.map Prod.fst).Nodup)
    {x : Reading Config} (hx : x ∈ (reading hostName).readings) {es : List (String × Value)}
    (htable : (x.key, .table es) ∈ entries) (hname : x.key = "general" → .name ∈ K)
    (done : List String) :
    x.read (.table es) (c.completed hostName (K.filter fun k => k.sectionName ∈ done)) =
      .ok (c.completed hostName (K.filter fun k => k.sectionName ∈ x.key :: done)) := by
  have general := GeneralConfig.readsSettings hostName
  have protocol := ProtocolConfig.readsSettings hostName
  have network := ListenConfig.readsSettings hostName
  have router := RouterConfig.readsSettings hostName
  simp only [reading, List.mem_cons, List.not_mem_nil, or_false] at hx
  rcases hx with rfl | rfl | rfl | rfl
  · have hread := general.readEntries_of_sets hsets hdistinct htable
    have htable := SectionReading.readTable_of_readEntries hread (by
      simpa [GeneralConfig.reading] using (hsets.name_mem_iff hdistinct htable).mpr (hname rfl))
    simp only [SectionReading.read, htable, bind, Except.bind]
    rw [general.part_filter_self K done,
      protocol.part_filter_other "general" (by decide) K done,
      network.part_filter_other "general" (by decide) K done,
      router.part_filter_other "general" (by decide) K done]
    rfl
  · have hread := protocol.readEntries_of_sets hsets hdistinct htable
    have htable := SectionReading.readTable_of_readEntries hread (by simp [ProtocolConfig.reading])
    simp only [SectionReading.read, htable, bind, Except.bind]
    rw [protocol.part_filter_self K done,
      general.part_filter_other "protocol" (by decide) K done,
      network.part_filter_other "protocol" (by decide) K done,
      router.part_filter_other "protocol" (by decide) K done]
    rfl
  · have hread := network.readEntries_of_sets hsets hdistinct htable
    have htable := SectionReading.readTable_of_readEntries hread (by simp [ListenConfig.reading])
    simp only [SectionReading.read, htable, bind, Except.bind]
    rw [network.part_filter_self K done,
      general.part_filter_other "network" (by decide) K done,
      protocol.part_filter_other "network" (by decide) K done,
      router.part_filter_other "network" (by decide) K done]
    rfl
  · have hread := router.readEntries_of_sets hsets hdistinct htable
    have htable := SectionReading.readTable_of_readEntries hread (by simp [RouterConfig.reading])
    simp only [SectionReading.read, htable, bind, Except.bind]
    rw [router.part_filter_self K done,
      general.part_filter_other "router" (by decide) K done,
      protocol.part_filter_other "router" (by decide) K done,
      network.part_filter_other "router" (by decide) K done]
    rfl

/-- The error about a section of the node without its name. -/
def unnamed : SettingError :=
  .mismatch (.missingField "name")

theorem Sets.read_unnamed (hsets : c.Sets K entries) (hdistinct : (entries.map Prod.fst).Nodup)
    {x : Reading Config} (hx : x ∈ (reading hostName).readings) (hgeneral : x.key = "general")
    {es : List (String × Value)} (htable : (x.key, .table es) ∈ entries) (hname : .name ∉ K)
    (before : Config) : x.read (.table es) before = .error unnamed := by
  have hread := (GeneralConfig.readsSettings hostName).readEntries_of_sets hsets hdistinct
    (hgeneral ▸ htable)
  have hmissing : es.lookup "name" = none := by
    rw [Toml.lookup_eq_none_iff, hsets.name_mem_iff hdistinct (hgeneral ▸ htable)]
    exact hname
  have herror : (GeneralConfig.reading hostName).read (.table es) = .error unnamed := by
    rw [SectionReading.read, SectionReading.readTable, hread]
    simp [GeneralConfig.reading, hmissing, unnamed, bind, Except.bind]
  simp only [reading, List.mem_cons, List.not_mem_nil, or_false] at hx
  rcases hx with rfl | rfl | rfl | rfl
  · simp [herror, bind, Except.bind]
  all_goals exact absurd hgeneral (by decide)

/-- Reading the sections one after the other adds their settings, and stops at a section of the node
without its name. -/
theorem Sets.readEntries (hsets : c.Sets K entries) (hdistinct : (entries.map Prod.fst).Nodup)
    (hostName : String) {rest : List (String × Value)} (hrest : rest ⊆ entries)
    (done : List String) :
    (reading hostName).readEntries rest
        (c.completed hostName (K.filter fun k => k.sectionName ∈ done)) =
      if "general" ∈ rest.map Prod.fst ∧ .name ∉ K then .error unnamed
      else .ok (c.completed hostName
        (K.filter fun k => k.sectionName ∈ rest.map Prod.fst ∨ k.sectionName ∈ done)) := by
  induction rest generalizing done with
  | nil => simp [SectionReading.readEntries]
  | cons e rest ih =>
    obtain ⟨name, v⟩ := e
    obtain ⟨hmem, hrest'⟩ := List.cons_subset.mp hrest
    rw [SectionReading.readEntries]
    cases hfind : (reading hostName).readings.find? fun x => x.key = name with
    | none =>
      -- a section that holds no settings
      have hother : ∀ k : SettingKey, k.sectionName ≠ name := by
        intro k hk
        obtain ⟨x, hx, hkey⟩ := exists_reading hostName k
        exact absurd (hkey.trans hk) (by simpa using List.find?_eq_none.mp hfind x hx)
      have hgeneral : "general" ≠ name := hother .name
      simp only [ih hrest' done, List.map_cons, List.mem_cons, hother, hgeneral, false_or]
    | some x =>
      have hx := List.mem_of_find?_eq_some hfind
      obtain rfl : x.key = name := by simpa using List.find?_some hfind
      obtain ⟨k, hk⟩ := exists_key_of_reading hx
      obtain ⟨es, rfl⟩ := hsets.tables k v (hk ▸ hmem)
      by_cases hunnamed : x.key = "general" ∧ .name ∉ K
      · have hread := hsets.read_unnamed hdistinct hx hunnamed.1 hmem hunnamed.2
        simp [hread, hunnamed, bind, Except.bind]
      · have hname : x.key = "general" → .name ∈ K := by
          intro hgeneral
          by_contra hK
          exact hunnamed ⟨hgeneral, hK⟩
        have hread := hsets.read_section hdistinct hx hmem hname done
        have hcause : "general" ∈ x.key :: rest.map Prod.fst ∧ .name ∉ K ↔
            "general" ∈ rest.map Prod.fst ∧ .name ∉ K := by
          rw [List.mem_cons]
          constructor
          · rintro ⟨hgeneral | hgeneral, hK⟩
            · exact absurd (hname hgeneral.symm) hK
            · exact ⟨hgeneral, hK⟩
          · rintro ⟨hgeneral, hK⟩
            exact ⟨.inr hgeneral, hK⟩
        have hwhich : (K.filter fun k => k.sectionName ∈ x.key :: rest.map Prod.fst ∨
            k.sectionName ∈ done) = K.filter fun k => k.sectionName ∈ rest.map Prod.fst ∨
            k.sectionName ∈ x.key :: done := by
          congr 1
          ext k
          simp only [List.mem_cons, decide_eq_decide]
          rw [or_assoc, or_left_comm]
        simp only [hread, bind, Except.bind, ih hrest', List.map_cons, hcause, hwhich]

/-- A document that sets some settings is read as these and the defaults of the others, unless it has
a section of the node without its name. -/
theorem parse_of_sets {text : String} (hread : Toml.read? text = some entries)
    (hsets : c.Sets K entries) :
    parse hostName text =
      if "general" ∈ entries.map Prod.fst ∧ .name ∉ K then .error (.setting unnamed)
      else .ok (c.completed hostName K) := by
  have hdistinct := Toml.nodup_of_read? hread
  have hentries := hsets.readEntries hdistinct hostName (List.Subset.refl entries) []
  have hstart : c.completed hostName (K.filter fun k => k.sectionName ∈ []) =
      (reading hostName).start := by
    simp [completed_nil, reading]
  rw [hstart] at hentries
  rw [parse, hread]
  dsimp only
  split
  · next hunnamed =>
    rw [if_pos hunnamed] at hentries
    rw [SectionReading.readTable, hentries]
    rfl
  · next hnamed =>
    rw [if_neg hnamed] at hentries
    rw [SectionReading.readTable_of_readEntries hentries (by simp [reading])]
    -- every section with one of the settings is in the document
    have hall : c.completed hostName
        (K.filter fun k => k.sectionName ∈ entries.map Prod.fst ∨ k.sectionName ∈ []) =
          c.completed hostName K := by
      apply completed_congr
      intro k hk
      simp only [List.mem_filter, List.not_mem_nil, or_false, decide_eq_true_eq,
        and_iff_left_iff_imp]
      intro hK
      obtain ⟨s, hs⟩ := Option.isSome_iff_exists.mp hk
      obtain ⟨es, htable, -⟩ := hsets.given k hK s hs
      exact List.mem_map_of_mem htable
    rw [hall]
    rfl

/-! ## Files -/

theorem load_of_readText {h : Host} {path text : String}
    (htext : h.files.readText (FilePath.ofString path) = .ok text) :
    load h path = (parse h.name text).mapError .parse := by
  simp [load, FileTree.isPresent_of_readText htext, htext, Except.mapError, bind, Except.bind]

/-- Settings that a file leaves out have their defaults. The name of the node can be left out only
together with its section. -/
theorem load_of_sets {h : Host} {path text : String}
    (htext : h.files.readText (FilePath.ofString path) = .ok text)
    (hread : Toml.read? text = some entries) (hsets : c.Sets K entries) :
    load h path =
      if "general" ∈ entries.map Prod.fst ∧ .name ∉ K then
        .error (.parse (.setting (.mismatch (.missingField "name"))))
      else .ok (c.completed h.name K) := by
  rw [load_of_readText htext, parse_of_sets hread hsets]
  split <;> rfl

/-- A host with one settings file. -/
def hostWithFile (text : String) : Host :=
  Host.offline "lobby" ⟨[(["c.toml"], .file (Utf8.ofString text))]⟩ none

theorem ofString_settingsFile : FilePath.ofString "c.toml" = ⟨false, ["c.toml"], false⟩ := by
  decide +kernel

theorem locate_settingsFile (t : FileTree) :
    t.locate ⟨false, ["c.toml"], false⟩ = .ok ["c.toml"] := by
  have hsize : (⟨false, ["c.toml"], false⟩ : FilePath).size = 6 := rfl
  have hname : "c.toml".utf8ByteSize = 6 := rfl
  simp [FileTree.locate, hsize, hname, FilePath.isEmpty, FileTree.pathLimit, FileTree.nameLimit,
    FileTree.walk, FileTree.get?, Place.working, Except.mapError]

theorem readText_hostWithFile (text : String) :
    (hostWithFile text).files.readText (FilePath.ofString "c.toml") = .ok text := by
  rw [ofString_settingsFile]
  apply FileTree.readText_of_find
  simp [FileTree.find, locate_settingsFile, hostWithFile, Host.offline, FileTree.get?,
    Place.working, Place.outermost, bind, Except.bind, pure, Except.pure]

theorem load_of_orderAlone :
    load (hostWithFile (String.ofList
        (Toml.writeSections (sample.selection [.byteOrder] ["protocol"])))) "c.toml" =
      .ok (sample.completed "lobby" [.byteOrder]) := by
  have hread := read?_selection (c := sample) (K := [.byteOrder]) (by decide) (by decide)
    ["protocol"] (by decide) (by decide) 0
  rw [List.replicate_zero, List.append_nil] at hread
  exact load_of_sets (readText_hostWithFile _) hread (sets_selection _ (by decide))

/-- Settings of a node that logs more than usual. -/
def talkative : Config :=
  { sample with general := { sample.general with verbose := true } }

/-- A file that sets nothing but this is refused. -/
theorem verboseAlone_refused :
    (∃ entries, Toml.read? "[general]\nverbose = true\n" = some entries ∧
        talkative.Sets [.verbose] entries) ∧
      load (hostWithFile "[general]\nverbose = true\n") "c.toml" =
        .error (.parse (.setting (.mismatch (.missingField "name")))) := by
  have hread := read?_selection (c := talkative) (K := [.verbose]) (by decide) (by decide)
    ["general"] (by decide) (by decide) 0
  have htext : String.ofList (Toml.writeSections (talkative.selection [.verbose] ["general"]) ++
      List.replicate 0 '\n') = "[general]\nverbose = true\n" := by decide
  have hsets : talkative.Sets [.verbose] _ := sets_selection ["general"] (by decide)
  rw [htext] at hread
  refine ⟨⟨_, hread, hsets⟩, ?_⟩
  rw [load_of_readText (readText_hostWithFile _), parse_of_sets hread hsets, if_pos (by decide)]
  rfl

end Config

end Switchboard
