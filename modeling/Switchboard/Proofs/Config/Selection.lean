import Switchboard.Config.Writer
import Switchboard.Proofs.Config.Setting
import Switchboard.Proofs.Toml.Document

/-!
# Selections of settings

A document with any of the settings, in any order and in sections that may also be empty. Written
and read back it sets just these. The document of all settings is one of them.
-/

namespace Switchboard.Config

open Toml (Value Setting Section)

/-- Those of some settings that a section holds. -/
def settingsIn (c : Config) (K : List SettingKey) (name : String) : List (String × Setting) :=
  (K.filter fun k => k.sectionName = name).filterMap fun k => (c.setting? k).map fun v => (k.key, v)

/-- Some settings in some sections. -/
def selection (c : Config) (K : List SettingKey) (names : List String) : List Section :=
  names.map fun name => ⟨name, c.settingsIn K name⟩

variable {c : Config} {K : List SettingKey} {names : List String}

theorem mem_settingsIn {name key : String} {v : Setting} :
    (key, v) ∈ c.settingsIn K name ↔
      ∃ k ∈ K, k.sectionName = name ∧ k.key = key ∧ c.setting? k = some v := by
  simp only [settingsIn, List.mem_filterMap, List.mem_filter, decide_eq_true_eq,
    Option.map_eq_some_iff, Prod.mk.injEq]
  constructor
  · rintro ⟨k, ⟨hk, hname⟩, v, hv, hkey, rfl⟩
    exact ⟨k, hk, hname, hkey, hv⟩
  · rintro ⟨k, hk, hname, hkey, hv⟩
    exact ⟨k, ⟨hk, hname⟩, v, hv, hkey, rfl⟩

/-- All settings are written as the selection of every key. -/
theorem sections_eq (c : Config) :
    c.sections = c.selection SettingKey.all ["general", "protocol", "network", "router"] := by
  rcases hlog : c.general.logFile with _ | path <;>
  rcases haddress : c.network.bindAddress with _ | address <;>
  simp [sections, selection, settingsIn, SettingKey.all, SettingKey.sectionName, SettingKey.key,
    setting?, hlog, haddress]

/-! ## What can be written -/

theorem setting?_fits (h : c.IsWritable) {k : SettingKey} {v : Setting}
    (hv : c.setting? k = some v) : v.Fits := by
  obtain ⟨hframe, htimeout, hworkers⟩ := h
  have hbound : wholeBound = Toml.largestWhole + 1 := by decide
  have hport : c.network.port.toNat < 65536 := c.network.port.toNat_lt_size
  have hlargest : Toml.largestWhole = 9223372036854775807 := rfl
  cases k
  case maxFrameSize =>
    cases hv
    show _ ≤ Toml.largestWhole
    omega
  case connectTimeout =>
    cases hv
    show _ ≤ Toml.largestWhole
    omega
  case workers =>
    cases hv
    show _ ≤ Toml.largestWhole
    omega
  case port =>
    cases hv
    show _ ≤ Toml.largestWhole
    omega
  case logFile =>
    obtain ⟨path, -, rfl⟩ := Option.map_eq_some_iff.mp hv
    trivial
  case bindAddress =>
    obtain ⟨address, -, rfl⟩ := Option.map_eq_some_iff.mp hv
    trivial
  all_goals
    cases hv
    trivial

theorem isBareKey_key (k : SettingKey) : Toml.IsBareKey k.key := by
  cases k <;> decide

theorem nodup_settingsIn (hK : K.Nodup) (name : String) :
    ((c.settingsIn K name).map Prod.fst).Nodup := by
  rw [List.Nodup, List.pairwise_map, settingsIn, List.pairwise_filterMap]
  apply (hK.filter _).imp
  intro k l hne v hv w hw heq
  obtain ⟨_, -, rfl⟩ := Option.map_eq_some_iff.mp hv
  obtain ⟨_, -, rfl⟩ := Option.map_eq_some_iff.mp hw
  exact hne (SettingKey.key_injective heq)

theorem selection_fits (h : c.IsWritable) (hK : K.Nodup)
    (hbare : ∀ name ∈ names, Toml.IsBareKey name) : ∀ s ∈ c.selection K names, s.Fits := by
  intro s hs
  obtain ⟨name, hname, rfl⟩ := List.mem_map.mp hs
  refine ⟨hbare name hname, ?_, nodup_settingsIn hK name⟩
  rintro ⟨key, v⟩ he
  obtain ⟨k, -, -, rfl, hv⟩ := mem_settingsIn.mp he
  exact ⟨isBareKey_key k, setting?_fits h hv⟩

/-! ## Reading a selection -/

theorem mem_entries_selection {name : String} {v : Value}
    (h : (name, v) ∈ (c.selection K names).map Section.entry) :
    name ∈ names ∧ v = .table ((c.settingsIn K name).map fun e => (e.1, e.2.value)) := by
  obtain ⟨s, hs, hentry⟩ := List.mem_map.mp h
  obtain ⟨name, hname, rfl⟩ := List.mem_map.mp hs
  cases hentry
  exact ⟨hname, rfl⟩

theorem sets_selection (names : List String) (hcover : ∀ k ∈ K, k.sectionName ∈ names) :
    c.Sets K ((c.selection K names).map Section.entry) := by
  constructor
  · intro k v hv
    exact ⟨_, (mem_entries_selection hv).2⟩
  · intro k hk v hv
    refine ⟨_, List.mem_map_of_mem (List.mem_map_of_mem (hcover k hk)), ?_⟩
    apply List.mem_map.mpr
    exact ⟨(k.key, v), mem_settingsIn.mpr ⟨k, hk, rfl, rfl, hv⟩, rfl⟩
  · intro k es v htable hv
    cases (mem_entries_selection htable).2
    obtain ⟨⟨key, s⟩, hs, heq⟩ := List.mem_map.mp hv
    cases heq
    obtain ⟨l, hl, -, hkey, hsetting⟩ := mem_settingsIn.mp hs
    obtain rfl := SettingKey.key_injective hkey
    exact ⟨hl, s, hsetting, rfl⟩

/-- A written selection is read as a document that sets just these settings. -/
theorem read?_selection (h : c.IsWritable) (hK : K.Nodup) (names : List String)
    (hnames : names.Nodup) (hbare : ∀ name ∈ names, Toml.IsBareKey name) (n : Nat) :
    Toml.read?
        (String.ofList (Toml.writeSections (c.selection K names) ++ List.replicate n '\n')) =
      some ((c.selection K names).map Section.entry) := by
  have hdistinct : ((c.selection K names).map Section.name).Nodup := by
    simpa [selection, Function.comp_def] using hnames
  exact Toml.read?_write (selection_fits h hK hbare) hdistinct n

end Switchboard.Config
