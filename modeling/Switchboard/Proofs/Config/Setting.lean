import Mathlib.Logic.Function.Basic
import Switchboard.Config.Basic
import Switchboard.Proofs.Toml.Scalar

/-!
# Settings by their keys

Every setting has a key in a section. Given some of them, the settings of a node are completed with
defaults; a document can set some of them and leave the others out, in sections that are there and
in sections that are not.
-/

namespace Switchboard

open Toml (Value Setting)

/-- The settings that a document can give. -/
inductive SettingKey
  | name
  | verbose
  | logFile
  | byteOrder
  | maxFrameSize
  | port
  | bindAddress
  | connectTimeout
  | workers
  deriving DecidableEq, Repr

namespace SettingKey

def sectionName : SettingKey → String
  | .name | .verbose | .logFile => "general"
  | .byteOrder | .maxFrameSize => "protocol"
  | .port | .bindAddress | .connectTimeout => "network"
  | .workers => "router"

def key : SettingKey → String
  | .name => "name"
  | .verbose => "verbose"
  | .logFile => "log_file"
  | .byteOrder => "byte_order"
  | .maxFrameSize => "max_frame_size"
  | .port => "port"
  | .bindAddress => "bind_address"
  | .connectTimeout => "connect_timeout_ms"
  | .workers => "workers"

/-- All of them, in the order in which they are written. -/
def all : List SettingKey :=
  [.name, .verbose, .logFile, .byteOrder, .maxFrameSize, .port, .bindAddress, .connectTimeout,
    .workers]

theorem mem_all (k : SettingKey) : k ∈ all := by
  cases k <;> decide

theorem key_injective : Function.Injective key := by
  intro k l h
  cases k <;> cases l <;> first | rfl | (revert h; decide)

end SettingKey

namespace Config

/-- The value of a setting; one that is off has none. -/
def setting? (c : Config) : SettingKey → Option Setting
  | .name => some (.text c.general.name)
  | .verbose => some (.boolean c.general.verbose)
  | .logFile => c.general.logFile.map .text
  | .byteOrder => some (.text c.protocol.byteOrder.name)
  | .maxFrameSize => some (.whole c.protocol.maxFrameSize.toNat)
  | .port => some (.whole c.network.port.toNat)
  | .bindAddress => c.network.bindAddress.map .text
  | .connectTimeout => some (.whole c.network.connectTimeoutMs.toNat)
  | .workers => some (.whole c.router.workers.toNat)

/-- The settings that have the values of `c` for some keys and their defaults for the others. -/
def completed (hostName : String) (c : Config) (K : List SettingKey) : Config :=
  let d := default hostName
  { general :=
      { name := if .name ∈ K then c.general.name else d.general.name
        verbose := if .verbose ∈ K then c.general.verbose else d.general.verbose
        logFile := if .logFile ∈ K then c.general.logFile else d.general.logFile }
    protocol :=
      { byteOrder := if .byteOrder ∈ K then c.protocol.byteOrder else d.protocol.byteOrder
        maxFrameSize :=
          if .maxFrameSize ∈ K then c.protocol.maxFrameSize else d.protocol.maxFrameSize }
    network :=
      { port := if .port ∈ K then c.network.port else d.network.port
        bindAddress := if .bindAddress ∈ K then c.network.bindAddress else d.network.bindAddress
        connectTimeoutMs :=
          if .connectTimeout ∈ K then c.network.connectTimeoutMs else d.network.connectTimeoutMs }
    router := { workers := if .workers ∈ K then c.router.workers else d.router.workers } }

theorem completed_nil (hostName : String) (c : Config) :
    completed hostName c [] = default hostName := by
  simp [completed]

/-- Nothing is left to the defaults when every key is given. -/
theorem completed_of_forall {hostName : String} {c : Config} {K : List SettingKey}
    (h : ∀ k, k ∈ K) : completed hostName c K = c := by
  simp [completed, h]

/-- Only the keys matter that have a value. -/
theorem completed_congr {hostName : String} {c : Config} {K L : List SettingKey}
    (h : ∀ k, (c.setting? k).isSome → (k ∈ K ↔ k ∈ L)) :
    completed hostName c K = completed hostName c L := by
  have hlog : (if SettingKey.logFile ∈ K then c.general.logFile else none) =
      if SettingKey.logFile ∈ L then c.general.logFile else none := by
    cases hoff : c.general.logFile with
    | none => simp
    | some path => rw [if_congr (h .logFile (by simp [setting?, hoff])) rfl rfl]
  have haddress : (if SettingKey.bindAddress ∈ K then c.network.bindAddress else none) =
      if SettingKey.bindAddress ∈ L then c.network.bindAddress else none := by
    cases hoff : c.network.bindAddress with
    | none => simp
    | some address => rw [if_congr (h .bindAddress (by simp [setting?, hoff])) rfl rfl]
  simp only [completed, default, hlog, haddress, h .name rfl, h .verbose rfl, h .byteOrder rfl,
    h .maxFrameSize rfl, h .port rfl, h .connectTimeout rfl, h .workers rfl]

/-- Whether a document sets some of the settings to the values that they have in `c`, and no others.
It may hold other things under other names. -/
structure Sets (c : Config) (K : List SettingKey) (entries : List (String × Value)) : Prop where
  tables : ∀ k : SettingKey, ∀ v, (k.sectionName, v) ∈ entries → ∃ es, v = .table es
  given : ∀ k ∈ K, ∀ s, c.setting? k = some s →
    ∃ es, (k.sectionName, .table es) ∈ entries ∧ (k.key, s.value) ∈ es
  only : ∀ (k : SettingKey) (es : List (String × Value)) (v : Value),
    (k.sectionName, .table es) ∈ entries → (k.key, v) ∈ es →
      k ∈ K ∧ ∃ s, c.setting? k = some s ∧ v = s.value

end Config

end Switchboard
