import Switchboard.Config.Basic
import Switchboard.Toml.Writer

/-!
# Settings as a document

All settings are written, those without a value left out. A document holds whole numbers below
half of what 64 bits have room for; settings with a larger one cannot be written.
-/

namespace Switchboard.Config

open Toml (Setting Section)

/-- The whole numbers that a document can hold lie below this. -/
def wholeBound : Nat :=
  UInt64.size / 2

/-- The sections of the document. -/
def sections (c : Config) : List Section :=
  [⟨"general",
      [("name", .text c.general.name), ("verbose", .boolean c.general.verbose)]
        ++ (c.general.logFile.map fun f => ("log_file", Setting.text f)).toList⟩,
    ⟨"protocol",
      [("byte_order", .text c.protocol.byteOrder.name),
        ("max_frame_size", .whole c.protocol.maxFrameSize.toNat)]⟩,
    ⟨"network",
      [("port", .whole c.network.port.toNat)]
        ++ (c.network.bindAddress.map fun a => ("bind_address", Setting.text a)).toList
        ++ [("connect_timeout_ms", .whole c.network.connectTimeoutMs.toNat)]⟩,
    ⟨"router", [("workers", .whole c.router.workers.toNat)]⟩]

/-- Whether every number fits into a document. -/
def IsWritable (c : Config) : Prop :=
  c.protocol.maxFrameSize.toNat < wholeBound ∧ c.network.connectTimeoutMs.toNat < wholeBound ∧
    c.router.workers.toNat < wholeBound

instance (c : Config) : Decidable c.IsWritable :=
  inferInstanceAs (Decidable (_ ∧ _))

/-- The document, if the settings can be written. -/
def text? (c : Config) : Option String :=
  if c.IsWritable then some (Toml.write c.sections) else none

end Switchboard.Config
