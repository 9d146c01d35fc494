import Switchboard.Builtin
import Switchboard.Dispatcher

/-!
# The processor

A processor is configured first and used afterwards: configuration steps change a builder, one at
a time and only if they succeed; the finished processor encodes, decodes and routes and never
changes again.
-/

namespace Switchboard

/-- One step of configuration. -/
inductive ConfigStep (P : Type)
  | setByteOrder (order : ByteOrder)
  | register (id : MessageId) (schema : Schema)
  | setHandler (schema : Schema) (party : P)
  | setRouter (schema : Schema) (party : P)
  | setRawHandler (id : MessageId) (party : P)

/-- A processor that is still being configured. -/
structure ProcessorBuilder (P : Type) where
  registry : Registry P
  byteOrder : ByteOrder

namespace ProcessorBuilder

variable {P : Type}

/-- Nothing registered, the high byte first. -/
def new : ProcessorBuilder P :=
  ⟨Registry.empty, .big⟩

/-- Puts a changed registry into a builder. -/
def withRegistry (b : ProcessorBuilder P) (r : Registry P) : ProcessorBuilder P :=
  { b with registry := r }

/-- One step of configuration. -/
def step (b : ProcessorBuilder P) : ConfigStep P → Except RegistryError (ProcessorBuilder P)
  | .setByteOrder order => .ok { b with byteOrder := order }
  | .register id s => (b.registry.register id s).map b.withRegistry
  | .setHandler s p => (b.registry.setHandler s p).map b.withRegistry
  | .setRouter s p => (b.registry.setRouter s p).map b.withRegistry
  | .setRawHandler id p => (b.registry.setRawHandler id p).map b.withRegistry

/-- Steps one after the other; one that fails changes nothing. -/
def run (b : ProcessorBuilder P) (steps : List (ConfigStep P)) : ProcessorBuilder P :=
  steps.foldl (fun b s => (b.step s).toOption.getD b) b

/-- Steps up to the first that fails, and why it does. -/
def runUntilError (b : ProcessorBuilder P) :
    List (ConfigStep P) → ProcessorBuilder P × Option RegistryError
  | [] => (b, none)
  | s :: rest =>
    match b.step s with
    | .ok b => b.runUntilError rest
    | .error e => (b, some e)

/-- The steps that register the built-in messages. -/
def builtinSteps : List (ConfigStep P) :=
  Builtin.bindings.map fun b => .register b.1 b.2

/-- Registers the built-in messages. -/
def registerBuiltin (b : ProcessorBuilder P) : ProcessorBuilder P × Option RegistryError :=
  b.runUntilError builtinSteps

end ProcessorBuilder

/-- A finished processor. -/
structure Processor (P : Type) where
  registry : Registry P
  byteOrder : ByteOrder

/-- Ends the configuration. -/
def ProcessorBuilder.build {P : Type} (b : ProcessorBuilder P) : Processor P :=
  ⟨b.registry, b.byteOrder⟩

namespace Processor

variable {P C : Type}

def codec (p : Processor P) : Codec P :=
  ⟨p.registry, p.byteOrder⟩

def dispatcher (p : Processor P) : Dispatcher P :=
  ⟨p.registry⟩

/-- The frame of a message. -/
def encode (p : Processor P) (m : Message) : Except CodecError Frame :=
  p.codec.encode m

/-- The frame of an undecoded payload. -/
def encodeRaw (p : Processor P) (r : RawMessage) : Except CodecError Frame :=
  p.codec.encodeRaw r

/-- What a frame holds. -/
def decode (p : Processor P) (bs : Bytes) : Except CodecError Decoded :=
  p.codec.decode bs

/-- The calls that delivering a message makes. -/
def route (p : Processor P) (d : Decoded) (context : C) :
    Except DispatchError (List (Call P C)) :=
  p.dispatcher.route d context

/-- The description of a processor. -/
def describe (p : Processor P) (l : Text.Layout) : String :=
  l.record "Processor"
    [("registry", p.registry.describe), ("byte_order", Text.leaf p.byteOrder.describe)]

end Processor

end Switchboard
