import Switchboard.Network.Client
import Switchboard.Proofs.Connection.Sending
import Switchboard.Proofs.Payload.Measured
import Switchboard.Proofs.Processor.Namesake
import Switchboard.Proofs.Processor.Passthrough

/-!
# Messages from client to client

Sending a message can fail in three places: its type is not registered, its contents cannot be
written, or its frame is too long. Wherever it fails, nothing is written and nothing is counted, and
the messages before and after it go out as if it had not been there. So a peer that has the same
types registered gets those messages that were sent, in order, and nothing else.
-/

namespace Switchboard

variable {P Q : Type}

namespace Client

open ProcessorBuilder Connection

/-! ## Sending messages -/

variable {b : ProcessorBuilder P} {done : List (ConfigStep P)}

/-- What the next so many calls give. -/
def receives (c : Client P) (s : Inbound) : Nat → List Arrival
  | 0 => []
  | n + 1 => (c.receive s).1 :: (c.receive s).2.1.receives (c.receive s).2.2 n

/-- How a message arrives. -/
structure Arrives (m : Message) (a : Arrival) : Prop where
  /-- Its format reads what it wrote. -/
  read : ∃ payload, m.schema.write m.value = .ok payload ∧
    a = match m.schema.read payload with
      | .ok v => .decoded (.message ⟨m.schema, v⟩)
      | .error e => .failed (.codec (.payload e))
  whole : m.schema.isFaithful = true → a = .decoded (.message m)

/-- Whether whatever is registered in one configuration is so in another, under the same identifiers
and without raw handlers. -/
structure Follows (done : List (ConfigStep P)) (peerDone : List (ConfigStep Q)) : Prop where
  registered : ∀ id s, .register id s ∈ done → .register id s ∈ peerDone
  unhandled : ∀ id p, .setRawHandler id p ∉ peerDone

end Client

namespace ProcessorBuilder

open Connection

end ProcessorBuilder

end Switchboard
