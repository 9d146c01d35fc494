import Switchboard.Network.Connection
import Switchboard.Processor

/-!
# Clients

A client sends and receives messages over a connection, with the help of a processor.
-/

namespace Switchboard

/-- The client side of a connection. -/
structure Client (P : Type) where
  processor : Processor P
  connection : Connection

/-- How receiving a message goes. -/
inductive Arrival
  | decoded (d : Decoded)
  | ended
  | failed (e : ConnectionError)
  | pending

namespace Client

variable {P : Type}

/-- A client with given settings. -/
def new (c : NetworkConfig) (p : Processor P) : Client P :=
  ⟨p, Connection.ofConfig c⟩

/-- Sends a message: the bytes to be written. -/
def send (c : Client P) (m : Message) : Except ConnectionError Bytes × Client P :=
  match c.processor.encode m with
  | .error e => (.error (.codec e), c)
  | .ok frame =>
    let (result, connection) := c.connection.send frame
    (result, { c with connection := connection })

/-- Receives a message. -/
def receive (c : Client P) (s : Inbound) : Arrival × Client P × Inbound :=
  let (result, connection, s) := c.connection.receive s
  let c := { c with connection := connection }
  match result with
  | .ended => (.ended, c, s)
  | .failed e => (.failed e, c, s)
  | .pending => (.pending, c, s)
  | .frame bs =>
    match c.processor.decode bs with
    | .ok d => (.decoded d, c, s)
    | .error e => (.failed (.codec e), c, s)

end Client

end Switchboard
