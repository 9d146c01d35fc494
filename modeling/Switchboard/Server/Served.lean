import Switchboard.Network.Connection
import Switchboard.Server.Responder

/-!
# Served connections

The server's side of a connection takes turns between receiving frames and writing replies, in
whatever order these become possible. It is over when the peer closes its side, when receiving or
writing fails, or when the server stops and aborts it. Handlers and routed jobs know the connection
by its mailbox only.
-/

namespace Switchboard

/-- Why a served connection is over. -/
inductive EndReason
  | closed
  | receiveFailed (e : ConnectionError)
  | sendFailed (e : ConnectionError)
  | aborted
  deriving DecidableEq, Repr

/-- How writing to the stream goes. -/
inductive Writing
  | complete
  /-- The stream fails after some bytes. -/
  | broken (count : Nat) (e : OsError)
  /-- The server stops after some bytes. -/
  | aborted (count : Nat)
  deriving DecidableEq, Repr

/-- A served connection. -/
structure Served (C : Type) where
  processor : Processor Responder
  /-- What comes with every routed message. -/
  context : C
  connection : Connection
  inbound : Inbound
  mailbox : Mailbox
  /-- All bytes that the peer was sent. -/
  written : Bytes
  /-- All that the router was given, oldest first. -/
  submissions : List (Submission C)
  /-- Replies that the mailbox took, oldest first. -/
  accepted : List Outbound
  ended : Option EndReason

namespace Served

variable {C : Type}

/-- A connection that has just been made. -/
def new (config : NetworkConfig) (router : Bool) (context : C) : Served C where
  processor := serverProcessor config.byteOrder router
  context := context
  connection := Connection.ofConfig config
  inbound := Inbound.empty
  mailbox := Mailbox.new
  written := []
  submissions := []
  accepted := []
  ended := none

/-- Ends a connection. One that ends by itself is noted as over for all that know its mailbox; one
that is aborted only stops taking replies. -/
def finish (s : Served C) (reason : EndReason) : Served C :=
  let mailbox := match reason with
    | .aborted => s.mailbox
    | _ => s.mailbox.disconnect
  { s with mailbox := mailbox.dropReceiver, ended := some reason }

/-- Decodes a frame and delivers it. A frame that cannot be is dropped. -/
def dispatch (s : Served C) (frame : Bytes) : Served C :=
  match s.processor.handle s.context frame s.mailbox with
  | .error _ => s
  | .ok (_, mailbox, submissions) =>
    { s with
      mailbox := mailbox
      submissions := s.submissions ++ submissions
      accepted := s.accepted ++ mailbox.queue.drop s.mailbox.queue.length }

/-- Receives as far as the stream allows: one frame, or the end, or all that has arrived. -/
def receive (s : Served C) : Served C :=
  let (result, connection, inbound) := s.connection.receive s.inbound
  let s := { s with connection := connection, inbound := inbound }
  match result with
  | .frame frame => s.dispatch frame
  | .ended => s.finish .closed
  | .failed e => s.finish (.receiveFailed e)
  | .pending => s

/-- Writes the oldest reply, if there is one. A reply that cannot be encoded is dropped. -/
def write? (s : Served C) (w : Writing) : Option (Served C) :=
  match s.mailbox.receive with
  | (none, _) => none
  | (some o, mailbox) =>
    let s := { s with mailbox := mailbox }
    match s.processor.encodeOutbound o with
    | .error _ => some s
    | .ok frame =>
      match s.connection.prepare frame with
      | (.error e, connection) => some ({ s with connection := connection }.finish (.sendFailed e))
      | (.ok bs, connection) =>
        let s := { s with connection := connection }
        match w with
        | .complete =>
          some { s with connection := connection.countSent, written := s.written ++ bs }
        | .broken count e =>
          some ({ s with written := s.written ++ bs.take count }.finish (.sendFailed (.io (.os e))))
        | .aborted count => some ({ s with written := s.written ++ bs.take count }.finish .aborted)

/-- A routed job replies. -/
def reply (s : Served C) (o : Outbound) : Except ConnectionError (Served C) := do
  return { s with mailbox := ← s.mailbox.send o, accepted := s.accepted ++ [o] }

/-- What can happen to a served connection. -/
inductive Move
  /-- A piece of the stream arrives. -/
  | arrive (piece : Bytes)
  /-- The peer closes its side. -/
  | close
  | receive
  | write (w : Writing)
  | abort
  /-- A routed job replies. -/
  | reply (o : Outbound)

/-- The connection after a move; none if the move is not possible. Nothing is received or written
once the connection is over. -/
def move? (s : Served C) : Move → Option (Served C)
  | .arrive piece =>
    if s.inbound.closed then none else some { s with inbound := s.inbound.arrive piece }
  | .close => some { s with inbound := s.inbound.close }
  | .receive => if s.ended.isSome then none else some s.receive
  | .write w => if s.ended.isSome then none else s.write? w
  | .abort => if s.ended.isSome then none else some (s.finish .aborted)
  | .reply o => (s.reply o).toOption

/-- The connection after several moves. -/
def run? (s : Served C) (moves : List Move) : Option (Served C) :=
  moves.foldlM move? s

end Served

end Switchboard
