import Switchboard.Ping.Pinger
import Switchboard.Server.Served

/-!
# A pinger and its server

The two sides of a connection. What one side writes arrives at the other in pieces of any size, at
any time and in order; both sides go on whenever they can.
-/

namespace Switchboard

/-- A pinger with the server's side of its connection. -/
structure Exchange where
  pinger : Pinger
  served : Served Unit
  /-- How many bytes have arrived at the server. -/
  atServer : Nat
  /-- How many bytes have arrived at the pinger. -/
  atPinger : Nat

namespace Exchange

/-- Both sides of a new connection. The server's settings are its own. -/
def new (client server : NetworkConfig) (router : Bool) (request : PingRequest)
    (clock : Nat → UInt64) : Exchange where
  pinger := Pinger.new client request clock
  served := Served.new server router ()
  atServer := 0
  atPinger := 0

/-- What happens next. -/
inductive Move
  /-- A piece of what the pinger wrote arrives. -/
  | arriveAtServer (length : Nat)
  /-- A piece of what the server wrote arrives. -/
  | arriveAtPinger (length : Nat)
  | pinger
  | serverReceives
  | serverWrites
  deriving DecidableEq, Repr

/-- The piece of given length of what was written and has not arrived; none if it is empty. -/
def piece? (written : Bytes) (arrived length : Nat) : Option Bytes :=
  let piece := (written.drop arrived).take length
  if piece.isEmpty then none else some piece

/-- Both sides after a move; none if the move is not possible. -/
def move? (x : Exchange) : Move → Option Exchange
  | .arriveAtServer length => do
    let piece ← piece? x.pinger.written x.atServer length
    return { x with
      served := ← x.served.move? (.arrive piece)
      atServer := x.atServer + piece.length }
  | .arriveAtPinger length => do
    let piece ← piece? x.served.written x.atPinger length
    return { x with
      pinger := { x.pinger with inbound := x.pinger.inbound.arrive piece }
      atPinger := x.atPinger + piece.length }
  | .pinger => do return { x with pinger := ← x.pinger.step? }
  | .serverReceives => do return { x with served := ← x.served.move? .receive }
  | .serverWrites => do return { x with served := ← x.served.move? (.write .complete) }

/-- Both sides after several moves. -/
def run? (x : Exchange) (moves : List Move) : Option Exchange :=
  moves.foldlM move? x

end Exchange

end Switchboard
