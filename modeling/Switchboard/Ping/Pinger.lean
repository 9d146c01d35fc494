import Switchboard.Network.Client
import Switchboard.Number.Double

/-!
# Pinging a server

A pinger sends a notice, if there is one, then probes one after the other, each once the answer to
the one before has arrived, and at last an echo of its own name. It prints a line for every pong
and one for the echo. It stops with an error when the connection fails, when the server closes it,
or when an answer does not arrive in time.
-/

namespace Switchboard

/-- What a pinger is to do. -/
structure PingRequest where
  count : UInt32
  notice : Option String
  /-- The name that is echoed. -/
  name : String
  deriving DecidableEq, Repr

/-- Why pinging stops early. -/
inductive PingError
  | connection (e : ConnectionError)
  | dispatch (e : DispatchError)
  | serverClosed
  deriving DecidableEq, Repr

def PingError.message : PingError → String
  | .connection e => e.message
  | .dispatch e => e.message
  | .serverClosed => "Server closed the connection"

/-- What a pinger does next. -/
inductive PingStage
  | notice
  | ping (seq : Nat)
  /-- Waits for the answer to a probe. -/
  | pong (seq : Nat)
  | echo
  | echoReply
  | over (error : Option PingError)
  deriving DecidableEq, Repr

/-- A pinger at work. -/
structure Pinger where
  client : Client Unit
  request : PingRequest
  stage : PingStage
  inbound : Inbound
  /-- All bytes that the server was sent. -/
  written : Bytes
  /-- The lines that have been printed, first one first. -/
  printed : List String
  /-- The time in microseconds at each look at the clock. -/
  clock : Nat → UInt64
  /-- How often the clock has been looked at. -/
  looks : Nat

namespace Pinger

/-- The configuration of a pinger's processor. -/
def steps (order : ByteOrder) : List (ConfigStep Unit) :=
  [.setByteOrder order] ++ ProcessorBuilder.builtinSteps ++ [.setHandler Builtin.pong ()]

/-- The processor of a pinger. -/
def processor (order : ByteOrder) : Processor Unit :=
  (ProcessorBuilder.new.run (steps order)).build

/-- A pinger whose connection has just been made. -/
def new (config : NetworkConfig) (request : PingRequest) (clock : Nat → UInt64) : Pinger where
  client := Client.new config (processor config.byteOrder)
  request := request
  stage := .notice
  inbound := Inbound.empty
  written := []
  printed := []
  clock := clock
  looks := 0

/-! ## Lines -/

/-- Microseconds as milliseconds. -/
def milliseconds (us : Nat) : String :=
  (((Double.ofNat us).div? (Double.ofNat 1000)).getD Double.zero).fixed 3

/-- The line for a pong that arrives at a time. A pong that was sent later took no time. -/
def pongLine (v : Builtin.pong.Value) (now : UInt64) : String :=
  s!"Pong seq={v.1.toNat} time={milliseconds (now.toNat - v.2.1.toNat)} ms"

/-- The line for the answer to an echo. -/
def echoLine (sent : Bytes) (d : Decoded) : String :=
  match (d.as? Builtin.echo).map Builtin.echoData with
  | some data => if data = sent then s!"Echo ok ({data.length} bytes)" else "Echo mismatch"
  | none => "Echo mismatch"

/-! ## Steps -/

/-- Stops. -/
def stop (p : Pinger) (error : Option PingError) : Pinger :=
  { p with stage := .over error }

/-- Sends a message and goes on. -/
def sendThen (p : Pinger) (m : Message) (next : PingStage) : Pinger :=
  let (result, client) := p.client.send m
  let p := { p with client := client }
  match result with
  | .ok bs => { p with written := p.written ++ bs, stage := next }
  | .error e => p.stop (some (.connection e))

/-- The time of the next look at the clock. -/
def now (p : Pinger) : UInt64 :=
  p.clock p.looks

/-- The clock has been looked at. -/
def looked (p : Pinger) : Pinger :=
  { p with looks := p.looks + 1 }

/-- What the handler of pongs does. -/
def handle (p : Pinger) : Call Unit Unit → Pinger
  | .handler _ m _ =>
    match m.as? Builtin.pong with
    | some v => { p.looked with printed := p.printed ++ [pongLine v p.now] }
    | none => p
  | _ => p

/-- Delivers an answer to a probe. -/
def deliver (p : Pinger) (d : Decoded) (seq : Nat) : Pinger :=
  match p.client.processor.route d () with
  | .error e => p.stop (some (.dispatch e))
  | .ok calls => { calls.foldl handle p with stage := .ping (seq + 1) }

/-- The bytes that are echoed. -/
def echoBytes (p : Pinger) : Bytes :=
  Utf8.ofString p.request.name

/-- Receives an answer; none if it has not arrived yet. -/
def answer? (p : Pinger) (use : Pinger → Decoded → Pinger) : Option Pinger :=
  let (result, client, inbound) := p.client.receive p.inbound
  let p := { p with client := client, inbound := inbound }
  match result with
  | .decoded d => some (use p d)
  | .ended => some (p.stop (some .serverClosed))
  | .failed e => some (p.stop (some (.connection e)))
  | .pending => none

/-- The next step; none if an answer has not arrived yet, or if there is nothing more to do. -/
def step? (p : Pinger) : Option Pinger :=
  match p.stage with
  | .notice =>
    match p.request.notice with
    | some text => some (p.sendThen (Builtin.noticeOf text) (.ping 0))
    | none => some { p with stage := .ping 0 }
  | .ping seq =>
    if seq < p.request.count.toNat then
      some (p.looked.sendThen (Builtin.pingOf (UInt32.ofNat seq) p.now) (.pong seq))
    else some { p with stage := .echo }
  | .pong seq => p.answer? fun p d => p.deliver d seq
  | .echo => some (p.sendThen (Builtin.echoOf p.echoBytes) .echoReply)
  | .echoReply =>
    p.answer? fun p d => { p with printed := p.printed ++ [echoLine p.echoBytes d], stage := .over none }
  | .over _ => none

/-- Several steps; one that waits for an answer is given up after a while. -/
def run : (steps : Nat) → Pinger → Pinger
  | 0, p => p
  | steps + 1, p =>
    match p.stage with
    | .over _ => p
    | _ => (p.step?.getD (p.stop (some (.connection .timeout)))).run steps

/-- The number of steps that pinging takes at most. -/
def stepLimit (p : Pinger) : Nat :=
  2 * p.request.count.toNat + 5

/-- Pings a server from which the given bytes arrive. -/
def finish (p : Pinger) (inbound : Inbound) : Pinger :=
  { p with inbound := inbound }.run p.stepLimit

end Pinger

end Switchboard
