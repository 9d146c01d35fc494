import Switchboard.Network.Session
import Switchboard.Processor

/-!
# How a server responds

A server answers a ping with a pong and sends an echo back as it is; a notice goes to a router, if
there is one. A reply that the session does not take is dropped.
-/

namespace Switchboard

/-- The parties of a server's processor. -/
inductive Responder
  | answerPing
  | sendBack
  | router
  deriving DecidableEq, Repr

/-- The pong for a ping. -/
def Builtin.pongFor (v : Builtin.ping.Value) : Message :=
  ⟨Builtin.pong, v⟩

/-- The configuration of a server's processor. -/
def serverSteps (order : ByteOrder) (router : Bool) : List (ConfigStep Responder) :=
  [.setByteOrder order] ++ ProcessorBuilder.builtinSteps
    ++ [.setHandler Builtin.ping .answerPing, .setRawHandler Builtin.echoId .sendBack]
    ++ if router then [.setRouter Builtin.notice .router] else []

/-- The processor of a server. -/
def serverProcessor (order : ByteOrder) (router : Bool) : Processor Responder :=
  (ProcessorBuilder.new.run (serverSteps order router)).build

/-- A mailbox after a reply, which is dropped if it is not taken. -/
def Mailbox.offer (m : Mailbox) (r : Except ConnectionError Mailbox) : Mailbox :=
  r.toOption.getD m

namespace Responder

variable {C : Type}

/-- What a call does: a reply, or a submission to the router. -/
def respond (m : Mailbox) : Call Responder C → Mailbox × List (Submission C)
  | .handler .answerPing message _ =>
    match message.as? Builtin.ping with
    | some v => (m.offer (m.reply (Builtin.pongFor v)), [])
    | none => (m, [])
  | .raw .sendBack r _ => (m.offer (m.replyRaw r), [])
  | .router .router submission => (m, [submission])
  | _ => (m, [])

/-- What calls do, in order. -/
def respondAll (m : Mailbox) : List (Call Responder C) → Mailbox × List (Submission C)
  | [] => (m, [])
  | c :: rest =>
    let (m, first) := respond m c
    let (m, more) := respondAll m rest
    (m, first ++ more)

end Responder

/-- Why a frame has no effect. -/
inductive FrameError
  | codec (e : CodecError)
  | dispatch (e : DispatchError)
  deriving DecidableEq, Repr

/-- Decodes a frame and delivers it within a session: what it held, the mailbox afterwards and
what went to the router. -/
def Processor.handle {C : Type} (p : Processor Responder) (context : C) (frame : Bytes)
    (m : Mailbox) : Except FrameError (Decoded × Mailbox × List (Submission C)) :=
  match p.decode frame with
  | .error e => .error (.codec e)
  | .ok d =>
    match p.route d context with
    | .error e => .error (.dispatch e)
    | .ok calls => .ok (d, Responder.respondAll m calls)

/-- The frame of a reply. -/
def Processor.encodeOutbound {P : Type} (p : Processor P) : Outbound → Except CodecError Frame
  | .message m => p.encode m
  | .raw r => p.encodeRaw r

end Switchboard
