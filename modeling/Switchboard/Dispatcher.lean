import Switchboard.Codec

/-!
# The dispatcher

Who is called for a message that arrived. A decoded message goes to the local handler of its type
first and then to its router; an undecoded payload goes to the raw handler of its identifier and to
nobody else. Delivering is described by the calls it makes, in order.
-/

namespace Switchboard

/-- A message handed to a router, with the tag it is handed over under and its context. -/
structure Submission (C : Type) where
  tag : String
  message : Message
  context : C

/-- A call of an attached party, with the context that came with the message. -/
inductive Call (P C : Type)
  | handler (party : P) (message : Message) (context : C)
  | router (party : P) (submission : Submission C)
  | raw (party : P) (message : RawMessage) (context : C)

/-- Why a message cannot be delivered. -/
inductive DispatchError
  | unknownId (id : MessageId)
  | notRegistered (tag : String)
  deriving DecidableEq, Repr

def DispatchError.message : DispatchError → String
  | .unknownId id => s!"Message ID {id} not registered"
  | .notRegistered tag => s!"Message {tag} not registered"

/-- The calls that a local handler makes of a message. -/
def Handler.calls {P C : Type} (h : Handler P) (m : Message) (context : C) : List (Call P C) :=
  if m.is h.accepts then [.handler h.party m context] else []

/-- Delivers messages to the parties that a registry keeps. -/
structure Dispatcher (P : Type) where
  registry : Registry P

namespace Dispatcher

variable {P C : Type}

/-- The calls that delivering a message makes. -/
def route (d : Dispatcher P) (decoded : Decoded) (context : C) :
    Except DispatchError (List (Call P C)) :=
  match decoded with
  | .raw r =>
    match d.registry.byId? r.id with
    | none => .error (.unknownId r.id)
    | some e => .ok ((e.rawHandler.map fun p => Call.raw p r context).toList)
  | .message m =>
    match d.registry.lookup? m with
    | none => .error (.notRegistered m.tag)
    | some e =>
      let handled := match e.handler with
        | some h => h.calls m context
        | none => []
      let routed := (e.router.map fun p => Call.router p ⟨e.tag, m, context⟩).toList
      .ok (handled ++ routed)

/-- The description of a dispatcher. -/
def describe (d : Dispatcher P) (l : Text.Layout) : String :=
  l.record "Dispatcher" [("messages", Text.leaf (toString d.registry.size))]

end Dispatcher

end Switchboard
