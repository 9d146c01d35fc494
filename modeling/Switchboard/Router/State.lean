import Switchboard.Router.Route

/-!
# The router

Submissions queue up until the router's loop takes them, in order. For each one that has a route
the loop waits for a free worker and then starts a job, which gives the worker back when it ends,
in whatever way. Once a shutdown is signalled the loop closes the queue, as soon as it is not
waiting for a worker, takes what is still in it and waits for the jobs.

A router is a machine: what others do to it are functions, what it does by itself are moves. A move
is none where it is not possible. Everything that happens is written to a trace.
-/

namespace Switchboard

/-- A submission with its place in the order of all submissions. -/
structure Ticket (C : Type) where
  number : Nat
  submission : Submission C

/-- A job with what it was started for. -/
structure Job (L C : Type) where
  route : Route L
  ticket : Ticket C
  /-- Whether the gate has let the job through. -/
  released : Bool

namespace Job

variable {L C : Type}

/-- Whether the message is of the route's own type. A job for any other message is empty. -/
def isEmpty (j : Job L C) : Bool :=
  !j.ticket.submission.message.is j.route.schema

end Job

/-- What happens in a router. -/
inductive RouterEvent (L C : Type)
  /-- A submission came too late. -/
  | refused (t : Ticket C)
  /-- A submission has no route. -/
  | unrouted (t : Ticket C)
  /-- A submission is of another type than its route. -/
  | mismatched (route : Route L) (t : Ticket C)
  | started (j : Job L C)
  | done (j : Job L C)
  /-- The loop notices that a job panicked. -/
  | failed

/-- The warning that an event gives. -/
def RouterEvent.warning? {L C : Type} : RouterEvent L C → Option String
  | .refused t => some s!"Router stopped, dropping message {t.submission.tag}"
  | .unrouted t => some s!"No route for message {t.submission.tag}, dropping"
  | .mismatched r _ => some s!"Route for {r.schema.tag} received a different message type"
  | .failed => some "Routed job failed"
  | .started _ | .done _ => none

/-- Where the router's loop stands. -/
inductive LoopState (L C : Type)
  /-- Ready for whatever comes. -/
  | idle
  /-- With a submission that needs a worker; `draining` if the queue is closed. -/
  | waiting (route : Route L) (t : Ticket C) (draining : Bool)
  /-- Taking what is left in the closed queue. -/
  | draining
  /-- Waiting for the jobs. -/
  | joining
  | ended

/-- A running router. -/
structure Router (L C : Type) where
  routes : RouterBuilder L
  loop : LoopState L C
  /-- The submissions that the loop has not taken, oldest first. -/
  queue : List (Ticket C)
  /-- The number of submissions so far. -/
  submitted : Nat
  /-- Whether anybody can still submit. -/
  hasSender : Bool
  /-- Whether the queue takes no more submissions. -/
  closed : Bool
  /-- Whether a shutdown was asked for and the loop not told yet. -/
  shutdownAsked : Bool
  /-- Whether the loop was told and has not acted yet. -/
  notified : Bool
  /-- Workers that are free. -/
  free : Nat
  /-- Jobs that can go on, in the order in which they became able to. -/
  ready : List (Job L C)
  /-- Jobs that wait for the gate, in the order of their arrival. -/
  held : List (Job L C)
  /-- Units of the gate that no job waits for. -/
  gate : Nat
  /-- Jobs that ended and that the loop has not noticed: whether each one panicked. -/
  results : List Bool
  /-- What has happened, oldest first. -/
  trace : List (RouterEvent L C)

/-- Starts a router. -/
def RouterBuilder.spawn {L C : Type} (b : RouterBuilder L) : Router L C where
  routes := b
  loop := .idle
  queue := []
  submitted := 0
  hasSender := true
  closed := false
  shutdownAsked := false
  notified := false
  free := b.workers
  ready := []
  held := []
  gate := 0
  results := []
  trace := []

namespace Router

variable {L C : Type}

/-- Adds to the trace. -/
def record (r : Router L C) (e : RouterEvent L C) : Router L C :=
  { r with trace := r.trace ++ [e] }

/-! ## What others do -/

/-- Submits a message. -/
def submit (r : Router L C) (s : Submission C) : Router L C :=
  let t : Ticket C := ⟨r.submitted, s⟩
  let r := { r with submitted := r.submitted + 1 }
  if r.closed then r.record (.refused t) else { r with queue := r.queue ++ [t] }

/-- Adds units to the gate. Jobs that wait get them first, in order. -/
def release (r : Router L C) (n : Nat) : Router L C :=
  { r with
    ready := r.ready ++ (r.held.take n).map fun j => { j with released := true }
    held := r.held.drop n
    gate := r.gate + (n - r.held.length) }

/-- Asks for a shutdown. -/
def shutdown (r : Router L C) : Router L C :=
  { r with shutdownAsked := true }

/-- The last sender goes away. -/
def dropSender (r : Router L C) : Router L C :=
  { r with hasSender := false }

/-! ## What the loop does -/

/-- Whether the loop is taking submissions, and if so, whether the queue is closed. -/
def taking? (r : Router L C) : Option Bool :=
  match r.loop with
  | .idle => some false
  | .draining => some true
  | _ => none

/-- Takes the oldest submission. Without a route it is dropped. -/
def take? (r : Router L C) : Option (Router L C) :=
  match r.taking?, r.queue with
  | some draining, t :: rest =>
    let r := { r with queue := rest }
    match r.routes.find? t.submission.tag with
    | none => some (r.record (.unrouted t))
    | some route => some { r with loop := .waiting route t draining }
  | _, _ => none

/-- Gives the submission a worker and starts its job. -/
def acquire? (r : Router L C) : Option (Router L C) :=
  match r.loop with
  | .waiting route t draining =>
    if r.free = 0 then none
    else
      let j : Job L C := ⟨route, t, false⟩
      let r := { r with
        loop := if draining then .draining else .idle
        free := r.free - 1
        ready := r.ready ++ [j] }
      some (if j.isEmpty then r.record (.mismatched route t) else r)
  | _ => none

/-- Acts on the signal to shut down: closes the queue. -/
def close? (r : Router L C) : Option (Router L C) :=
  match r.loop with
  | .idle =>
    if r.notified then some { r with loop := .draining, notified := false, closed := true }
    else none
  | _ => none

/-- Finds that there will be no more submissions. -/
def finishTaking? (r : Router L C) : Option (Router L C) :=
  match r.loop with
  | .idle =>
    if r.queue.isEmpty && !r.hasSender then some { r with loop := .joining } else none
  | .draining => if r.queue.isEmpty then some { r with loop := .joining } else none
  | _ => none

/-- Whether the loop looks at jobs that have ended. -/
def isNoticing (r : Router L C) : Bool :=
  match r.loop with
  | .idle | .joining => true
  | _ => false

/-- Notices that a job has ended. -/
def notice? (r : Router L C) : Option (Router L C) :=
  match r.isNoticing, r.results with
  | true, panicked :: rest =>
    let r := { r with results := rest }
    some (if panicked then r.record .failed else r)
  | _, _ => none

/-- Ends when all jobs have. -/
def finish? (r : Router L C) : Option (Router L C) :=
  match r.loop with
  | .joining =>
    if r.ready.isEmpty && r.held.isEmpty && r.results.isEmpty then
      some { r with loop := .ended, closed := true }
    else none
  | _ => none

/-! ## What others do meanwhile -/

/-- Tells the loop that a shutdown was asked for. -/
def notify? (r : Router L C) : Option (Router L C) :=
  if r.shutdownAsked && !r.notified then
    some { r with shutdownAsked := false, notified := true }
  else none

/-- A job ends and gives its worker back. -/
def endJob (r : Router L C) (panicked : Bool) : Router L C :=
  { r with free := r.free + 1, results := r.results ++ [panicked] }

/-- The first job that can go on does, as far as it can. -/
def runJob? (r : Router L C) : Option (Router L C) :=
  match r.ready with
  | [] => none
  | j :: rest =>
    let r := { r with ready := rest }
    if j.isEmpty then some (r.endJob false)
    else if j.released then some ((r.record (.done j)).endJob false)
    else
      let r := r.record (.started j)
      match j.route.mode with
      | .run => some ((r.record (.done j)).endJob false)
      | .panic => some (r.endJob true)
      | .hold =>
        if 0 < r.gate then some (({ r with gate := r.gate - 1 }.record (.done j)).endJob false)
        else some { r with held := r.held ++ [j] }

/-- The moves of a router by itself. -/
inductive Move
  | close
  | notice
  | take
  | acquire
  | finishTaking
  | finish
  | notify
  | runJob
  deriving DecidableEq, Repr

/-- The router after a move. -/
def move? (r : Router L C) : Move → Option (Router L C)
  | .close => r.close?
  | .notice => r.notice?
  | .take => r.take?
  | .acquire => r.acquire?
  | .finishTaking => r.finishTaking?
  | .finish => r.finish?
  | .notify => r.notify?
  | .runJob => r.runJob?

/-- Whether the loop has ended. -/
def hasEnded (r : Router L C) : Bool :=
  match r.loop with
  | .ended => true
  | _ => false

end Router

end Switchboard
