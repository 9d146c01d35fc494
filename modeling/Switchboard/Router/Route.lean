import Switchboard.Dispatcher

/-!
# Routes

A route runs a job for each message that is submitted under its tag. Jobs are described by what can
be seen of them: that they start, whether they wait for a gate to let them through, and how they
end.
-/

namespace Switchboard

/-- What a job does after it has started. -/
inductive JobMode
  | run
  /-- Waits for one unit of the gate that all jobs share. -/
  | hold
  | panic
  deriving DecidableEq, Repr

/-- The jobs for one type of message. The label tells routes apart. -/
structure Route (L : Type) where
  schema : Schema
  mode : JobMode
  label : L
  deriving DecidableEq

/-- The number of jobs that may run at once unless another limit is set. -/
def defaultWorkers : Nat :=
  64

/-- Routes that are still being gathered. -/
structure RouterBuilder (L : Type) where
  /-- The last route added comes first. -/
  routes : List (Route L)
  workers : Nat

namespace RouterBuilder

variable {L : Type}

def new : RouterBuilder L :=
  ⟨[], defaultWorkers⟩

/-- Sets the number of jobs that may run at once; there is always room for one. -/
def withWorkers (b : RouterBuilder L) (n : Nat) : RouterBuilder L :=
  { b with workers := max n 1 }

/-- Adds a route. It takes the place of an earlier one for the same tag. -/
def route (b : RouterBuilder L) (r : Route L) : RouterBuilder L :=
  { b with routes := r :: b.routes }

/-- The route for a tag. -/
def find? (b : RouterBuilder L) (tag : String) : Option (Route L) :=
  b.routes.find? fun r => r.schema.tag = tag

end RouterBuilder

end Switchboard
