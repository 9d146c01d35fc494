import Switchboard.Proofs.Server.Conversation

/-!
# Sessions after the end

Routed jobs keep their session when the connection is over. One that ends by itself says so: nobody
is told that it is still there, and every reply is refused as too late. One that the server aborts
has no time to say anything. Its session goes on to pass for connected, and only the missing
receiver gives it away.
-/

namespace Switchboard

variable {C : Type}

namespace Served

/-- Whether the server aborts with a move, be it in the middle of writing. -/
def Move.isAbort : Move → Bool
  | .abort => true
  | .write (.aborted _) => true
  | _ => false

/-- What a connection that is over has left of its mailbox. -/
structure Left (moves : List Move) (s : Served C) (reason : EndReason) : Prop where
  /-- Those who hold its session are told that it is over, unless it was aborted. -/
  connected : s.mailbox.connected = false ↔ reason ≠ .aborted
  received : s.mailbox.received = false
  /-- A connection is aborted by the server only. -/
  stopped : reason = .aborted → ∃ m ∈ moves, m.isAbort = true

/-- The mailbox is open until the connection is over. -/
structure Tells (moves : List Move) (s : Served C) : Prop where
  opened : s.ended = none → s.mailbox.Open
  left : ∀ reason, s.ended = some reason → Left moves s reason

variable {s s' : Served C} {m : Move} {moves : List Move} {reason : EndReason}

/-! ## One move -/

theorem left_finish (hopen : s.mailbox.Open)
    (hstopped : reason = .aborted → ∃ m ∈ moves, m.isAbort = true) :
    Left moves (s.finish reason) reason := by
  refine ⟨?_, ?_, hstopped⟩
  · cases reason with
    | aborted =>
      show s.mailbox.connected = false ↔ _
      rw [hopen.1]
      exact ⟨nofun, fun h => absurd rfl h⟩
    | _ => exact ⟨fun _ => nofun, fun _ => rfl⟩
  · cases reason <;> rfl

theorem tells_finish (hopen : s.mailbox.Open)
    (hstopped : reason = .aborted → ∃ m ∈ moves, m.isAbort = true) :
    Tells moves (s.finish reason) := by
  refine ⟨nofun, ?_⟩
  intro again hended
  cases hended
  exact left_finish hopen hstopped

theorem tells_of_live (live : s.ended = none) (hopen : s.mailbox.Open) : Tells moves s := by
  refine ⟨fun _ => hopen, ?_⟩
  intro reason hended
  rw [live] at hended
  cases hended

theorem Left.mono (h : Left moves s reason) (hmailbox : s'.mailbox = s.mailbox) :
    Left (moves ++ [m]) s' reason := by
  refine ⟨hmailbox ▸ h.connected, hmailbox ▸ h.received, ?_⟩
  intro haborted
  obtain ⟨stop, hmem, hstop⟩ := h.stopped haborted
  exact ⟨stop, List.mem_append_left _ hmem, hstop⟩

/-- Nothing but the stream changes once a connection is over. -/
theorem Tells.over (h : Tells moves s) (hstep : Step s m s') (hended : s.ended = some reason) :
    s'.ended = s.ended ∧ s'.mailbox = s.mailbox ∧ s'.accepted = s.accepted := by
  have hshut : ¬ s.mailbox.Open := by
    intro hopen
    have hreceived := (h.left reason hended).received
    rw [hopen.2] at hreceived
    cases hreceived
  have hover : s.ended ≠ none := by
    rw [hended]
    exact nofun
  rcases hstep.over_cases hover hshut with ⟨_, -, rfl⟩ | rfl <;> exact ⟨rfl, rfl, rfl⟩

theorem Tells.step (h : Tells moves s) (hstep : Step s m s') : Tells (moves ++ [m]) s' := by
  rcases hended : s.ended with _ | reason
  · have hopen := h.opened hended
    have hlast : m ∈ moves ++ [m] := List.mem_append_right _ List.mem_cons_self
    cases hstep with
    | arrive opened => exact tells_of_live hended hopen
    | close => exact tells_of_live hended hopen
    | @dispatch frame c i live receives =>
      rw [dispatch_eq (s := s.received c i) hopen]
      exact tells_of_live hended (hopen.enqueue _)
    | wait live receives => exact tells_of_live hended hopen
    | finishClosed live receives => exact tells_finish hopen nofun
    | finishFailed live receives => exact tells_finish hopen nofun
    | skip live queue encodes => exact tells_of_live hended hopen
    | refuse live queue encodes large => exact tells_finish hopen nofun
    | write live queue encodes bytes => exact tells_of_live hended hopen
    | breakOff live queue encodes bytes => exact tells_finish hopen nofun
    | abortWrite live queue encodes bytes =>
      exact tells_finish hopen fun _ => ⟨_, hlast, rfl⟩
    | abort live => exact tells_finish hopen fun _ => ⟨_, hlast, rfl⟩
    | reply opened => exact tells_of_live hended (hopen.enqueue _)
  · obtain ⟨hsame, hmailbox, -⟩ := h.over hstep hended
    refine ⟨?_, ?_⟩
    · intro live
      rw [hsame, hended] at live
      cases live
    · intro again hagain
      exact (h.left again (hsame ▸ hagain)).mono hmailbox

/-! ## Runs -/

/-- The text of this notice is one letter. -/
def notice : Bytes :=
  [0, 0, 0, 14, 0, 4, 123, 34, 116, 101, 120, 116, 34, 58, 34, 97, 34, 125]

end Served

end Switchboard
