import Switchboard.Network.Session

/-!
# Mailboxes

A mailbox takes a reply if it is open: the connection is not over, and somebody takes the replies
out. It puts the reply behind the others and leaves everything else alone.
-/

namespace Switchboard

namespace Mailbox

/-- Whether replies are taken: the connection is not over and somebody takes them out. -/
def Open (m : Mailbox) : Prop :=
  m.connected = true ∧ m.received = true

/-- A mailbox with some more replies. -/
def enqueue (m : Mailbox) (os : List Outbound) : Mailbox :=
  { m with queue := m.queue ++ os }

@[simp] theorem queue_enqueue (m : Mailbox) (os : List Outbound) :
    (m.enqueue os).queue = m.queue ++ os :=
  rfl

theorem enqueue_nil (m : Mailbox) : m.enqueue [] = m := by
  rw [enqueue, List.append_nil]

theorem enqueue_enqueue (m : Mailbox) (os ps : List Outbound) :
    (m.enqueue os).enqueue ps = m.enqueue (os ++ ps) := by
  simp only [enqueue, List.append_assoc]

theorem Open.enqueue {m : Mailbox} (h : m.Open) (os : List Outbound) : (m.enqueue os).Open :=
  h

theorem open_new : Mailbox.new.Open :=
  ⟨rfl, rfl⟩

/-- An open mailbox takes every reply. -/
theorem Open.send_eq {m : Mailbox} (h : m.Open) (o : Outbound) : m.send o = .ok (m.enqueue [o]) := by
  obtain ⟨hconnected, hreceived⟩ := h
  rw [send, if_neg (by simp [hconnected]), if_neg (by simp [hreceived]), Mailbox.enqueue]

/-- That the connection is over counts for more than that nobody takes replies out. -/
theorem send_of_disconnected {m : Mailbox} (h : m.connected = false) (o : Outbound) :
    m.send o = .error .closed := by
  rw [send, if_pos (by simp [h])]

theorem send_of_unreceived {m : Mailbox} (hconnected : m.connected = true)
    (hreceived : m.received = false) (o : Outbound) : m.send o = .error .sendChannelClosed := by
  rw [send, if_neg (by simp [hconnected]), if_pos (by simp [hreceived])]

/-- A mailbox that takes a reply is open. -/
theorem open_of_send {m m' : Mailbox} {o : Outbound} (h : m.send o = .ok m') :
    m.Open ∧ m' = m.enqueue [o] := by
  have hopen : m.Open := by
    unfold send at h
    split at h
    · cases h
    · next hconnected =>
      split at h
      · cases h
      · next hreceived =>
        simp only [Bool.not_eq_true', Bool.not_eq_false] at hconnected hreceived
        exact ⟨hconnected, hreceived⟩
  rw [hopen.send_eq] at h
  cases h
  exact ⟨hopen, rfl⟩

end Mailbox

end Switchboard
