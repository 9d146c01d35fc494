import Switchboard.Proofs.Connection.Expected

/-!
# Giving up a call and calling again

A connection is received from by calls, one after the other. A call looks for a frame, and as long
as it finds none it waits for the stream. There it can be given up: a timeout runs out, or
something else happens first. All that it has read stays with the connection, half of it perhaps as
a length that was taken and half as bytes in the buffer. So the next call goes on where the last one
stood, and no frame is lost or given twice, whatever is given up and whenever.
-/

namespace Switchboard

namespace Splitter

theorem length_pending (s : Splitter) (buffer : Bytes) :
    (s.pending buffer).length = (if s.announced.isSome then 4 else 0) + buffer.length := by
  rw [pending, List.length_append, lengthBytes]
  split
  · next h => simp [h]
  · next n h => simp [h, ByteOrder.length_encode32]

end Splitter

/-- What a connection's splitter has to work on. -/
def Connection.intake (c : Connection) : Intake :=
  ⟨c.splitter, c.readBuffer⟩

theorem Connection.intake_poll (c : Connection) :
    c.intake.look = c.poll.1 ∧ c.intake.step .look = c.poll.2.intake := by
  rw [poll_eq]
  exact ⟨rfl, rfl⟩

/-- Looking for a frame reads nothing. -/
theorem Connection.bytesReceived_poll (c : Connection) :
    c.poll.2.stats.bytesReceived = c.stats.bytesReceived := by
  rw [poll_eq]

/-- Sending touches neither what was read nor what is counted of it. -/
theorem Connection.kept_send (c : Connection) (frame : Frame) :
    (c.send frame).2.intake = c.intake ∧
      (c.send frame).2.stats.framesReceived = c.stats.framesReceived ∧
      (c.send frame).2.stats.bytesReceived = c.stats.bytesReceived := by
  unfold send prepare
  cases c.splitter.framing.encode frame [] <;> exact ⟨rfl, rfl, rfl⟩

/-! ## Calls -/

/-- A connection that is received from, with its stream. -/
structure Receiver where
  connection : Connection
  inbound : Inbound
  /-- All bytes that were read from the stream. -/
  read : Bytes
  /-- What the calls came to that were not given up, oldest first. -/
  results : List Connection.Received
  /-- A call waits for the stream. -/
  reading : Bool
  deriving DecidableEq, Repr

namespace Receiver

/-- Nothing was read and no call was made. -/
def start (order : ByteOrder) (max : Nat) : Receiver where
  connection := .new order max
  inbound := .empty
  read := []
  results := []
  reading := false

/-- The frames that calls gave. -/
def returned (t : Receiver) : List Bytes :=
  t.results.flatMap Connection.Received.frames

/-- The call comes to something. -/
def finish (t : Receiver) (r : Connection.Received) : Receiver :=
  { t with results := t.results ++ [r], reading := false }

/-- The call looks for a frame, and waits for the stream if there is none. -/
def look (t : Receiver) : Receiver :=
  match t.connection.poll with
  | (.ok (some frame), c) => { t with connection := c }.finish (.frame frame)
  | (.error e, c) => { t with connection := c }.finish (.failed e)
  | (.ok none, c) => { t with connection := c, reading := true }

/-- The stream has something for the call that waits: bytes, or its end. -/
def resume? (t : Receiver) : Option Receiver :=
  match Inbound.readPieces t.inbound.pieces with
  | some (bs, rest) =>
    some { t with
      connection := t.connection.absorb bs
      inbound := { t.inbound with pieces := rest }
      read := t.read ++ bs }.look
  | none => if t.inbound.closed then some (t.finish t.connection.atEnd) else none

/-- What can happen. -/
inductive Act
  /-- A piece of the stream arrives. -/
  | arrive (piece : Bytes)
  /-- The peer closes its side. -/
  | close
  | call
  /-- The call that waits for the stream reads from it. -/
  | read
  /-- Reading fails. -/
  | fault (e : OsError)
  /-- The call that waits for the stream is given up. -/
  | giveUp
  /-- Between two calls a frame is sent. -/
  | send (frame : Frame)

/-- The bytes that arrive. -/
def Act.arrived : Act → Bytes
  | .arrive piece => piece
  | _ => []

/-- What an act leads to; none if it is not possible. -/
def act? (t : Receiver) : Act → Option Receiver
  | .arrive piece =>
    if t.inbound.closed then none else some { t with inbound := t.inbound.arrive piece }
  | .close => some { t with inbound := t.inbound.close }
  | .call => if t.reading then none else some t.look
  | .read => if t.reading then t.resume? else none
  | .fault e => if t.reading then some (t.finish (.failed (.io (.os e)))) else none
  | .giveUp => if t.reading then some { t with reading := false } else none
  | .send frame =>
    if t.reading then none else some { t with connection := (t.connection.send frame).2 }

/-- What several acts lead to. -/
def run? (t : Receiver) (acts : List Act) : Option Receiver :=
  acts.foldlM act? t

variable {t t' : Receiver} {f : Framing} {stream : Bytes}

theorem run?_cons (t : Receiver) (a : Act) (acts : List Act) :
    t.run? (a :: acts) = (t.act? a).bind (·.run? acts) :=
  rfl

theorem returned_finish (t : Receiver) (r : Connection.Received) :
    (t.finish r).returned = t.returned ++ r.frames := by
  simp [returned, finish]

/-! ## A call that is not given up -/

/-- What has become of a receiver is told by a result of receiving once. -/
structure Follows (t t' : Receiver) (r : Connection.Received × Connection × Inbound) : Prop where
  connection : t'.connection = r.2.1
  inbound : t'.inbound = r.2.2
  reading : t'.reading = true ↔ r.1 = .pending
  results : t'.results = t.results ++ if r.1 = .pending then [] else [r.1]

theorem follows_finish (t : Receiver) (c : Connection) {r : Connection.Received}
    (h : r ≠ .pending) :
    t.Follows ({ t with connection := c }.finish r) (r, c, t.inbound) where
  connection := rfl
  inbound := rfl
  reading := by simp [finish, h]
  results := by simp [finish, h]

theorem run?_succ_of_resume {n : Nat} (hreading : t.reading = true) (h : t.resume? = some t') :
    t.run? (List.replicate (n + 1) .read) = t'.run? (List.replicate n .read) := by
  rw [List.replicate_succ, run?_cons, act?, if_pos hreading, h]
  rfl

theorem look_of_frame {c : Connection} {frame : Bytes}
    (h : t.connection.poll = (.ok (some frame), c)) :
    t.look = { t with connection := c }.finish (.frame frame) := by
  rw [look, h]

theorem look_of_error {c : Connection} {e : ConnectionError}
    (h : t.connection.poll = (.error e, c)) :
    t.look = { t with connection := c }.finish (.failed e) := by
  rw [look, h]

theorem look_of_none {c : Connection} (h : t.connection.poll = (.ok none, c)) :
    t.look = { t with connection := c, reading := true } := by
  rw [look, h]

/-- Reading as long as there is something to read leads where receiving once does. -/
theorem follows_receive {c : Connection} {s : Inbound} (hc : t.connection = c)
    (hs : t.inbound = s) :
    ∃ n t', t.look.run? (List.replicate n .read) = some t' ∧ t.Follows t' (c.receive s) := by
  fun_induction c.receive s generalizing t with
  | case1 c s frame c' hpoll =>
    subst hc hs
    refine ⟨0, _, rfl, ?_⟩
    rw [look_of_frame hpoll]
    apply follows_finish
    simp
  | case2 c s e c' hpoll =>
    subst hc hs
    refine ⟨0, _, rfl, ?_⟩
    rw [look_of_error hpoll]
    apply follows_finish
    simp
  | case3 c s c' hpoll bs rest hread ih =>
    subst hc hs
    -- One read more, and then as from the connection that has absorbed it.
    obtain ⟨n, t', hrun, hfollows⟩ := @ih ⟨c'.absorb bs, { t.inbound with pieces := rest },
      t.read ++ bs, t.results, true⟩ rfl rfl
    refine ⟨n + 1, t', ?_, hfollows.connection, hfollows.inbound, hfollows.reading,
      hfollows.results⟩
    rw [look_of_none hpoll, run?_succ_of_resume rfl _]
    · exact hrun
    · rw [resume?, hread]
  | case4 c s c' hpoll hread hclosed =>
    subst hc hs
    have hne : c'.atEnd ≠ .pending := by
      unfold Connection.atEnd
      split <;> simp
    refine ⟨1, _, ?_, follows_finish t c' hne⟩
    rw [look_of_none hpoll, run?_succ_of_resume (n := 0) rfl _]
    · rfl
    · rw [resume?, hread, if_pos hclosed]
      rfl
  | case5 c s c' hpoll hread hopen =>
    subst hc hs
    refine ⟨0, _, rfl, ?_⟩
    rw [look_of_none hpoll]
    exact ⟨rfl, rfl, by simp, by simp⟩

/-! ## What is counted -/

/-- Every byte that arrived is accounted for, and what was received is counted. -/
structure Counts (f : Framing) (stream : Bytes) (t : Receiver) : Prop where
  accounts : Intake.Accounts f t.read t.returned t.connection.intake
  framesReceived : t.connection.stats.framesReceived = t.returned.length
  bytesReceived : t.connection.stats.bytesReceived = t.read.length
  arrived : t.read ++ t.inbound.bytes = stream

/-- A call that waits for the stream has looked in vain. -/
structure Steady (f : Framing) (stream : Bytes) (t : Receiver) : Prop extends
    Counts f stream t where
  waits : t.reading = true → t.connection.splitter.Waits t.connection.readBuffer

theorem steady_start (order : ByteOrder) (max : Nat) :
    Steady (Framing.new order max) [] (start order max) where
  accounts := Intake.accounts_start order max
  framesReceived := rfl
  bytesReceived := rfl
  arrived := rfl
  waits := by
    intro h
    cases h

/-- What a call comes to is no frame if it was not looked for. -/
theorem Counts.finish (h : Counts f stream t) {r : Connection.Received} (hr : r.frames = []) :
    Steady f stream (t.finish r) := by
  have hreturned : (t.finish r).returned = t.returned := by
    rw [returned_finish, hr, List.append_nil]
  refine ⟨⟨?_, ?_, h.bytesReceived, h.arrived⟩, ?_⟩
  · rw [hreturned]
    exact h.accounts
  · rw [hreturned]
    exact h.framesReceived
  · intro hreading
    cases hreading

/-- Looking for a frame keeps the accounts, and waits only if there is none. -/
theorem Counts.look (h : Counts f stream t) : Steady f stream t.look := by
  have haccounts := h.accounts.after_step .look
  obtain ⟨hlook, hstep⟩ := t.connection.intake_poll
  have hpolled := t.connection.look_poll
  have hbytes := t.connection.bytesReceived_poll
  rw [hstep, IntakeStep.fed, IntakeStep.fed, List.append_nil, Intake.given, hlook] at haccounts
  rcases hpoll : t.connection.poll with ⟨e | _ | frame, c⟩
  · cases Connection.poll_error hpoll
    rw [look_of_error hpoll]
    exact h.finish rfl
  · rw [hpoll, List.append_nil] at haccounts
    rw [hpoll] at hpolled hbytes
    rw [look_of_none hpoll]
    refine ⟨⟨haccounts, ?_, hbytes.trans h.bytesReceived, h.arrived⟩, ?_⟩
    · rw [Connection.stats_poll_none hpoll]
      exact h.framesReceived
    · intro _
      exact hpolled.of_none.2.2.2
  · rw [hpoll] at haccounts hbytes
    rw [look_of_frame hpoll]
    have hreturned := returned_finish { t with connection := c } (.frame frame)
    refine ⟨⟨?_, ?_, hbytes.trans h.bytesReceived, h.arrived⟩, ?_⟩
    · rw [hreturned]
      exact haccounts
    · rw [hreturned, List.length_append]
      exact (Connection.framesReceived_poll_frame hpoll).trans (by rw [h.framesReceived]; rfl)
    · intro hreading
      cases hreading

/-- Reading brings more bytes in, or ends the call. -/
theorem Steady.read (h : Steady f stream t) (hreading : t.resume? = some t') :
    Steady f stream t' := by
  unfold resume? at hreading
  split at hreading
  · next bs rest hpieces =>
    cases hreading
    obtain ⟨-, hall⟩ := Inbound.flatten_of_readPieces hpieces
    have haccounts := h.accounts.after_step (.feed bs)
    rw [IntakeStep.fed, IntakeStep.fed, List.append_nil, Intake.given, List.append_nil]
      at haccounts
    -- The bytes are in the buffer before the call looks again.
    apply Counts.look
    refine ⟨haccounts, h.framesReceived, ?_, ?_⟩
    · rw [List.length_append, ← h.bytesReceived]
      rfl
    · rw [List.append_assoc, ← h.arrived]
      exact congrArg _ hall.symm
  · split at hreading
    · cases hreading
      exact h.toCounts.finish t.connection.frames_atEnd
    · cases hreading

theorem Counts.send (h : Counts f stream t) (frame : Frame) :
    Counts f stream { t with connection := (t.connection.send frame).2 } := by
  obtain ⟨hintake, hframes, hbytes⟩ := t.connection.kept_send frame
  refine ⟨?_, hframes.trans h.framesReceived, hbytes.trans h.bytesReceived, h.arrived⟩
  rw [hintake]
  exact h.accounts

/-- Whatever is done, the accounts stay right. -/
theorem Steady.act (h : Steady f stream t) {a : Act} (ha : t.act? a = some t') :
    Steady f (stream ++ a.arrived) t' := by
  cases a <;> simp only [act?, Option.ite_none_left_eq_some, Option.ite_none_right_eq_some,
    Option.some.injEq] at ha
  case arrive piece =>
    obtain ⟨-, rfl⟩ := ha
    refine ⟨⟨h.accounts, h.framesReceived, h.bytesReceived, ?_⟩, h.waits⟩
    rw [← h.arrived, Inbound.bytes, Inbound.arrive, List.flatten_append, List.flatten_singleton,
      ← List.append_assoc]
    rfl
  all_goals simp only [Act.arrived, List.append_nil]
  case close =>
    obtain rfl := ha
    exact ⟨⟨h.accounts, h.framesReceived, h.bytesReceived, h.arrived⟩, h.waits⟩
  case call =>
    obtain ⟨-, rfl⟩ := ha
    exact h.toCounts.look
  case read => exact h.read ha.2
  case fault e =>
    obtain ⟨-, rfl⟩ := ha
    exact h.toCounts.finish rfl
  case giveUp =>
    obtain ⟨-, rfl⟩ := ha
    refine ⟨⟨h.accounts, h.framesReceived, h.bytesReceived, h.arrived⟩, ?_⟩
    intro hreading
    cases hreading
  case send frame =>
    obtain ⟨hidle, rfl⟩ := ha
    refine ⟨h.toCounts.send frame, ?_⟩
    intro hreading
    exact absurd hreading hidle

/-- What every act keeps, given what has arrived until then, a whole run keeps. -/
theorem run_induction {motive : Bytes → Receiver → Prop}
    (keep : ∀ {stream t a t'}, motive stream t → t.act? a = some t' →
      motive (stream ++ a.arrived) t')
    (h : motive stream t) {acts : List Act} (hrun : t.run? acts = some t') :
    motive (stream ++ acts.flatMap Act.arrived) t' := by
  induction acts generalizing stream t with
  | nil =>
    cases hrun
    rw [List.flatMap_nil, List.append_nil]
    exact h
  | cons a rest ih =>
    obtain ⟨mid, ha, hrest⟩ := Option.bind_eq_some_iff.mp hrun
    have hkept := ih (keep h ha) hrest
    rw [List.append_assoc, ← List.flatMap_cons] at hkept
    exact hkept

theorem Steady.run (h : Steady f stream t) {acts : List Act} (hrun : t.run? acts = some t') :
    Steady f (stream ++ acts.flatMap Act.arrived) t' :=
  run_induction (fun hkept ha => hkept.act ha) h hrun

/-! ## Nothing is lost or given twice -/

/-- What holds of a receiver at any time, given what has arrived. -/
structure Exact (f : Framing) (stream : Bytes) (t : Receiver) : Prop where
  /-- What was read is what arrived first. -/
  arrived : t.read ++ t.inbound.bytes = stream
  /-- The frames are given in order. -/
  inOrder : t.returned <+: (f.parse t.read).frames
  /-- A call waits only if there is no further frame. -/
  complete : t.reading = true → t.returned = (f.parse t.read).frames
  /-- No byte that was read is lost or given twice. -/
  kept : t.read = f.framesBytes t.returned ++ t.connection.splitter.lengthBytes ++
    t.connection.readBuffer
  framesReceived : t.connection.stats.framesReceived = t.returned.length
  bytesReceived : t.connection.stats.bytesReceived = Framing.streamLength t.returned +
    (if t.connection.splitter.announced.isSome then 4 else 0) + t.connection.readBuffer.length
  /-- Giving up a call and calling again is no different from waiting on. -/
  reissued : t.reading = true → t.run? [.giveUp, .call] = some t
  /-- A call that is not given up goes as receiving once does. -/
  undisturbed : t.reading = false → ∃ n t', t.run? (.call :: List.replicate n .read) = some t' ∧
    t.Follows t' (t.connection.receive t.inbound)

theorem Steady.exact (h : Steady f stream t) : Exact f stream t where
  arrived := h.arrived
  inOrder := by
    rw [h.accounts.parse_eq]
    exact List.prefix_append _ _
  complete := by
    intro hreading
    have hwaits : t.connection.intake.splitter.Waits t.connection.intake.buffer :=
      h.waits hreading
    have hnone := hwaits.parse_pending h.accounts.sound
    rw [h.accounts.framing] at hnone
    rw [h.accounts.parse_eq, hnone, List.append_nil]
  kept := by
    rw [List.append_assoc]
    exact h.accounts.total
  framesReceived := h.framesReceived
  bytesReceived := by
    have htotal := congrArg List.length h.accounts.total
    rw [List.length_append, Framing.length_framesBytes, Splitter.length_pending, ← Nat.add_assoc]
      at htotal
    exact h.bytesReceived.trans htotal
  reissued := by
    intro hreading
    have hpoll : t.connection.poll = (.ok none, t.connection) := by
      rw [Connection.poll, (h.waits hreading).decode]
    have hlook : ({ t with reading := false } : Receiver).look = t := by
      rw [look_of_none (t := { t with reading := false }) hpoll, ← hreading]
    rw [run?_cons, act?, if_pos hreading, Option.bind_some, run?_cons, act?,
      if_neg Bool.false_ne_true, hlook]
    rfl
  undisturbed := by
    intro hidle
    obtain ⟨n, t', hrun, hfollows⟩ := follows_receive (t := t) rfl rfl
    refine ⟨n, t', ?_, hfollows⟩
    rw [run?_cons, act?, if_neg (by simp [hidle])]
    exact hrun

/-- However a stream arrives, and whichever calls are given up while they wait for it: the calls
give the frames of what was read, in order and each one once, and all of them by the time a call
waits. What is counted is what was given, and what was read beyond it. -/
theorem exact_of_run {order : ByteOrder} {max : Nat} {acts : List Act} {t : Receiver}
    (h : (start order max).run? acts = some t) :
    Exact (Framing.new order max) (acts.flatMap Act.arrived) t :=
  ((steady_start order max).run h).exact

/-- A frame of three bytes comes in pieces, and two calls are given up on the way: one when the
length was taken, and one when nothing was left to be read of a frame that begins behind it. -/
def interruptedActs : List Act :=
  [.arrive [0, 0, 0, 3, 7], .call, .read, .giveUp, .arrive [8], .call, .read, .giveUp, .call,
    .arrive [9, 0, 0], .read, .call, .giveUp, .arrive [0, 1], .call, .read]

theorem exact_of_interruptedActs :
    ∃ t, (start .big 1024).run? interruptedActs = some t ∧ t.returned = [[7, 8, 9]] ∧
      t.reading = true ∧ t.connection.stats.bytesReceived = 11 ∧
      Exact (Framing.new .big 1024) (interruptedActs.flatMap Act.arrived) t := by
  have hrun : ((start .big 1024).run? interruptedActs).map
      (fun t => (t.returned, t.reading, t.connection.stats.bytesReceived)) =
        some ([[7, 8, 9]], true, 11) := by
    decide
  obtain ⟨t, ht, hseen⟩ := Option.map_eq_some_iff.mp hrun
  simp only [Prod.mk.injEq] at hseen
  exact ⟨t, ht, hseen.1, hseen.2.1, hseen.2.2, exact_of_run ht⟩

end Receiver

end Switchboard
