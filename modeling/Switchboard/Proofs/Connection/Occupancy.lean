import Switchboard.Proofs.Connection.Cancellation

/-!
# How much a connection holds

The peer decides what arrives on a stream and when, but not how much of it a connection holds. A call
reads only after it has looked in vain. Then there is less than a length in the buffer, or less than
the frame whose length was taken, and no length above the limit is ever taken. Reading adds what is
read at once, and looking only takes bytes away. So a limit on frames is a limit on the buffer.
-/

namespace Switchboard

/-- The most bytes that wait for more: a length but for its last byte, or the longest frame but for
its last byte. -/
def Framing.longestWait (f : Framing) : Nat :=
  max 3 (f.limit - 1)

theorem Inbound.length_le_of_readPieces {ps rest : List Bytes} {bs : Bytes}
    (h : readPieces ps = some (bs, rest)) : bs.length ≤ readLimit := by
  fun_induction readPieces ps with
  | case1 => cases h
  | case2 rest ih => exact ih h
  | case3 piece rest _ hlong =>
    cases h
    exact List.length_take_le readLimit piece
  | case4 piece rest hne hshort =>
    cases h
    exact Nat.le_of_not_lt hshort

theorem Inbound.readPieces_of_length_le {piece : Bytes} (hne : piece ≠ [])
    (hle : piece.length ≤ readLimit) (rest : List Bytes) :
    readPieces (piece :: rest) = some (piece, rest) := by
  rw [readPieces]
  · rw [if_neg (Nat.not_lt.mpr hle)]
  · exact hne

namespace Splitter

variable {s : Splitter}

/-- A length that was taken is within the limit, so its frame cannot be waited for with more than
that. -/
theorem Waits.length_le (hs : s.Sound) {buffer : Bytes} (h : s.Waits buffer) :
    buffer.length ≤ s.framing.longestWait := by
  unfold Waits at h
  unfold Framing.longestWait
  split at h
  · omega
  · next n hann =>
    have hlimit := hs.announced_le n hann
    omega

theorem decode_suffix_of_announced {n : Nat} (h : s.announced = some n) (buffer : Bytes) :
    (s.decode buffer).2.2 <:+ buffer := by
  rw [decode_of_announced h]
  split
  · exact List.drop_suffix n buffer
  · exact List.suffix_rfl

/-- Looking for a frame only takes bytes off the front. -/
theorem decode_suffix (s : Splitter) (buffer : Bytes) : (s.decode buffer).2.2 <:+ buffer := by
  cases hann : s.announced with
  | some n => exact decode_suffix_of_announced hann buffer
  | none =>
    cases hat : s.framing.lengthAt? buffer with
    | none => rw [decode_of_short hann hat]
    | some p =>
      obtain ⟨n, rest⟩ := p
      obtain ⟨m, -, rfl⟩ := Framing.lengthAt?_eq_some hat
      rw [decode_of_length hann hat]
      split
      · exact List.suffix_rfl
      · have htaken : (s.announce n).announced = some n := rfl
        exact (decode_suffix_of_announced htaken rest).trans (List.suffix_append _ rest)

end Splitter

theorem Connection.poll_suffix (c : Connection) : c.poll.2.readBuffer <:+ c.readBuffer := by
  rw [poll_eq]
  exact c.splitter.decode_suffix c.readBuffer

namespace Receiver

variable {t t' : Receiver} {f : Framing} {stream : Bytes}

theorem connection_look (t : Receiver) : t.look.connection = t.connection.poll.2 := by
  unfold look
  split
  · next h => rw [h]; rfl
  · next h => rw [h]; rfl
  · next h => rw [h]

/-! ## On the way from one act to the next -/

/-- The connections that a receiver goes through. -/
inductive Moment (t : Receiver) : Connection → Prop
  /-- Between two acts. -/
  | still : Moment t t.connection
  /-- The call that waited for the stream has read, and has not looked yet. -/
  | absorbed {bs : Bytes} {rest : List Bytes} (reading : t.reading = true)
      (read : Inbound.readPieces t.inbound.pieces = some (bs, rest)) :
      Moment t (t.connection.absorb bs)
  /-- A call that looks for a frame has taken its length, and nothing behind it yet. -/
  | announced {c : Connection} {n : Nat} {rest : Bytes} (before : Moment t c)
      (unannounced : c.splitter.announced = none)
      (length : c.splitter.framing.lengthAt? c.readBuffer = some (n, rest))
      (fits : n ≤ c.splitter.framing.limit) :
      Moment t { c with splitter := c.splitter.announce n, readBuffer := rest }

/-- Every act begins where the last one ended or by reading. From there on it only takes bytes off
the buffer. -/
theorem moment_of_act {a : Act} (h : t.act? a = some t') :
    ∃ c, t.Moment c ∧ t'.connection.readBuffer <:+ c.readBuffer := by
  cases a <;> simp only [act?, Option.ite_none_left_eq_some, Option.ite_none_right_eq_some,
    Option.some.injEq] at h
  case arrive piece =>
    obtain ⟨-, rfl⟩ := h
    exact ⟨_, .still, List.suffix_rfl⟩
  case close =>
    obtain rfl := h
    exact ⟨_, .still, List.suffix_rfl⟩
  case call =>
    obtain ⟨-, rfl⟩ := h
    refine ⟨_, .still, ?_⟩
    rw [connection_look]
    exact t.connection.poll_suffix
  case read =>
    obtain ⟨hreading, hresume⟩ := h
    unfold resume? at hresume
    split at hresume
    · next bs rest hread =>
      cases hresume
      refine ⟨_, .absorbed hreading hread, ?_⟩
      rw [connection_look]
      exact (t.connection.absorb bs).poll_suffix
    · split at hresume
      · cases hresume
        exact ⟨_, .still, List.suffix_rfl⟩
      · cases hresume
  case fault e =>
    obtain ⟨-, rfl⟩ := h
    exact ⟨_, .still, List.suffix_rfl⟩
  case giveUp =>
    obtain ⟨-, rfl⟩ := h
    exact ⟨_, .still, List.suffix_rfl⟩
  case send frame =>
    obtain ⟨-, rfl⟩ := h
    have hbuffer : (t.connection.send frame).2.readBuffer = t.connection.readBuffer :=
      congrArg Intake.buffer (t.connection.kept_send frame).1
    refine ⟨_, .still, ?_⟩
    rw [hbuffer]

/-! ## The bound -/

theorem Steady.length_le (h : Steady f stream t) (hreading : t.reading = true) :
    t.connection.readBuffer.length ≤ f.longestWait := by
  have hlength := (h.waits hreading).length_le h.accounts.sound
  rw [← h.accounts.framing]
  exact hlength

/-- What a receiver holds between two acts is bounded, too. -/
structure Frugal (f : Framing) (stream : Bytes) (t : Receiver) : Prop extends
    Steady f stream t where
  held : t.connection.readBuffer.length ≤ f.longestWait + readLimit

theorem frugal_start (order : ByteOrder) (max : Nat) :
    Frugal (Framing.new order max) [] (start order max) where
  toSteady := steady_start order max
  held := Nat.zero_le _

/-- Bytes come in only while a call waits, and then there is room for all that is read at once. -/
theorem Frugal.moment (h : Frugal f stream t) {c : Connection} (hc : t.Moment c) :
    c.readBuffer.length ≤ f.longestWait + readLimit := by
  induction hc with
  | still => exact h.held
  | absorbed hreading hread =>
    rw [Connection.absorb, List.length_append]
    exact Nat.add_le_add (h.length_le hreading) (Inbound.length_le_of_readPieces hread)
  | announced before hann hat hfits ih =>
    exact Nat.le_trans (Nat.le_of_lt (Framing.lengthAt?_shorter hat)) ih

theorem Frugal.act (h : Frugal f stream t) {a : Act} (ha : t.act? a = some t') :
    Frugal f (stream ++ a.arrived) t' where
  toSteady := h.toSteady.act ha
  held := by
    obtain ⟨c, hc, hsuffix⟩ := moment_of_act ha
    exact Nat.le_trans hsuffix.length_le (h.moment hc)

theorem Frugal.run (h : Frugal f stream t) {acts : List Act} (hrun : t.run? acts = some t') :
    Frugal f (stream ++ acts.flatMap Act.arrived) t' :=
  run_induction (fun hkept ha => hkept.act ha) h hrun

/-- What a receiver holds of a stream at any time. -/
structure Confined (f : Framing) (t : Receiver) : Prop where
  /-- No moment finds more in the buffer than can wait for more and one read behind it. -/
  held : ∀ c, t.Moment c → c.readBuffer.length ≤ f.longestWait + readLimit
  /-- A call that is about to read has only what can wait for more. -/
  waiting : t.reading = true → t.connection.readBuffer.length ≤ f.longestWait
  /-- That is no complete frame, and no length above the limit either. -/
  incomplete : t.reading = true →
    f.parse (t.connection.splitter.pending t.connection.readBuffer) =
      ⟨[], .more (t.connection.splitter.pending t.connection.readBuffer)⟩
  /-- Receiving once leaves no more, however much it reads on the way. -/
  received : t.reading = false →
    (t.connection.receive t.inbound).2.1.readBuffer.length ≤ f.longestWait + readLimit

theorem Frugal.confined (h : Frugal f stream t) : Confined f t where
  held := fun _ hc => h.moment hc
  waiting := h.length_le
  incomplete := by
    intro hreading
    have hnone := (h.waits hreading).parse_pending h.accounts.sound
    rw [← h.accounts.framing]
    exact hnone
  received := by
    intro hidle
    obtain ⟨n, t', hrun, hfollows⟩ := h.toSteady.exact.undisturbed hidle
    rw [← hfollows.connection]
    exact (h.run hrun).held

/-- Whatever arrives on a stream and however it is cut, and whichever calls are given up: the buffer
never holds more than what can wait for more and one read behind it. A call reads only if the buffer
holds no complete frame, and less than the longest one or less than a length. -/
theorem confined_of_run {order : ByteOrder} {max : Nat} {acts : List Act} {t : Receiver}
    (h : (start order max).run? acts = some t) : Confined (Framing.new order max) t :=
  ((frugal_start order max).run h).confined

/-- As many bytes as are read at once. -/
def fullRead : Bytes :=
  List.replicate readLimit 0

/-- A frame of five bytes, the longest one, lacks its last byte, and much more than that arrives. -/
def brimfulActs : List Act :=
  [.arrive [0, 0, 0, 5, 1, 2, 3, 4], .call, .read, .arrive fullRead]

/-- What they lead to. -/
def brimful : Receiver where
  connection := { Connection.new .big 5 with
    splitter := (Splitter.new (Framing.new .big 5)).announce 5
    readBuffer := [1, 2, 3, 4]
    stats := { bytesReceived := 8 } }
  inbound := ⟨[fullRead], false⟩
  read := [0, 0, 0, 5, 1, 2, 3, 4]
  results := []
  reading := true

/-- The bounds are reached: four bytes wait, and 4100 are held when the call has read. -/
theorem confined_of_brimfulActs :
    (start .big 5).run? brimfulActs = some brimful ∧ brimful.reading = true ∧
      brimful.connection.readBuffer.length = 4 ∧
      (∃ c, brimful.Moment c ∧ c.readBuffer.length = 4100) ∧
      (Framing.new .big 5).longestWait = 4 ∧ Confined (Framing.new .big 5) brimful := by
  have hrun : (start .big 5).run? brimfulActs = some brimful := rfl
  have hlength : fullRead.length = readLimit := List.length_replicate
  have hread : Inbound.readPieces [fullRead] = some (fullRead, []) :=
    Inbound.readPieces_of_length_le (List.cons_ne_nil _ _) (Nat.le_of_eq hlength) []
  refine ⟨hrun, rfl, rfl, ⟨_, .absorbed rfl hread, ?_⟩, rfl, confined_of_run hrun⟩
  rw [Connection.absorb, List.length_append, hlength]
  rfl

end Receiver

end Switchboard
