import Switchboard.Proofs.Framing.Intake

/-!
# From one end to the other

Frames are put into a buffer one after the other; those that are too long leave no trace in it. What
the buffer holds then is exactly the accepted frames with their lengths, so a splitter at the other
end gives out exactly these, as long as its own limit is not lower. The two ends compare lengths on
their own, one before it writes and the other after it has read; they agree because a length up to
the limit is written down in full.
-/

namespace Switchboard

namespace Framing

variable {f : Framing}

/-! ## The sending end -/

/-- A buffer after a frame was offered to it. One that is too long leaves it as it was. -/
def push (f : Framing) (buffer : Bytes) (frame : Frame) : Bytes :=
  (f.encode frame buffer).toOption.getD buffer

/-- What an empty buffer holds after some frames were offered to it, one after the other. -/
def wire (f : Framing) (frames : List Frame) : Bytes :=
  frames.foldl f.push []

/-- The bytes of those frames that are not too long. -/
def accepted (f : Framing) (frames : List Frame) : List Bytes :=
  (frames.filter fun frame => frame.length ≤ f.limit).map Frame.toBytes

theorem encode_of_le {frame : Frame} (h : frame.length ≤ f.limit) (buffer : Bytes) :
    f.encode frame buffer = .ok (buffer ++ f.frameBytes frame.toBytes) := by
  rw [encode, if_neg (Nat.not_lt.mpr h), frameBytes, frame.length_toBytes, List.append_assoc]

theorem encode_of_gt {frame : Frame} (h : f.limit < frame.length) (buffer : Bytes) :
    f.encode frame buffer = .error (.frameTooLarge frame.length f.limit) :=
  if_pos h

theorem push_of_le {frame : Frame} (h : frame.length ≤ f.limit) (buffer : Bytes) :
    f.push buffer frame = buffer ++ f.frameBytes frame.toBytes := by
  rw [push, encode_of_le h]
  rfl

theorem push_of_gt {frame : Frame} (h : f.limit < frame.length) (buffer : Bytes) :
    f.push buffer frame = buffer := by
  rw [push, encode_of_gt h]
  rfl

theorem accepted_cons_of_le {frame : Frame} (h : frame.length ≤ f.limit) (rest : List Frame) :
    f.accepted (frame :: rest) = frame.toBytes :: f.accepted rest := by
  rw [accepted, List.filter_cons_of_pos (by simpa using h)]
  rfl

theorem accepted_cons_of_gt {frame : Frame} (h : f.limit < frame.length) (rest : List Frame) :
    f.accepted (frame :: rest) = f.accepted rest := by
  rw [accepted, List.filter_cons_of_neg (by simpa using h)]
  rfl

theorem foldl_push (f : Framing) (frames : List Frame) (buffer : Bytes) :
    frames.foldl f.push buffer = buffer ++ f.framesBytes (f.accepted frames) := by
  induction frames generalizing buffer with
  | nil => exact (List.append_nil _).symm
  | cons frame rest ih =>
    rw [List.foldl_cons, ih]
    rcases Nat.lt_or_ge f.limit frame.length with h | h
    · rw [push_of_gt h, accepted_cons_of_gt h]
    · rw [push_of_le h, accepted_cons_of_le h, framesBytes_cons, List.append_assoc]

/-- A buffer holds the accepted frames, and nothing of the others. -/
theorem wire_eq (f : Framing) (frames : List Frame) :
    f.wire frames = f.framesBytes (f.accepted frames) :=
  foldl_push f frames []

theorem length_le_of_mem_accepted {frames : List Frame} {bytes : Bytes}
    (h : bytes ∈ f.accepted frames) : bytes.length ≤ f.limit := by
  obtain ⟨frame, hframe, rfl⟩ := List.mem_map.mp h
  rw [frame.length_toBytes]
  simpa using (List.mem_filter.mp hframe).2

/-- The length of a frame that fits is written on four bytes, in full. -/
theorem exists_frameBytes_eq (hf : f.limit ≤ largestLength) {bytes : Bytes}
    (h : bytes.length ≤ f.limit) :
    ∃ a b c d, (f.byteOrder.decode32 a b c d).toNat = bytes.length ∧
      f.frameBytes bytes = a :: b :: c :: d :: bytes := by
  have hat := lengthAt?_encode32 f (UInt32.ofNat bytes.length) bytes
  rw [toNat_ofNat_of_le (Nat.le_trans h hf)] at hat
  change f.lengthAt? (f.frameBytes bytes) = _ at hat
  rcases hbs : f.frameBytes bytes with _ | ⟨a, _ | ⟨b, _ | ⟨c, _ | ⟨d, rest⟩⟩⟩⟩ <;>
    simp [hbs, lengthAt?] at hat
  obtain ⟨hlength, rfl⟩ := hat
  exact ⟨a, b, c, d, hlength, rfl⟩

theorem parse_nil (f : Framing) : f.parse [] = ⟨[], .more []⟩ :=
  parse_of_short rfl

/-- What comes of offering a frame to a buffer, where `cap` is the longest that is accepted. -/
structure Offers (f : Framing) (cap : Nat) : Prop where
  /-- Its length on four bytes, and itself, are put behind what the buffer holds. -/
  accepts : ∀ (buffer : Bytes) (frame : Frame), frame.length ≤ cap →
    ∃ a b c d, (f.byteOrder.decode32 a b c d).toNat = frame.length ∧
      f.encode frame buffer = .ok (buffer ++ a :: b :: c :: d :: frame.toBytes) ∧
      f.push buffer frame = buffer ++ a :: b :: c :: d :: frame.toBytes
  /-- The buffer stays as it is. -/
  refuses : ∀ (buffer : Bytes) (frame : Frame), cap < frame.length →
    f.encode frame buffer = .error (.frameTooLarge frame.length cap) ∧
      f.push buffer frame = buffer

theorem offers (hf : f.limit ≤ largestLength) : f.Offers f.limit where
  accepts := by
    intro buffer frame h
    have hbytes : frame.toBytes.length ≤ f.limit := frame.length_toBytes ▸ h
    obtain ⟨a, b, c, d, hlength, heq⟩ := exists_frameBytes_eq hf hbytes
    rw [encode_of_le h, push_of_le h, heq]
    exact ⟨a, b, c, d, hlength.trans frame.length_toBytes, rfl, rfl⟩
  refuses := by
    intro buffer frame h
    exact ⟨encode_of_gt h buffer, push_of_gt h buffer⟩

end Framing

/-! ## The receiving end -/

theorem IntakeStep.fed_append (before after : List IntakeStep) :
    fed (before ++ after) = fed before ++ fed after := by
  induction before with
  | nil => rfl
  | cons s rest ih => cases s <;> simp [fed, ih]

theorem IntakeStep.fed_looks (n : Nat) : fed (List.replicate n look) = [] := by
  induction n with
  | zero => rfl
  | succ n ih => exact ih

namespace Intake

variable {f : Framing} {t : Intake} {sent given : List Bytes}

theorem frames_append (t : Intake) (before after : List IntakeStep) :
    t.frames (before ++ after) = t.frames before ++ (t.run before).frames after := by
  induction before generalizing t with
  | nil => rfl
  | cons s rest ih =>
    rw [List.cons_append, frames, frames, ih, List.append_assoc]
    rfl

/-- A stream of complete frames has no length above the limit anywhere. -/
theorem Accounts.look_ne_error {stream more : Bytes} (h : Accounts f stream given t)
    (hsent : ∀ frame ∈ sent, frame.length ≤ f.limit) (hstream : stream ++ more = f.framesBytes sent)
    (e : ConnectionError) : t.look ≠ .error e := by
  intro herror
  have hlook := Splitter.look_decode t.splitter t.buffer
  unfold look at herror
  generalize t.splitter.decode t.buffer = d at hlook herror
  cases hlook with
  | frame frame rest hfits front => cases herror
  | wait s' rest hsound hframing same waits => cases herror
  | refuse n large =>
    have hlimit := h.sound.limit_le
    rw [h.framing] at large hlimit
    -- The whole stream would end at that length, but it ends behind a frame.
    have hwhole := Framing.parse_framesBytes_append hlimit hsent []
    rw [List.append_nil, ← hstream, h.total, List.append_assoc,
      Framing.parse_framesBytes_append hlimit h.fits, Framing.parse_tooLarge_append large,
      Framing.parse_nil] at hwhole
    cases congrArg StreamFrames.tail hwhole

/-- What has been given out and what can be read off the rest is what was sent. -/
theorem Accounts.append_frames (h : Accounts f (f.framesBytes sent) given t)
    (hsent : ∀ frame ∈ sent, frame.length ≤ f.limit) :
    given ++ (f.parse (t.splitter.pending t.buffer)).frames = sent := by
  have hlimit := h.sound.limit_le
  rw [h.framing] at hlimit
  have hwhole := Framing.parse_framesBytes_append hlimit hsent []
  rw [List.append_nil, h.parse_eq, Framing.parse_nil, List.append_nil] at hwhole
  exact congrArg StreamFrames.frames hwhole

/-- The next look gives the next frame that was sent, until there is none left. -/
theorem Accounts.look_eq (h : Accounts f (f.framesBytes sent) given t)
    (hsent : ∀ frame ∈ sent, frame.length ≤ f.limit) : t.look = .ok sent[given.length]? := by
  have hlimit := h.sound.limit_le
  rw [h.framing] at hlimit
  have hframes := h.append_frames hsent
  have hlook := Splitter.look_decode t.splitter t.buffer
  have herror := h.look_ne_error hsent (List.append_nil _)
  unfold look at herror ⊢
  generalize t.splitter.decode t.buffer = d at hlook herror ⊢
  cases hlook with
  | frame frame rest hfits front =>
    have hfits := hfits h.sound
    rw [h.framing] at hfits front
    rw [front, Framing.parse_frameBytes_append hlimit hfits] at hframes
    rw [← hframes]
    simp
  | wait s' rest hsound hframing same waits =>
    have hincomplete := waits.parse_pending (hsound h.sound)
    rw [hframing, h.framing, same] at hincomplete
    rw [hincomplete, List.append_nil] at hframes
    rw [hframes]
    simp
  | refuse n large => exact absurd rfl (herror _)

/-- Looks give out what was sent, one frame each. -/
theorem Accounts.frames_looks {k : Nat} (h : Accounts f (f.framesBytes sent) (sent.take k) t)
    (hsent : ∀ frame ∈ sent, frame.length ≤ f.limit) (n : Nat) :
    sent.take k ++ t.frames (List.replicate n .look) = sent.take (k + n) := by
  induction n generalizing k t with
  | zero => exact List.append_nil _
  | succ n ih =>
    have hnext : sent[(sent.take k).length]? = sent[k]? := by
      rw [List.length_take]
      rcases Nat.le_total k sent.length with hk | hk
      · rw [Nat.min_eq_left hk]
      · rw [Nat.min_eq_right hk, List.getElem?_eq_none (Nat.le_refl _), List.getElem?_eq_none hk]
    have hgiven : t.given .look = sent[k]?.toList := by
      rw [given, h.look_eq hsent, hnext]
      rcases sent[k]? with _ | frame <;> rfl
    have hstep := h.after_step .look
    rw [hgiven, ← List.take_add_one, IntakeStep.fed, IntakeStep.fed, List.append_nil] at hstep
    rw [List.replicate_succ, frames, hgiven, ← List.append_assoc, ← List.take_add_one, ih hstep,
      Nat.add_assoc, Nat.add_comm 1 n]

/-- When all that was sent has been given out nothing is pending. -/
theorem Accounts.eq_start_of_all (h : Accounts f (f.framesBytes sent) sent t) :
    t = ⟨Splitter.new f, []⟩ := by
  have hpending : t.splitter.pending t.buffer = [] := List.self_eq_append_right.mp h.total
  obtain ⟨hlength, hbuffer⟩ := List.append_eq_nil_iff.mp hpending
  obtain ⟨⟨framing, announced⟩, buffer⟩ := t
  cases announced with
  | none =>
    cases h.framing
    cases hbuffer
    rfl
  | some n =>
    have hfour := ByteOrder.length_encode32 framing.byteOrder (UInt32.ofNat n)
    rw [show framing.byteOrder.encode32 (UInt32.ofNat n) = [] from hlength] at hfour
    cases hfour

/-- What arrives at a splitter with frames up to `max` bytes when `sent` was sent to it, in the
pieces of `steps`. -/
structure Arrives (order : ByteOrder) (max : Nat) (sent : List Bytes) (steps : List IntakeStep) :
    Prop where
  /-- No look ends in an error. -/
  no_error : ∀ before after, steps = before ++ .look :: after →
    ∀ e, ((start order max).run before).look ≠ .error e
  /-- What was sent arrives, in order. -/
  frames : (start order max).frames steps = sent
  /-- Nothing is left: no byte in the buffer, and no length taken. -/
  rest : (start order max).run steps = start order max
  none : ((start order max).run steps).look = .ok none

theorem arrives (order : ByteOrder) (max : Nat)
    (hsent : ∀ frame ∈ sent, frame.length ≤ (Framing.new order max).limit)
    {steps : List IntakeStep}
    (hfed : IntakeStep.fed steps = (Framing.new order max).framesBytes sent) (more : Nat) :
    Arrives order max sent (steps ++ List.replicate (sent.length + more) .look) := by
  have hbegin := accounts_start order max
  have hmid := hbegin.after_run steps
  rw [List.nil_append, List.nil_append, hfed] at hmid
  -- The looks behind the last piece give what the looks between the pieces have not.
  have hframes : (start order max).frames
      (steps ++ List.replicate (sent.length + more) .look) = sent := by
    have hpre : (start order max).frames steps <+: sent := ⟨_, hmid.append_frames hsent⟩
    have htake := List.prefix_iff_eq_take.mp hpre
    rw [htake] at hmid
    rw [frames_append, htake, hmid.frames_looks hsent]
    exact List.take_of_length_le (by omega)
  have hfin := hbegin.after_run (steps ++ List.replicate (sent.length + more) .look)
  rw [List.nil_append, List.nil_append, hframes, IntakeStep.fed_append, IntakeStep.fed_looks,
    List.append_nil, hfed] at hfin
  refine ⟨?_, hframes, hfin.eq_start_of_all, ?_⟩
  · intro before after hsteps e
    have hbefore := hbegin.after_run before
    rw [List.nil_append, List.nil_append] at hbefore
    have hrest : IntakeStep.fed before ++ IntakeStep.fed (.look :: after)
        = (Framing.new order max).framesBytes sent := by
      rw [← IntakeStep.fed_append, ← hsteps, IntakeStep.fed_append, IntakeStep.fed_looks,
        List.append_nil, hfed]
    exact hbefore.look_ne_error hsent hrest e
  · rw [hfin.look_eq hsent, List.getElem?_eq_none (Nat.le_refl _)]

/-- Frames of any lengths are offered to an empty buffer. Those are accepted that are not longer
than the limit and than four bytes can tell; each of them is put behind the others with its length,
and the others leave the buffer as it is. A splitter whose own limit is not lower gives out the
accepted frames, whatever pieces the buffer is cut into and whenever frames are looked for, without
an error; when the last of them is out nothing is left. -/
theorem arrives_of_wire (order : ByteOrder) {max max' : Nat} (hmax : max ≤ max')
    (frames : List Frame) {steps : List IntakeStep}
    (hfed : IntakeStep.fed steps = (Framing.new order max).wire frames) (more : Nat) :
    (Framing.new order max).Offers (min max Framing.largestLength) ∧
      Arrives order max' ((Framing.new order max).accepted frames)
        (steps ++ List.replicate (((Framing.new order max).accepted frames).length + more)
          .look) := by
  constructor
  · exact Framing.offers (Framing.new_limit_le order max)
  · apply arrives
    · intro frame hframe
      have hle := Framing.length_le_of_mem_accepted hframe
      simp only [Framing.new] at hle ⊢
      omega
    · rw [hfed, Framing.wire_eq]
      rfl

/-- A frame with nothing in it, one that just fits, one that is one byte too long, and another. -/
def offeredFrames : List Frame :=
  [⟨(1, 0), []⟩, ⟨(1, 0), [10, 11, 12, 13]⟩, ⟨(1, 0), [20, 21, 22, 23, 24]⟩, ⟨(2, 0), [30]⟩]

/-- What is left of them arrives, cut within a length and within frames, with a look too early. -/
def arrivingPieces : List IntakeStep :=
  [.feed [2, 0, 0], .look, .feed [0, 1, 0, 6, 0, 0, 0, 1, 0, 10], .look, .look,
    .feed [11, 12, 13, 3, 0, 0, 0, 2, 0, 30]]

theorem arrives_of_offeredFrames :
    6 ≤ 7 ∧ IntakeStep.fed arrivingPieces = (Framing.new .little 6).wire offeredFrames ∧
      (Framing.new .little 6).Offers 6 ∧
      Arrives .little 7 [[1, 0], [1, 0, 10, 11, 12, 13], [2, 0, 30]]
        (arrivingPieces ++ [.look, .look, .look]) := by
  have hfed : IntakeStep.fed arrivingPieces = (Framing.new .little 6).wire offeredFrames := by
    decide
  exact ⟨by decide, hfed, arrives_of_wire .little (by decide) offeredFrames hfed 0⟩

end Intake

end Switchboard
