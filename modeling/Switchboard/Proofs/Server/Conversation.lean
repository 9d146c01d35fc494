import Switchboard.Proofs.Server.Answers

/-!
# Conversations

A served connection answers its stream frame by frame. What it has dispatched are the first frames
of what has arrived, its submissions are those of these frames, and what it has written, together
with the replies that are still queued, is what they answer; each frame counts as if it were alone.
Frames that cannot be used answer nothing and leave everything else as it is.
-/

namespace Switchboard

variable {C : Type}

/-- A longer stream has the frames of a shorter one, and then its own. -/
theorem Framing.parse_frames_prefix {f : Framing} (hf : f.limit ≤ largestLength)
    {bs more : Bytes} (h : bs <+: more) : (f.parse bs).frames <+: (f.parse more).frames := by
  obtain ⟨rest, rfl⟩ := h
  have hframes := parse_framesBytes_append hf
    (fun frame (hframe : frame ∈ (f.parse bs).frames) => length_le_of_mem_parse hframe)
    ((f.parse bs).tail.bytes ++ rest)
  rw [← List.append_assoc, framesBytes_parse] at hframes
  rw [hframes]
  exact List.prefix_append _ _

/-! ## The bytes of replies -/

namespace Processor

/-- The bytes of a reply on the stream; none if it cannot be encoded. -/
def outboundBytes {P : Type} (p : Processor P) (f : Framing) (o : Outbound) : Bytes :=
  match p.encodeOutbound o with
  | .ok frame => f.frameBytes frame.toBytes
  | .error _ => []

/-- The bytes that answer a frame alone. -/
def answer (p : Processor Responder) (f : Framing) (context : C) (frame : Bytes) : Bytes :=
  (p.replies context frame).flatMap (p.outboundBytes f)

theorem answer_of_not_usable {p : Processor Responder} {context : C} {frame : Bytes}
    (h : ¬ p.Usable context frame) (f : Framing) : p.answer f context frame = [] := by
  rw [answer, (silent_of_not_usable h).1]
  rfl

end Processor

namespace Served

/-- The bytes of some replies on the stream of a connection. -/
def bytesOf (s : Served C) (os : List Outbound) : Bytes :=
  os.flatMap (s.processor.outboundBytes s.connection.splitter.framing)

theorem bytesOf_append (s : Served C) (os ps : List Outbound) :
    s.bytesOf (os ++ ps) = s.bytesOf os ++ s.bytesOf ps :=
  List.flatMap_append

theorem bytesOf_cons_of_ok {s : Served C} {o : Outbound} {frame : Frame}
    (h : s.processor.encodeOutbound o = .ok frame) (os : List Outbound) :
    s.bytesOf (o :: os) =
      s.connection.splitter.framing.frameBytes frame.toBytes ++ s.bytesOf os := by
  rw [bytesOf, List.flatMap_cons, Processor.outboundBytes, h]
  rfl

theorem bytesOf_cons_of_error {s : Served C} {o : Outbound} {e : CodecError}
    (h : s.processor.encodeOutbound o = .error e) (os : List Outbound) :
    s.bytesOf (o :: os) = s.bytesOf os := by
  rw [bytesOf, List.flatMap_cons, Processor.outboundBytes, h]
  rfl

/-! ## Dispatching -/

/-- A connection with the replies and the submissions that a frame makes alone. -/
def answered (s : Served C) (frame : Bytes) : Served C :=
  { s with
    mailbox := s.mailbox.enqueue (s.processor.replies s.context frame)
    submissions := s.submissions ++ s.processor.submissions s.context frame
    accepted := s.accepted ++ s.processor.replies s.context frame }

/-- A frame that cannot be used changes nothing. -/
theorem dispatch_of_not_usable {s : Served C} {frame : Bytes}
    (h : ¬ s.processor.Usable s.context frame) : s.dispatch frame = s := by
  obtain ⟨e, he⟩ := Processor.handle_of_not_usable h s.mailbox
  rw [dispatch, he]

theorem dispatch_eq {s : Served C} (hopen : s.mailbox.Open) (frame : Bytes) :
    s.dispatch frame = s.answered frame := by
  by_cases h : s.processor.Usable s.context frame
  · obtain ⟨d, hd⟩ := Processor.handle_of_usable h hopen
    rw [dispatch, hd, answered]
    simp
  · obtain ⟨hreplies, hsubmissions⟩ := Processor.silent_of_not_usable h
    rw [dispatch_of_not_usable h, answered, hreplies, hsubmissions, Mailbox.enqueue_nil,
      List.append_nil, List.append_nil]

theorem ended_dispatch (s : Served C) (frame : Bytes) : (s.dispatch frame).ended = s.ended := by
  unfold dispatch
  split <;> rfl

/-! ## What a run keeps -/

/-- What a connection is made with. -/
structure SameSetup (s s' : Served C) : Prop where
  processor : s'.processor = s.processor
  context : s'.context = s.context
  framing : s'.connection.splitter.framing = s.connection.splitter.framing

variable {s s' : Served C} {m : Move}

theorem SameSetup.bytesOf_eq (h : SameSetup s s') (os : List Outbound) :
    s'.bytesOf os = s.bytesOf os := by
  rw [bytesOf, bytesOf, h.processor, h.framing]

theorem sameSetup_dispatch (s : Served C) (frame : Bytes) : SameSetup s (s.dispatch frame) := by
  unfold dispatch
  split <;> exact ⟨rfl, rfl, rfl⟩

theorem sameSetup_received {result : Connection.Received} {c : Connection} {i : Inbound}
    (h : s.connection.receive s.inbound = (result, c, i)) : SameSetup s (s.received c i) := by
  have hkept := Connection.kept_receive s.connection s.inbound
  rw [h] at hkept
  exact ⟨rfl, rfl, hkept.framing⟩

theorem SameSetup.trans {t : Served C} (h₁ : SameSetup s t) (h₂ : SameSetup t s') :
    SameSetup s s' :=
  ⟨h₂.processor.trans h₁.processor, h₂.context.trans h₁.context, h₂.framing.trans h₁.framing⟩

/-- No move changes what a connection is made with. -/
theorem Step.sameSetup (h : Step s m s') : SameSetup s s' := by
  cases h with
  | dispatch live receives => exact (sameSetup_received receives).trans (sameSetup_dispatch _ _)
  | wait live receives => exact sameSetup_received receives
  | finishClosed live receives => exact ⟨rfl, rfl, (sameSetup_received receives).framing⟩
  | finishFailed live receives => exact ⟨rfl, rfl, (sameSetup_received receives).framing⟩
  | _ => exact ⟨rfl, rfl, rfl⟩

/-! ## Replies are written in order -/

/-- The replies that a connection took were written or wait, as long as it is not over; then no more
are taken. -/
structure Delivers (s : Served C) : Prop where
  opened : s.ended = none → s.mailbox.Open
  shut : s.ended ≠ none → s.mailbox.received = false
  all : s.ended = none → s.bytesOf s.accepted = s.written ++ s.bytesOf s.mailbox.queue
  part : s.written <+: s.bytesOf s.accepted
  waiting : s.mailbox.queue <:+ s.accepted

theorem delivers_new (config : NetworkConfig) (router : Bool) (context : C) :
    Delivers (Served.new config router context) where
  opened := fun _ => Mailbox.open_new
  shut := fun h => absurd rfl h
  all := fun _ => rfl
  part := List.nil_prefix
  waiting := List.suffix_rfl

theorem delivers_received (h : Delivers s) {result : Connection.Received} {c : Connection}
    {i : Inbound} (hreceive : s.connection.receive s.inbound = (result, c, i)) :
    Delivers (s.received c i) := by
  have hsame := sameSetup_received hreceive
  refine ⟨h.opened, h.shut, ?_, ?_, h.waiting⟩
  · intro hlive
    rw [hsame.bytesOf_eq, hsame.bytesOf_eq]
    exact h.all hlive
  · rw [hsame.bytesOf_eq]
    exact h.part

theorem delivers_finish (h : s.written <+: s.bytesOf s.accepted) (reason : EndReason) :
    Delivers (s.finish reason) := by
  refine ⟨?_, ?_, ?_, h, List.nil_suffix⟩
  · intro hlive
    cases hlive
  · intro _
    cases reason <;> rfl
  · intro hlive
    cases hlive

theorem Delivers.live_of_open (h : Delivers s) (hopen : s.mailbox.Open) : s.ended = none := by
  rcases hended : s.ended with _ | reason
  · rfl
  · have hshut := h.shut (by rw [hended]; exact nofun)
    rw [hopen.2] at hshut
    cases hshut

/-- More replies are taken, and wait behind the others. -/
theorem delivers_enqueue {t : Served C} (h : Delivers s) (live : s.ended = none)
    (hsame : SameSetup s t) (hended : t.ended = s.ended) (hwritten : t.written = s.written)
    {os : List Outbound} (hmailbox : t.mailbox = s.mailbox.enqueue os)
    (haccepted : t.accepted = s.accepted ++ os) : Delivers t := by
  have hall : t.bytesOf t.accepted = t.written ++ t.bytesOf t.mailbox.queue := by
    rw [haccepted, hmailbox, hwritten, Mailbox.queue_enqueue, bytesOf_append, bytesOf_append,
      hsame.bytesOf_eq, hsame.bytesOf_eq, hsame.bytesOf_eq, h.all live, List.append_assoc]
  refine ⟨?_, ?_, fun _ => hall, ?_, ?_⟩
  · intro _
    rw [hmailbox]
    exact (h.opened live).enqueue os
  · intro hover
    exact absurd (hended.trans live) hover
  · rw [hall]
    exact List.prefix_append _ _
  · rw [hmailbox, haccepted]
    obtain ⟨old, hold⟩ := h.waiting
    exact ⟨old, by rw [Mailbox.queue_enqueue, ← hold, List.append_assoc]⟩

section

variable {o : Outbound} {rest : List Outbound} {frame : Frame} {bs : Bytes}

/-- The replies behind the oldest one are still some that were taken. -/
theorem Delivers.waiting_rest (h : Delivers s) (queue : s.mailbox.queue = o :: rest) :
    rest <:+ s.accepted := by
  have hqueue := h.waiting
  rw [queue] at hqueue
  exact (List.suffix_cons o rest).trans hqueue

/-- The oldest reply comes behind what was written. -/
theorem Delivers.all_of_oldest (h : Delivers s) (live : s.ended = none)
    (queue : s.mailbox.queue = o :: rest) (encodes : s.processor.encodeOutbound o = .ok frame)
    (bytes : bs = s.connection.splitter.framing.frameBytes frame.toBytes) :
    s.bytesOf s.accepted = s.written ++ bs ++ s.bytesOf rest := by
  rw [h.all live, queue, bytesOf_cons_of_ok encodes, bytes, List.append_assoc]

/-- So does a part of it. -/
theorem Delivers.part_of_oldest (h : Delivers s) (live : s.ended = none)
    (queue : s.mailbox.queue = o :: rest) (encodes : s.processor.encodeOutbound o = .ok frame)
    (bytes : bs = s.connection.splitter.framing.frameBytes frame.toBytes) (count : Nat) :
    s.written ++ bs.take count <+: s.bytesOf s.accepted := by
  rw [h.all_of_oldest live queue encodes bytes]
  exact ((List.prefix_append_right_inj _).mpr (List.take_prefix count bs)).trans
    (List.prefix_append _ _)

end

theorem Step.delivers (hstep : Step s m s') (h : Delivers s) : Delivers s' := by
  cases hstep with
  | arrive opened => exact ⟨h.opened, h.shut, h.all, h.part, h.waiting⟩
  | close => exact ⟨h.opened, h.shut, h.all, h.part, h.waiting⟩
  | @dispatch frame c i live receives =>
    have hreceived := delivers_received h receives
    rw [dispatch_eq (hreceived.opened live)]
    exact delivers_enqueue hreceived live ⟨rfl, rfl, rfl⟩ rfl rfl rfl rfl
  | wait live receives => exact delivers_received h receives
  | finishClosed live receives => exact delivers_finish (delivers_received h receives).part _
  | finishFailed live receives => exact delivers_finish (delivers_received h receives).part _
  | @skip w o rest e live queue encodes =>
    refine ⟨h.opened, h.shut, ?_, h.part, h.waiting_rest queue⟩
    -- A reply that cannot be encoded has no bytes to lose.
    intro _
    have hall := h.all live
    rw [queue, bytesOf_cons_of_error encodes] at hall
    exact hall
  | @refuse w o rest frame live queue encodes large =>
    refine delivers_finish ?_ _
    show s.written ++ [] <+: _
    rw [List.append_nil]
    exact h.part
  | @write o rest frame bs live queue encodes bytes =>
    have hall := h.all_of_oldest live queue encodes bytes
    refine ⟨h.opened, h.shut, fun _ => hall, ?_, h.waiting_rest queue⟩
    show s.written ++ bs <+: s.bytesOf s.accepted
    rw [hall]
    exact List.prefix_append _ _
  | breakOff live queue encodes bytes =>
    exact delivers_finish (h.part_of_oldest live queue encodes bytes _) _
  | abortWrite live queue encodes bytes =>
    exact delivers_finish (h.part_of_oldest live queue encodes bytes _) _
  | abort live => exact delivers_finish h.part _
  | @reply o opened =>
    exact delivers_enqueue h (h.live_of_open opened) ⟨rfl, rfl, rfl⟩ rfl rfl rfl rfl

/-! ## Frames are dispatched in order -/

/-- The bytes that arrive with a move. -/
def Move.arriving : Move → Bytes
  | .arrive piece => piece
  | _ => []

/-- Whether a move is a reply of a routed job. -/
def Move.isReply : Move → Bool
  | .reply _ => true
  | _ => false

/-- All bytes that arrive in a run. -/
def arrived (moves : List Move) : Bytes :=
  moves.flatMap Move.arriving

theorem arrived_append (moves : List Move) (m : Move) :
    arrived (moves ++ [m]) = arrived moves ++ m.arriving := by
  simp [arrived]

/-- The frames that a connection has dispatched are the first of what has arrived, and what it has
submitted and what handlers have replied are theirs. -/
structure Dispatched (moves : List Move) (frames : List Bytes) (s : Served C) : Prop where
  sound : s.connection.splitter.Sound
  fits : ∀ frame ∈ frames, frame.length ≤ s.connection.splitter.framing.limit
  stream : arrived moves =
    s.connection.splitter.framing.framesBytes frames ++ s.connection.ahead s.inbound
  counted : s.connection.stats.framesReceived = frames.length
  submitted : s.submissions = frames.flatMap (s.processor.submissions s.context)
  /-- A routed job may reply at any time; otherwise the replies are those of the frames. -/
  replied : (∀ m ∈ moves, m.isReply = false) →
    s.accepted = frames.flatMap (s.processor.replies s.context)

theorem dispatched_new (config : NetworkConfig) (router : Bool) (context : C) :
    Dispatched [] [] (Served.new config router context) where
  sound := Splitter.sound_new (Framing.new_limit_le config.byteOrder config.maxFrameSize.toNat)
  fits := nofun
  stream := rfl
  counted := rfl
  submitted := rfl
  replied := fun _ => rfl

variable {moves : List Move} {frames : List Bytes}

/-- A move that dispatches nothing. -/
theorem Dispatched.idle (h : Dispatched moves frames s) {t : Served C}
    (hsame : SameSetup s t) (hsound : t.connection.splitter.Sound)
    (hahead : t.connection.ahead t.inbound = s.connection.ahead s.inbound ++ m.arriving)
    (hcount : t.connection.stats.framesReceived = s.connection.stats.framesReceived)
    (hsubmissions : t.submissions = s.submissions) (haccepted : t.accepted = s.accepted) :
    Dispatched (moves ++ [m]) frames t := by
  refine ⟨hsound, ?_, ?_, hcount.trans h.counted, ?_, ?_⟩
  · rw [hsame.framing]
    exact h.fits
  · rw [arrived_append, h.stream, hahead, hsame.framing, List.append_assoc]
  · rw [hsubmissions, h.submitted, hsame.processor, hsame.context]
  · intro hquiet
    rw [haccepted, hsame.processor, hsame.context]
    exact h.replied fun k hk => hquiet k (List.mem_append_left _ hk)

/-- What receiving leaves when it gives no frame. -/
theorem Dispatched.received (h : Dispatched moves frames s) {result : Connection.Received}
    {c : Connection} {i : Inbound} (hreceive : s.connection.receive s.inbound = (result, c, i))
    (hnone : result.frames = []) :
    Dispatched (moves ++ [.receive]) frames (s.received c i) := by
  have hkept := Connection.kept_receive s.connection s.inbound
  rw [hreceive] at hkept
  refine h.idle (sameSetup_received hreceive) (hkept.sound h.sound) ?_ ?_ rfl rfl
  · have hahead := hkept.ahead
    rw [hnone] at hahead
    exact hahead.symm.trans (List.append_nil _).symm
  · have hcounted := hkept.counted
    rw [hnone] at hcounted
    exact hcounted

/-- What receiving leaves when it gives a frame, and the frame is answered. -/
theorem Dispatched.answered (h : Dispatched moves frames s) {frame : Bytes} {c : Connection}
    {i : Inbound} (hreceive : s.connection.receive s.inbound = (.frame frame, c, i)) :
    Dispatched (moves ++ [.receive]) (frames ++ [frame]) ((s.received c i).answered frame) := by
  have hkept := Connection.kept_receive s.connection s.inbound
  have hfits := Connection.frame_or_verdict (s := s.inbound) h.sound
  rw [hreceive] at hkept hfits
  have hframing : c.splitter.framing = s.connection.splitter.framing := hkept.framing
  have hlength : frame.length ≤ s.connection.splitter.framing.limit := by
    rcases hfits with ⟨frame', hsame, hle⟩ | ⟨tail, -, hverdict⟩
    · cases hsame
      exact hle
    · exact absurd hverdict.symm (Connection.verdict_ne_frame _ _ _ _)
  refine ⟨hkept.sound h.sound, ?_, ?_, ?_, ?_, ?_⟩
  · intro other hother
    show other.length ≤ c.splitter.framing.limit
    rw [hframing]
    rcases List.mem_append.mp hother with hold | hnew
    · exact h.fits other hold
    · rw [List.mem_singleton.mp hnew]
      exact hlength
  · have hahead : s.connection.ahead s.inbound =
        s.connection.splitter.framing.frameBytes frame ++ c.ahead i := by
      rw [← Framing.framesBytes_singleton]
      exact hkept.ahead
    show arrived (moves ++ [.receive]) =
      c.splitter.framing.framesBytes (frames ++ [frame]) ++ c.ahead i
    have harrived : arrived (moves ++ [.receive]) = arrived moves := by simp [arrived, Move.arriving]
    rw [harrived, h.stream, hahead, hframing, Framing.framesBytes_append,
      Framing.framesBytes_singleton, List.append_assoc]
  · rw [List.length_append, ← h.counted]
    exact hkept.counted
  · show s.submissions ++ s.processor.submissions s.context frame = _
    rw [h.submitted, List.flatMap_append]
    simp [Served.answered, Served.received]
  · intro hquiet
    show s.accepted ++ s.processor.replies s.context frame = _
    rw [h.replied fun k hk => hquiet k (List.mem_append_left _ hk), List.flatMap_append]
    simp [Served.answered, Served.received]

theorem Dispatched.finish (h : Dispatched moves frames s) (reason : EndReason) :
    Dispatched moves frames (s.finish reason) :=
  ⟨h.sound, h.fits, h.stream, h.counted, h.submitted, h.replied⟩

theorem Step.dispatched (hstep : Step s m s') (hdelivers : Delivers s)
    (h : Dispatched moves frames s) : ∃ frames', Dispatched (moves ++ [m]) frames' s' := by
  have nothing (bs : Bytes) : bs = bs ++ [] := (List.append_nil bs).symm
  cases hstep with
  | @arrive piece opened =>
    refine ⟨frames, h.idle ⟨rfl, rfl, rfl⟩ h.sound ?_ rfl rfl rfl⟩
    simp [Connection.ahead, Inbound.bytes, Inbound.arrive, Move.arriving]
  | close => exact ⟨frames, h.idle ⟨rfl, rfl, rfl⟩ h.sound (nothing _) rfl rfl rfl⟩
  | @dispatch frame c i live receives =>
    rw [dispatch_eq ((delivers_received hdelivers receives).opened live)]
    exact ⟨frames ++ [frame], h.answered receives⟩
  | wait live receives => exact ⟨frames, h.received receives rfl⟩
  | finishClosed live receives => exact ⟨frames, (h.received receives rfl).finish _⟩
  | finishFailed live receives => exact ⟨frames, (h.received receives rfl).finish _⟩
  | skip live queue encodes =>
    exact ⟨frames, h.idle ⟨rfl, rfl, rfl⟩ h.sound (nothing _) rfl rfl rfl⟩
  | refuse live queue encodes large =>
    exact ⟨frames, h.idle ⟨rfl, rfl, rfl⟩ h.sound (nothing _) rfl rfl rfl⟩
  | write live queue encodes bytes =>
    exact ⟨frames, h.idle ⟨rfl, rfl, rfl⟩ h.sound (nothing _) rfl rfl rfl⟩
  | breakOff live queue encodes bytes =>
    exact ⟨frames, h.idle ⟨rfl, rfl, rfl⟩ h.sound (nothing _) rfl rfl rfl⟩
  | abortWrite live queue encodes bytes =>
    exact ⟨frames, h.idle ⟨rfl, rfl, rfl⟩ h.sound (nothing _) rfl rfl rfl⟩
  | abort live => exact ⟨frames, h.idle ⟨rfl, rfl, rfl⟩ h.sound (nothing _) rfl rfl rfl⟩
  | @reply o opened =>
    refine ⟨frames, ?_⟩
    refine ⟨h.sound, h.fits, ?_, h.counted, h.submitted, ?_⟩
    · rw [arrived_append, h.stream]
      exact List.append_nil _
    · intro hquiet
      cases hquiet (.reply o) (List.mem_append_right _ List.mem_cons_self)

/-! ## Whole runs -/

/-- What holds of a connection at every moment. -/
structure Converses (config : NetworkConfig) (router : Bool) (context : C) (moves : List Move)
    (s : Served C) : Prop where
  setup : SameSetup (Served.new config router context) s
  delivers : Delivers s
  dispatched : ∃ frames, Dispatched moves frames s

theorem converses_new (config : NetworkConfig) (router : Bool) (context : C) :
    Converses config router context [] (Served.new config router context) where
  setup := ⟨rfl, rfl, rfl⟩
  delivers := delivers_new config router context
  dispatched := ⟨[], dispatched_new config router context⟩

theorem Converses.step {config : NetworkConfig} {router : Bool} {context : C}
    (h : Converses config router context moves s) (hstep : Step s m s') :
    Converses config router context (moves ++ [m]) s' := by
  obtain ⟨frames, hframes⟩ := h.dispatched
  exact ⟨h.setup.trans hstep.sameSetup, hstep.delivers h.delivers,
    hstep.dispatched h.delivers hframes⟩

theorem converses_of_run {config : NetworkConfig} {router : Bool} {context : C}
    (hrun : (Served.new config router context).run? moves = some s) :
    Converses config router context moves s :=
  run_induction (motive := Converses config router context)
    (fun h hmove => h.step (step_of_move hmove)) (converses_new config router context) hrun

end Served

end Switchboard
