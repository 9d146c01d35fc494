import Switchboard.Network.Connection
import Switchboard.Proofs.Framing.Intake

/-!
# Receiving

What a connection receives depends only on what is ahead of it: the part of the stream that it
holds already and the part that is there to be read, however that is cut into pieces. Once nothing
is left to be read, the end of the stream is judged by the buffer alone. The buffer is empty at the
end of a frame, but also behind a length whose frame has not begun.
-/

namespace Switchboard

namespace Connection

/-- What is ahead of a connection: what it holds of the stream, and what is there to be read. -/
def ahead (c : Connection) (s : Inbound) : Bytes :=
  c.splitter.pending c.readBuffer ++ s.bytes

/-- How many frames a look gives. -/
def framesIn : Except ConnectionError (Option Bytes) → Nat
  | .ok (some _) => 1
  | _ => 0

/-- Looking at what has been read is looking with the splitter, and counting what it gives. -/
theorem poll_eq (c : Connection) :
    c.poll = ((c.splitter.decode c.readBuffer).1, { c with
      splitter := (c.splitter.decode c.readBuffer).2.1
      readBuffer := (c.splitter.decode c.readBuffer).2.2
      stats := { c.stats with
        framesReceived :=
          c.stats.framesReceived + framesIn (c.splitter.decode c.readBuffer).1 } }) := by
  unfold poll
  generalize c.splitter.decode c.readBuffer = d
  obtain ⟨_ | _ | frame, splitter, rest⟩ := d <;> rfl

theorem look_poll (c : Connection) :
    c.splitter.Look c.readBuffer (c.poll.1, c.poll.2.splitter, c.poll.2.readBuffer) := by
  rw [poll_eq]
  exact Splitter.look_decode c.splitter c.readBuffer

/-! ## One frame -/

/-- What the tail of a stream comes to. The end of the stream is clean behind the last frame, and
so it is right behind a length. -/
def verdict (limit : Nat) (closed : Bool) : StreamTail → Received
  | .tooLarge n _ => .failed (.frameTooLarge n limit)
  | .more rest =>
    if closed then if rest.length = 0 ∨ rest.length = 4 then .ended else .failed .closed
    else .pending

theorem verdict_ne_frame (limit : Nat) (closed : Bool) (tail : StreamTail) (frame : Bytes) :
    verdict limit closed tail ≠ .frame frame := by
  intro h
  cases tail with
  | tooLarge n rest => cases h
  | more rest =>
    simp only [verdict] at h
    split at h
    · split at h <;> cases h
    · cases h

/-- Behind a length that was taken the buffer can be empty although a frame has begun. -/
theorem atEnd_of_waits {c : Connection} (h : c.splitter.Waits c.readBuffer) (limit : Nat) :
    c.atEnd = verdict limit true (.more (c.splitter.pending c.readBuffer)) := by
  have hlength : c.readBuffer.isEmpty = true ↔
      (c.splitter.pending c.readBuffer).length = 0 ∨
        (c.splitter.pending c.readBuffer).length = 4 := by
    -- The length that was taken is not in the buffer, but it is pending.
    unfold Splitter.Waits at h
    rw [List.isEmpty_iff_length_eq_zero]
    split at h
    · next hann =>
      rw [Splitter.pending_of_not_announced hann]
      omega
    · next n hann =>
      rw [Splitter.pending_of_announced hann, List.length_append, ByteOrder.length_encode32]
      omega
  by_cases hempty : c.readBuffer.isEmpty = true
  · rw [atEnd, if_pos hempty, verdict, if_pos rfl, if_pos (hlength.mp hempty)]
  · rw [atEnd, if_neg hempty, verdict, if_pos rfl, if_neg (mt hlength.mpr hempty)]

/-- What receiving comes to, in terms of what is ahead. -/
inductive Reception (c : Connection) (s : Inbound) : Received × Connection × Inbound → Prop
  | frame (frame : Bytes) (c' : Connection) (s' : Inbound)
      (splitter : c'.splitter = Splitter.new c.splitter.framing) (closed : s'.closed = s.closed)
      (fits : c.splitter.Sound → frame.length ≤ c.splitter.framing.limit)
      (front : c.ahead s = c.splitter.framing.frameBytes frame ++ c'.ahead s') :
      Reception c s (.frame frame, c', s')
  | refused (n : Nat) (c' : Connection) (s' : Inbound)
      (large : c.splitter.framing.parse (c.ahead s) = ⟨[], .tooLarge n (c.ahead s)⟩) :
      Reception c s (.failed (.frameTooLarge n c.splitter.framing.limit), c', s')
  | drained (c' : Connection) (s' : Inbound) (sound : c.splitter.Sound → c'.splitter.Sound)
      (framing : c'.splitter.framing = c.splitter.framing)
      (same : c'.splitter.pending c'.readBuffer = c.ahead s)
      (waits : c'.splitter.Waits c'.readBuffer) (last : Received)
      (judged : last = verdict c.splitter.framing.limit s.closed (.more (c.ahead s))) :
      Reception c s (last, c', s')

/-- Receiving is the same from every connection that has the same ahead. -/
theorem Reception.transport {c d : Connection} {s t : Inbound}
    {r : Received × Connection × Inbound} (h : Reception d t r)
    (hframing : d.splitter.framing = c.splitter.framing)
    (hsound : c.splitter.Sound → d.splitter.Sound) (hclosed : t.closed = s.closed)
    (hahead : d.ahead t = c.ahead s) : Reception c s r := by
  cases h with
  | frame frame c' s' splitter closed fits front =>
    rw [hframing] at splitter fits front
    exact Reception.frame frame c' s' splitter (closed.trans hclosed) (fun hs => fits (hsound hs))
      (hahead ▸ front)
  | refused n c' s' large =>
    rw [hframing, hahead] at large
    rw [hframing]
    exact Reception.refused n c' s' large
  | drained c' s' sound framing same waits last judged =>
    rw [hframing, hclosed, hahead] at judged
    exact Reception.drained c' s' (fun hs => sound (hsound hs)) (framing.trans hframing)
      (same.trans hahead) waits last judged

theorem bytes_of_readPieces_none {s : Inbound} (h : Inbound.readPieces s.pieces = none) :
    s.bytes = [] := by
  obtain ⟨pieces, closed⟩ := s
  simp only [Inbound.bytes] at h ⊢
  induction pieces with
  | nil => rfl
  | cons piece rest ih =>
    cases piece with
    | nil =>
      rw [Inbound.readPieces] at h
      exact ih h
    | cons b bs =>
      simp only [Inbound.readPieces] at h
      split at h <;> cases h

theorem reception_receive (c : Connection) (s : Inbound) : Reception c s (c.receive s) := by
  fun_induction c.receive s with
  | case1 c s frame c' hpoll =>
    have h := look_poll c
    rw [hpoll] at h
    obtain ⟨hsplitter, hfits, hfront⟩ := h.of_frame
    refine Reception.frame frame c' s hsplitter rfl hfits ?_
    rw [ahead, ahead, hfront, hsplitter, Splitter.pending_new, List.append_assoc]
  | case2 c s e c' hpoll =>
    have h := look_poll c
    rw [hpoll] at h
    obtain ⟨n, rfl, hlarge⟩ := h.of_error
    exact Reception.refused n c' s (Framing.parse_tooLarge_append hlarge s.bytes)
  | case3 c s c' hpoll bs rest hread ih =>
    have h := look_poll c
    rw [hpoll] at h
    obtain ⟨hsound, hframing, hsame, -⟩ := h.of_none
    obtain ⟨-, hall⟩ := Inbound.flatten_of_readPieces hread
    -- What was read moved from the stream into the buffer, so the same is ahead as before.
    refine ih.transport hframing hsound rfl ?_
    show c'.splitter.pending (c'.readBuffer ++ bs) ++ rest.flatten
      = c.splitter.pending c.readBuffer ++ s.pieces.flatten
    rw [Splitter.pending_append, hsame, hall, List.append_assoc]
  | case4 c s c' hpoll hread hclosed =>
    have h := look_poll c
    rw [hpoll] at h
    obtain ⟨hsound, hframing, hsame, hwaits⟩ := h.of_none
    have hahead : c'.splitter.pending c'.readBuffer = c.ahead s := by
      rw [ahead, bytes_of_readPieces_none hread, List.append_nil, hsame]
    apply Reception.drained c' s hsound hframing hahead hwaits
    rw [atEnd_of_waits hwaits, hahead, hclosed]
  | case5 c s c' hpoll hread hopen =>
    have h := look_poll c
    rw [hpoll] at h
    obtain ⟨hsound, hframing, hsame, hwaits⟩ := h.of_none
    have hahead : c'.splitter.pending c'.readBuffer = c.ahead s := by
      rw [ahead, bytes_of_readPieces_none hread, List.append_nil, hsame]
    apply Reception.drained c' s hsound hframing hahead hwaits
    rw [verdict, if_neg hopen]

/-! ## All frames -/

theorem ahead_shorter {c c' : Connection} {s s' : Inbound} {frame : Bytes}
    (h : c.receive s = (.frame frame, c', s')) : (c'.ahead s').length < (c.ahead s).length := by
  have hr := reception_receive c s
  rw [h] at hr
  cases hr with
  | frame _ _ _ splitter closed fits front =>
    rw [front, Framing.frameBytes]
    simp only [List.length_append, ByteOrder.length_encode32]
    omega
  | drained _ _ _ _ _ _ _ judged => exact absurd judged.symm (verdict_ne_frame _ _ _ _)

/-- Receives until something other than a frame comes: the frames, and what came then. -/
def receiveAll (c : Connection) (s : Inbound) : List Bytes × Received :=
  match _h : c.receive s with
  | (.frame frame, c', s') =>
    let (frames, last) := c'.receiveAll s'
    (frame :: frames, last)
  | (last, _, _) => ([], last)
termination_by (c.ahead s).length
decreasing_by exact ahead_shorter _h

theorem receiveAll_of_frame {c c' : Connection} {s s' : Inbound} {frame : Bytes}
    (h : c.receive s = (.frame frame, c', s')) :
    c.receiveAll s = (frame :: (c'.receiveAll s').1, (c'.receiveAll s').2) := by
  rw [receiveAll]
  split
  · next heq =>
    rw [h] at heq
    cases heq
    rfl
  · next hne heq =>
    rw [h] at heq
    cases heq
    exact absurd rfl (hne frame)

theorem receiveAll_of_last {c c' : Connection} {s s' : Inbound} {last : Received}
    (h : c.receive s = (last, c', s')) (hlast : ∀ frame, last ≠ .frame frame) :
    c.receiveAll s = ([], last) := by
  rw [receiveAll]
  split
  · next heq =>
    rw [h] at heq
    cases heq
    exact absurd rfl (hlast _)
  · next heq =>
    rw [h] at heq
    cases heq
    rfl

/-- The frames that are received are those of what is ahead, and what comes then depends on the
tail behind them. -/
theorem receiveAll_eq (c : Connection) (s : Inbound) (hs : c.splitter.Sound) :
    c.receiveAll s =
      ((c.splitter.framing.parse (c.ahead s)).frames,
        verdict c.splitter.framing.limit s.closed (c.splitter.framing.parse (c.ahead s)).tail) := by
  have hr := reception_receive c s
  generalize hd : c.receive s = d at hr
  cases hr with
  | frame frame c' s' splitter closed fits front =>
    have hs' : c'.splitter.Sound := by
      rw [splitter]
      exact Splitter.sound_new hs.limit_le
    have hframing : c'.splitter.framing = c.splitter.framing := by
      rw [splitter]
      rfl
    have ih := receiveAll_eq c' s' hs'
    rw [receiveAll_of_frame hd, ih, front, Framing.parse_frameBytes_append hs.limit_le (fits hs),
      hframing, closed]
  | refused n c' s' large =>
    rw [large]
    apply receiveAll_of_last hd
    intro frame h
    cases h
  | drained c' s' sound framing same waits last judged =>
    have hparse := waits.parse_pending (sound hs)
    rw [framing, same] at hparse
    rw [hparse, ← judged]
    apply receiveAll_of_last hd
    intro frame h
    exact verdict_ne_frame _ _ _ _ (judged.symm.trans h)
termination_by (c.ahead s).length
decreasing_by exact ahead_shorter hd

/-! ## The end of the stream -/

theorem receiveAll_new (order : ByteOrder) (max : Nat) (pieces : List Bytes) :
    (new order max).receiveAll ⟨pieces, true⟩ =
      (((Framing.new order max).parse pieces.flatten).frames,
        verdict (Framing.new order max).limit true
          ((Framing.new order max).parse pieces.flatten).tail) :=
  receiveAll_eq (new order max) ⟨pieces, true⟩
    (Splitter.sound_new (Framing.new_limit_le order max))

theorem verdict_more_of_clean {limit : Nat} {rest : Bytes}
    (h : rest.length = 0 ∨ rest.length = 4) : verdict limit true (.more rest) = .ended := by
  rw [verdict, if_pos rfl, if_pos h]

theorem verdict_more_of_cut {limit : Nat} {rest : Bytes}
    (h : ¬(rest.length = 0 ∨ rest.length = 4)) :
    verdict limit true (.more rest) = .failed .closed := by
  rw [verdict, if_pos rfl, if_neg h]

theorem verdict_ended_iff {limit : Nat} {tail : StreamTail} :
    verdict limit true tail = .ended ↔
      ∃ rest, tail = .more rest ∧ (rest.length = 0 ∨ rest.length = 4) := by
  constructor
  · intro h
    cases tail with
    | tooLarge n rest => cases h
    | more rest =>
      by_cases hclean : rest.length = 0 ∨ rest.length = 4
      · exact ⟨rest, rfl, hclean⟩
      · rw [verdict_more_of_cut hclean] at h
        cases h
  · rintro ⟨rest, rfl, hclean⟩
    exact verdict_more_of_clean hclean

theorem verdict_closed_iff {limit : Nat} {tail : StreamTail} :
    verdict limit true tail = .failed .closed ↔
      ∃ rest, tail = .more rest ∧ ¬(rest.length = 0 ∨ rest.length = 4) := by
  constructor
  · intro h
    cases tail with
    | tooLarge n rest => cases h
    | more rest =>
      by_cases hclean : rest.length = 0 ∨ rest.length = 4
      · rw [verdict_more_of_clean hclean] at h
        cases h
      · exact ⟨rest, rfl, hclean⟩
  · rintro ⟨rest, rfl, hcut⟩
    exact verdict_more_of_cut hcut

theorem verdict_tooLarge_iff {limit n : Nat} {tail : StreamTail} :
    verdict limit true tail = .failed (.frameTooLarge n limit) ↔
      ∃ rest, tail = .tooLarge n rest := by
  constructor
  · intro h
    cases tail with
    | tooLarge m rest =>
      cases h
      exact ⟨rest, rfl⟩
    | more rest =>
      by_cases hclean : rest.length = 0 ∨ rest.length = 4
      · rw [verdict_more_of_clean hclean] at h
        cases h
      · rw [verdict_more_of_cut hclean] at h
        cases h
  · rintro ⟨rest, rfl⟩
    rfl

section Ends

variable {f : Framing} (hf : f.limit ≤ Framing.largestLength) {stream : Bytes}
include hf

theorem endsWith_short_iff {rest : Bytes} (h : rest.length < 4) :
    f.EndsWith stream rest ↔ (f.parse stream).tail = .more rest := by
  have hparse := Framing.parse_of_short (Framing.lengthAt?_eq_none_iff (f := f).mpr h)
  exact @Framing.endsWith_iff f hf (.more rest) hparse stream

theorem endsWith_begun_iff {n : UInt32} {body : Bytes} (hn : n.toNat ≤ f.limit)
    (hbody : body.length < n.toNat) :
    f.EndsWith stream (f.byteOrder.encode32 n ++ body) ↔
      (f.parse stream).tail = .more (f.byteOrder.encode32 n ++ body) :=
  @Framing.endsWith_iff f hf (.more (f.byteOrder.encode32 n ++ body))
    (Framing.parse_incomplete hn hbody) stream

theorem endsWith_large_iff {n : UInt32} {rest : Bytes} (hn : f.limit < n.toNat) :
    f.EndsWith stream (f.byteOrder.encode32 n ++ rest) ↔
      (f.parse stream).tail = .tooLarge n.toNat (f.byteOrder.encode32 n ++ rest) :=
  @Framing.endsWith_iff f hf (.tooLarge n.toNat (f.byteOrder.encode32 n ++ rest))
    (Framing.parse_tooLarge hn) stream

theorem ended_iff_endsWith :
    verdict f.limit true (f.parse stream).tail = .ended ↔
      f.EndsWith stream [] ∨
      ∃ n : UInt32, 0 < n.toNat ∧ n.toNat ≤ f.limit ∧
        f.EndsWith stream (f.byteOrder.encode32 n) := by
  have hnone : ([] : Bytes).length < 4 := by decide
  rw [verdict_ended_iff, endsWith_short_iff hf hnone]
  constructor
  · rintro ⟨rest, hrest, hlen⟩
    have hparse := Framing.parse_tail f stream
    rw [hrest] at hparse
    rcases Framing.cases_of_parse_more hparse with hshort | ⟨n, body, rfl, hn, hbody⟩
    · change rest.length < 4 at hshort
      have hnil : rest = [] := by
        apply List.eq_nil_of_length_eq_zero
        omega
      rw [hnil] at hrest
      exact Or.inl hrest
    · -- A begun frame leaves four bytes only if nothing of it but the length is there.
      rw [List.length_append, ByteOrder.length_encode32] at hlen
      have hnil : body = [] := by
        apply List.eq_nil_of_length_eq_zero
        omega
      have hends := (endsWith_begun_iff hf hn hbody).mpr hrest
      rw [hnil, List.append_nil] at hends
      exact Or.inr ⟨n, by omega, hn, hends⟩
  · rintro (hempty | ⟨n, hpos, hn, hends⟩)
    · exact ⟨[], hempty, Or.inl rfl⟩
    · have hnothing : ([] : Bytes).length < n.toNat := hpos
      rw [← List.append_nil (f.byteOrder.encode32 n), endsWith_begun_iff hf hn hnothing,
        List.append_nil] at hends
      exact ⟨_, hends, Or.inr (ByteOrder.length_encode32 f.byteOrder n)⟩

theorem closed_iff_endsWith :
    verdict f.limit true (f.parse stream).tail = .failed .closed ↔
      (∃ rest : Bytes, 0 < rest.length ∧ rest.length < 4 ∧ f.EndsWith stream rest) ∨
      ∃ (n : UInt32) (body : Bytes), n.toNat ≤ f.limit ∧ 0 < body.length ∧
        body.length < n.toNat ∧ f.EndsWith stream (f.byteOrder.encode32 n ++ body) := by
  rw [verdict_closed_iff]
  constructor
  · rintro ⟨rest, hrest, hlen⟩
    have hparse := Framing.parse_tail f stream
    rw [hrest] at hparse
    rcases Framing.cases_of_parse_more hparse with hshort | ⟨n, body, rfl, hn, hbody⟩
    · exact Or.inl ⟨rest, by omega, hshort, (endsWith_short_iff hf hshort).mpr hrest⟩
    · rw [List.length_append, ByteOrder.length_encode32] at hlen
      exact Or.inr ⟨n, body, hn, by omega, hbody, (endsWith_begun_iff hf hn hbody).mpr hrest⟩
  · rintro (⟨rest, hpos, hshort, hends⟩ | ⟨n, body, hn, hpos, hbody, hends⟩)
    · exact ⟨rest, (endsWith_short_iff hf hshort).mp hends, by omega⟩
    · refine ⟨_, (endsWith_begun_iff hf hn hbody).mp hends, ?_⟩
      rw [List.length_append, ByteOrder.length_encode32]
      omega

theorem tooLarge_iff_endsWith (n : Nat) :
    verdict f.limit true (f.parse stream).tail = .failed (.frameTooLarge n f.limit) ↔
      ∃ (m : UInt32) (rest : Bytes), m.toNat = n ∧ f.limit < n ∧
        f.EndsWith stream (f.byteOrder.encode32 m ++ rest) := by
  rw [verdict_tooLarge_iff]
  constructor
  · rintro ⟨rest, hrest⟩
    have hparse := Framing.parse_tail f stream
    rw [hrest] at hparse
    obtain ⟨m, body, rfl, rfl, hlarge⟩ := Framing.large_of_parse_tooLarge hparse
    exact ⟨m, body, rfl, hlarge, (endsWith_large_iff hf hlarge).mpr hrest⟩
  · rintro ⟨m, rest, rfl, hlarge, hends⟩
    exact ⟨_, (endsWith_large_iff hf hlarge).mp hends⟩

end Ends

/-- The frames that are received are those of the stream, whatever the pieces are. Behind them the
end of the stream is reported as clean where it is cut behind a frame or right behind a length, and
as a closed connection where it is cut inside a length or inside a frame that has begun. A length
above the limit is reported as such. -/
theorem receiveAll_judges_end (order : ByteOrder) (max : Nat) (pieces : List Bytes) :
    let f := Framing.new order max
    let stream := pieces.flatten
    let received := (new order max).receiveAll ⟨pieces, true⟩
    received.1 = (f.parse stream).frames ∧
    (received.2 = .ended ↔
      f.EndsWith stream [] ∨
      ∃ n : UInt32, 0 < n.toNat ∧ n.toNat ≤ f.limit ∧ f.EndsWith stream (order.encode32 n)) ∧
    (received.2 = .failed .closed ↔
      (∃ rest : Bytes, 0 < rest.length ∧ rest.length < 4 ∧ f.EndsWith stream rest) ∨
      ∃ (n : UInt32) (body : Bytes), n.toNat ≤ f.limit ∧ 0 < body.length ∧
        body.length < n.toNat ∧ f.EndsWith stream (order.encode32 n ++ body)) ∧
    (∀ n, received.2 = .failed (.frameTooLarge n f.limit) ↔
      ∃ (m : UInt32) (rest : Bytes), m.toNat = n ∧ f.limit < n ∧
        f.EndsWith stream (order.encode32 m ++ rest)) := by
  intro f stream received
  have hf : f.limit ≤ Framing.largestLength := Framing.new_limit_le order max
  have hreceived : received = (_, verdict f.limit true (f.parse stream).tail) :=
    receiveAll_new order max pieces
  rw [hreceived]
  exact ⟨rfl, ended_iff_endsWith hf, closed_iff_endsWith hf, tooLarge_iff_endsWith hf⟩

/-- A stream that is cut right behind a length ends cleanly although its frame is missing. -/
theorem ended_behind_length :
    ((new .big 1024).receiveAll ⟨[[0, 0, 0, 5]], true⟩).2 = .ended ∧
    ¬(Framing.new .big 1024).EndsWith [0, 0, 0, 5] [] := by
  have hf : (Framing.new .big 1024).limit ≤ Framing.largestLength := Framing.new_limit_le .big 1024
  have hlength : (Framing.new .big 1024).EndsWith [0, 0, 0, 5] (ByteOrder.big.encode32 5) :=
    ⟨[], by simp, by decide⟩
  constructor
  · rw [receiveAll_new]
    exact (ended_iff_endsWith hf).mpr (Or.inr ⟨5, by decide, by decide, hlength⟩)
  · rw [endsWith_short_iff hf (by decide), hlength.tail_eq hf]
    have hnothing : ([] : Bytes).length < (5 : UInt32).toNat := by decide
    have hparse := Framing.parse_incomplete (f := Framing.new .big 1024) (by decide) hnothing
    rw [List.append_nil] at hparse
    show ((Framing.new .big 1024).parse ((Framing.new .big 1024).byteOrder.encode32 5)).tail ≠ _
    rw [hparse]
    decide

end Connection

end Switchboard
