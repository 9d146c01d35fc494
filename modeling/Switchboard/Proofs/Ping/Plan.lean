import Switchboard.Proofs.Connection.Expected
import Switchboard.Proofs.Ping.Messages

/-!
# What a ping request asks for

A request fixes the conversation before it begins: what the pinger sends, what the server replies
and routes, which calls of the pinger's handler follow and which lines it prints.
-/

namespace Switchboard

namespace PingRequest

/-! ## The conversation -/

section

variable (r : PingRequest) (order : ByteOrder) (clock : Nat → UInt64)

/-- The probe with a number. The clock is looked at when a probe is sent and when its answer has
arrived. -/
def probe (seq : Nat) : Builtin.ping.Value :=
  (Builtin.pingOf (UInt32.ofNat seq) (clock (2 * seq))).value

def noticeFrame (text : String) : Bytes :=
  (Builtin.frame order Builtin.noticeId (Builtin.noticeOf text)).toBytes

def probeFrame (seq : Nat) : Bytes :=
  (Builtin.frame order Builtin.pingId ⟨Builtin.ping, probe clock seq⟩).toBytes

def pongFrame (seq : Nat) : Bytes :=
  (Builtin.frame order Builtin.pongId (Builtin.pongFor (probe clock seq))).toBytes

def echoFrame : Bytes :=
  (Builtin.frame order Builtin.echoId (Builtin.echoOf (Utf8.ofString r.name))).toBytes

/-- The frames that need no reply. -/
def notices : List Bytes :=
  r.notice.toList.map (noticeFrame order)

/-- The frames that are sent one at a time, each once the one before has its reply. -/
def questions : List Bytes :=
  (List.range r.count.toNat).map (probeFrame order clock) ++ [r.echoFrame order]

/-- All frames that the pinger sends. -/
def requests : List Bytes :=
  r.notices order ++ r.questions order clock

/-- All frames that the server sends. -/
def replies : List Bytes :=
  (List.range r.count.toNat).map (pongFrame order clock) ++ [r.echoFrame order]

/-- What the server's router is given, if there is one. -/
def announcements : List (Submission Unit) :=
  r.notice.toList.map fun text =>
    ⟨Builtin.notice.tag, Builtin.noticeOf text, ()⟩

/-- The calls of the pinger's handler of pongs. -/
def calls : List (Call Unit Unit) :=
  (List.range r.count.toNat).map fun seq => .handler () (Builtin.pongFor (probe clock seq)) ()

/-- The lines that the pinger prints. -/
def lines : List String :=
  (List.range r.count.toNat).map
      (fun seq =>
        let sent := clock (2 * seq)
        let now := clock (2 * seq + 1)
        s!"Pong seq={seq} time={Pinger.milliseconds (now.toNat - sent.toNat)} ms") ++
    [s!"Echo ok ({(Utf8.ofString r.name).length} bytes)"]

/-- The number of bytes of the longest frame. -/
def longest : Nat :=
  max 14 (max ((Utf8.ofString r.name).length + 10)
    ((r.notice.map fun text => 2 + (Builtin.payload (Builtin.noticeOf text)).length).getD 0))

/-- The steps of the pinger, the frames that the server receives, and the bytes of both streams,
once written and once arrived; the pinger writes its bytes in its steps. -/
def effort : Nat :=
  2 * r.count.toNat + 4 + (r.requests order clock).length +
    Framing.streamLength (r.requests order clock) + 2 * Framing.streamLength (r.replies order clock)

end

variable {r : PingRequest} {order : ByteOrder} {clock : Nat → UInt64}

/-- Numbers do not wrap around. -/
theorem toNat_probe {seq : Nat} (h : seq < r.count.toNat) : (probe clock seq).1.toNat = seq := by
  show (UInt32.ofNat seq).toNat = seq
  exact UInt32.toNat_ofNat_of_lt (Nat.lt_trans h r.count.toNat_lt)

theorem pongLine_probe {seq : Nat} (h : seq < r.count.toNat) (now : UInt64) :
    Pinger.pongLine (probe clock seq) now =
      s!"Pong seq={seq} time={Pinger.milliseconds (now.toNat - (clock (2 * seq)).toNat)} ms" := by
  let v : Builtin.ping.Value := probe clock seq
  have hseq : v.1.toNat = seq := toNat_probe h
  show s!"Pong seq={v.1.toNat} time={Pinger.milliseconds (now.toNat - v.2.1.toNat)} ms" = _
  rw [hseq]
  rfl

/-! ## Positions -/

theorem length_notices : (r.notices order).length = r.notice.toList.length :=
  List.length_map _

theorem length_questions : (r.questions order clock).length = r.count.toNat + 1 := by
  simp [questions]

theorem length_requests :
    (r.requests order clock).length = r.notice.toList.length + r.count.toNat + 1 := by
  rw [requests, List.length_append, length_notices, length_questions, Nat.add_assoc]

theorem length_replies : (r.replies order clock).length = r.count.toNat + 1 := by
  simp [replies]

theorem length_calls : (r.calls clock).length = r.count.toNat := by
  simp [calls]

theorem length_lines : (r.lines clock).length = r.count.toNat + 1 := by
  simp [lines]

theorem requests_notice {text : String} (h : r.notice = some text) :
    (r.requests order clock)[0]? = some (noticeFrame order text) := by
  simp [requests, notices, h]

theorem requests_probe {seq : Nat} (h : seq < r.count.toNat) :
    (r.requests order clock)[r.notice.toList.length + seq]? =
      some (probeFrame order clock seq) := by
  simp [requests, notices, questions, List.getElem?_append, h]

theorem requests_echo :
    (r.requests order clock)[r.notice.toList.length + r.count.toNat]? =
      some (r.echoFrame order) := by
  simp [requests, notices, questions]

theorem replies_pong {seq : Nat} (h : seq < r.count.toNat) :
    (r.replies order clock)[seq]? = some (pongFrame order clock seq) := by
  simp [replies, List.getElem?_append, h]

theorem replies_echo : (r.replies order clock)[r.count.toNat]? = some (r.echoFrame order) := by
  simp [replies]

theorem calls_pong {seq : Nat} (h : seq < r.count.toNat) :
    (r.calls clock)[seq]? = some (.handler () (Builtin.pongFor (probe clock seq)) ()) := by
  simp [calls, h]

theorem lines_pong {seq : Nat} (h : seq < r.count.toNat) :
    (r.lines clock)[seq]? =
      some (Pinger.pongLine (probe clock seq) (clock (2 * seq + 1))) := by
  simp [lines, List.getElem?_append, h, pongLine_probe h]

theorem lines_echo : (r.lines clock)[r.count.toNat]? =
    some s!"Echo ok ({(Utf8.ofString r.name).length} bytes)" := by
  simp [lines]

/-! ## Lengths -/

theorem length_noticeFrame_le {text : String} (h : r.notice = some text) :
    (noticeFrame order text).length ≤ r.longest := by
  rw [noticeFrame, Frame.length_toBytes, Frame.length, longest, h]
  exact Nat.le_trans (Nat.le_max_right _ _) (Nat.le_max_right _ _)

theorem length_probeFrame_le (r : PingRequest) (seq : Nat) :
    (probeFrame order clock seq).length ≤ r.longest := by
  have hpayload := Builtin.length_ping (UInt32.ofNat seq) (clock (2 * seq))
  rw [probeFrame, Frame.length_toBytes, Frame.length]
  show 2 + (Builtin.payload (Builtin.pingOf (UInt32.ofNat seq) (clock (2 * seq)))).length ≤ _
  rw [hpayload]
  exact Nat.le_max_left _ _

theorem length_pongFrame_le (r : PingRequest) (seq : Nat) :
    (pongFrame order clock seq).length ≤ r.longest := by
  rw [pongFrame, Frame.length_toBytes, Frame.length]
  show 2 + (Builtin.payload (Builtin.pongFor (probe clock seq))).length ≤ _
  rw [Builtin.length_pong]
  exact Nat.le_max_left _ _

theorem length_echoFrame (r : PingRequest) (order : ByteOrder) :
    (r.echoFrame order).length = (Utf8.ofString r.name).length + 10 := by
  rw [echoFrame, Frame.length_toBytes, Frame.length]
  show 2 + (Builtin.payload (Builtin.echoOf (Utf8.ofString r.name))).length = _
  rw [Builtin.length_echo]
  omega

theorem length_echoFrame_le (r : PingRequest) (order : ByteOrder) :
    (r.echoFrame order).length ≤ r.longest := by
  rw [length_echoFrame]
  exact Nat.le_trans (Nat.le_max_left _ _) (Nat.le_max_right _ _)

theorem length_requests_le : ∀ frame ∈ r.requests order clock, frame.length ≤ r.longest := by
  intro frame hframe
  rcases List.mem_append.mp hframe with hnotice | hquestion
  · obtain ⟨text, htext, rfl⟩ := List.mem_map.mp hnotice
    exact length_noticeFrame_le (Option.mem_toList.mp htext)
  · rcases List.mem_append.mp hquestion with hprobe | hecho
    · obtain ⟨seq, -, rfl⟩ := List.mem_map.mp hprobe
      exact length_probeFrame_le r seq
    · cases List.mem_singleton.mp hecho
      exact length_echoFrame_le r order

theorem length_replies_le : ∀ frame ∈ r.replies order clock, frame.length ≤ r.longest := by
  intro frame hframe
  rcases List.mem_append.mp hframe with hpong | hecho
  · obtain ⟨seq, -, rfl⟩ := List.mem_map.mp hpong
    exact length_pongFrame_le r seq
  · cases List.mem_singleton.mp hecho
    exact length_echoFrame_le r order

/-! ## What the server makes of it -/

/-- The answers to the first requests are the first replies. -/
theorem answer_requests (router : Bool) (f : Framing) (k : Nat) :
    ((r.requests order clock).take k).flatMap ((serverProcessor order router).answer f ()) =
      f.framesBytes ((r.replies order clock).take (k - r.notice.toList.length)) := by
  have hnotices : ((r.notices order).take k).flatMap ((serverProcessor order router).answer f ()) =
      [] := by
    apply List.flatMap_eq_nil_iff.mpr
    intro frame hframe
    obtain ⟨text, -, rfl⟩ := List.mem_map.mp (List.mem_of_mem_take hframe)
    exact (answer_notice order router f () text).1
  have hquestions : (r.questions order clock).map ((serverProcessor order router).answer f ()) =
      (r.replies order clock).map f.frameBytes := by
    have hprobe (seq : Nat) :
        (serverProcessor order router).answer f () (probeFrame order clock seq) =
          f.frameBytes (pongFrame order clock seq) :=
      (answer_ping order router f () (probe clock seq)).1
    have hecho : (serverProcessor order router).answer f () (r.echoFrame order) =
        f.frameBytes (r.echoFrame order) :=
      (answer_echo order router f () (Utf8.ofString r.name)).1
    rw [questions, replies, List.map_append, List.map_append, List.map_map, List.map_map,
      List.map_singleton, List.map_singleton, hecho]
    congr 1
    exact List.map_congr_left fun seq _ => hprobe seq
  rw [requests, List.take_append, List.flatMap_append, hnotices, List.nil_append, length_notices,
    Framing.framesBytes, List.flatMap_def, List.flatMap_def, List.map_take, hquestions,
    List.map_take]

/-- The router is given the notice and nothing else. -/
theorem submissions_requests (router : Bool) (k : Nat) :
    ((r.requests order clock).take k).flatMap ((serverProcessor order router).submissions ()) =
      if router then r.announcements.take k else [] := by
  have hquestions : ∀ j, ((r.questions order clock).take j).flatMap
      ((serverProcessor order router).submissions ()) = [] := by
    intro j
    apply List.flatMap_eq_nil_iff.mpr
    intro frame hframe
    rcases List.mem_append.mp (List.mem_of_mem_take hframe) with hprobe | hecho
    · obtain ⟨seq, -, rfl⟩ := List.mem_map.mp hprobe
      exact (answer_ping order router (Framing.new order 0) () (probe clock seq)).2
    · cases List.mem_singleton.mp hecho
      exact (answer_echo order router (Framing.new order 0) () (Utf8.ofString r.name)).2
  have hnotice (text : String) :
      (serverProcessor order router).submissions () (noticeFrame order text) =
        if router then [⟨Builtin.notice.tag, Builtin.noticeOf text, ()⟩] else [] :=
    (answer_notice order router (Framing.new order 0) () text).2
  rw [requests, List.take_append, List.flatMap_append, hquestions, List.append_nil, notices,
    announcements, ← List.map_take, ← List.map_take, List.flatMap_map]
  cases router with
  | true => simp [hnotice, List.map_eq_flatMap]
  | false => simp [hnotice]

end PingRequest

end Switchboard
