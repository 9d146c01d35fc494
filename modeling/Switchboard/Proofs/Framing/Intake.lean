import Switchboard.Proofs.Framing.Parse

/-!
# Framing as bytes come in

A splitter sees a stream in pieces. Between two pieces it holds a length that it took and a buffer;
these two are what is pending of the stream. One look for a frame is described by the one-shot
reading of what is pending, and a whole run by the one-shot reading of all that came in. So the
frames do not depend on where the stream is cut.
-/

namespace Switchboard

namespace Splitter

/-- The bytes of the length that was taken, while its frame is not complete. -/
def lengthBytes (s : Splitter) : Bytes :=
  match s.announced with
  | none => []
  | some n => s.framing.byteOrder.encode32 (UInt32.ofNat n)

/-- The part of the stream that has come in and was not given out as frames. -/
def pending (s : Splitter) (buffer : Bytes) : Bytes :=
  s.lengthBytes ++ buffer

/-- Four bytes can hold every length up to the limit, and the length that was taken is one. -/
structure Sound (s : Splitter) : Prop where
  limit_le : s.framing.limit ≤ Framing.largestLength
  announced_le : ∀ n, s.announced = some n → n ≤ s.framing.limit

theorem sound_new {f : Framing} (hf : f.limit ≤ Framing.largestLength) : (new f).Sound where
  limit_le := hf
  announced_le := by
    intro n hn
    cases hn

@[simp] theorem pending_new (f : Framing) (buffer : Bytes) : (new f).pending buffer = buffer := rfl

theorem pending_append (s : Splitter) (buffer chunk : Bytes) :
    s.pending (buffer ++ chunk) = s.pending buffer ++ chunk := by
  rw [pending, pending, List.append_assoc]

/-- The splitter that has taken a length. -/
def announce (s : Splitter) (n : Nat) : Splitter :=
  { s with announced := some n }

theorem pending_announce (s : Splitter) (n : UInt32) (buffer : Bytes) :
    (s.announce n.toNat).pending buffer = s.framing.byteOrder.encode32 n ++ buffer := by
  simp [announce, pending, lengthBytes]

theorem pending_of_announced {s : Splitter} {n : Nat} (h : s.announced = some n)
    (buffer : Bytes) :
    s.pending buffer = s.framing.byteOrder.encode32 (UInt32.ofNat n) ++ buffer := by
  rw [pending, lengthBytes, h]

theorem pending_of_not_announced {s : Splitter} (h : s.announced = none) (buffer : Bytes) :
    s.pending buffer = buffer := by
  rw [pending, lengthBytes, h]
  rfl

theorem Sound.announce {s : Splitter} (h : s.Sound) {n : Nat} (hn : n ≤ s.framing.limit) :
    (s.announce n).Sound where
  limit_le := h.limit_le
  announced_le := by
    intro m hm
    cases hm
    exact hn

/-! ## One look for a frame -/

theorem decode_of_announced {s : Splitter} {n : Nat} (h : s.announced = some n) (buffer : Bytes) :
    s.decode buffer =
      if n ≤ buffer.length then
        (.ok (some (buffer.take n)), { s with announced := none }, buffer.drop n)
      else (.ok none, s, buffer) := by
  have hs : { s with announced := some n } = s := by rw [← h]
  unfold decode takeFrame Bytes.split?
  rw [h]
  by_cases hn : n ≤ buffer.length
  · simp [hn]
  · simp [hn, hs]

theorem decode_of_short {s : Splitter} {buffer : Bytes} (h : s.announced = none)
    (hshort : s.framing.lengthAt? buffer = none) : s.decode buffer = (.ok none, s, buffer) := by
  rcases buffer with _ | ⟨a, _ | ⟨b, _ | ⟨c, _ | ⟨d, rest⟩⟩⟩⟩ <;>
    simp_all [decode, Framing.lengthAt?]

/-- Once the length is complete it is taken, unless it is above the limit. -/
theorem decode_of_length {s : Splitter} {buffer rest : Bytes} {n : Nat} (h : s.announced = none)
    (hat : s.framing.lengthAt? buffer = some (n, rest)) :
    s.decode buffer =
      if s.framing.limit < n then (.error (.frameTooLarge n s.framing.limit), s, buffer)
      else (s.announce n).decode rest := by
  unfold Framing.lengthAt? at hat
  split at hat
  · cases hat
    unfold decode announce
    rw [h]
    rfl
  · cases hat

/-- Nothing can be taken off the buffer: it is shorter than a length, or than the frame whose length
was taken. -/
def Waits (s : Splitter) (buffer : Bytes) : Prop :=
  match s.announced with
  | none => buffer.length < 4
  | some n => buffer.length < n

/-- What a splitter waits with holds no complete frame. -/
theorem Waits.parse_pending {s : Splitter} (hs : s.Sound) {buffer : Bytes} (h : s.Waits buffer) :
    s.framing.parse (s.pending buffer) = ⟨[], .more (s.pending buffer)⟩ := by
  unfold Waits at h
  split at h
  · next hann =>
    rw [pending_of_not_announced hann]
    exact Framing.parse_of_short (Framing.lengthAt?_eq_none_iff.mpr h)
  · next n hann =>
    have hlimit := hs.announced_le n hann
    have hnum := Framing.toNat_ofNat_of_le (Nat.le_trans hlimit hs.limit_le)
    rw [pending_of_announced hann]
    apply Framing.parse_incomplete
    · rw [hnum]
      exact hlimit
    · rw [hnum]
      exact h

/-- Looking again for what is waited for changes nothing. -/
theorem Waits.decode {s : Splitter} {buffer : Bytes} (h : s.Waits buffer) :
    s.decode buffer = (.ok none, s, buffer) := by
  unfold Waits at h
  split at h
  · next hann => exact decode_of_short hann (Framing.lengthAt?_eq_none_iff.mpr h)
  · next n hann => rw [decode_of_announced hann, if_neg (Nat.not_le.mpr h)]

/-- What a look for a frame comes to, in terms of what is pending: a frame is taken off the front,
or there is no complete frame, or there is a length above the limit. -/
inductive Look (s : Splitter) (buffer : Bytes) :
    Except ConnectionError (Option Bytes) × Splitter × Bytes → Prop
  | frame (frame rest : Bytes) (fits : s.Sound → frame.length ≤ s.framing.limit)
      (front : s.pending buffer = s.framing.frameBytes frame ++ rest) :
      Look s buffer (.ok (some frame), new s.framing, rest)
  | wait (s' : Splitter) (rest : Bytes) (sound : s.Sound → s'.Sound)
      (framing : s'.framing = s.framing) (same : s'.pending rest = s.pending buffer)
      (waits : s'.Waits rest) :
      Look s buffer (.ok none, s', rest)
  | refuse (n : Nat)
      (large : s.framing.parse (s.pending buffer) = ⟨[], .tooLarge n (s.pending buffer)⟩) :
      Look s buffer (.error (.frameTooLarge n s.framing.limit), s, buffer)

/-- Once a length is taken, looking for a frame is looking for that many bytes. The length may have
been taken by the same look, from a splitter that had the same bytes pending. -/
theorem look_of_announced {s t : Splitter} {buffer rest : Bytes} {n : Nat}
    (hn : t.announced = some n) (hframing : t.framing = s.framing)
    (hpending : t.pending rest = s.pending buffer) (hsound : s.Sound → t.Sound) :
    Look s buffer (t.decode rest) := by
  rw [decode_of_announced hn]
  by_cases hfits : n ≤ rest.length
  · have hlen : (rest.take n).length = n := by rw [List.length_take, Nat.min_eq_left hfits]
    have hnew : { t with announced := none } = new s.framing := by
      rw [← hframing]
      rfl
    rw [if_pos hfits, hnew]
    apply Look.frame
    · intro hs
      rw [hlen, ← hframing]
      exact (hsound hs).announced_le n hn
    · rw [← hpending, pending_of_announced hn, Framing.frameBytes, hlen, hframing,
        List.append_assoc, List.take_append_drop]
  · rw [if_neg hfits]
    apply Look.wait t rest hsound hframing hpending
    rw [Waits, hn]
    exact Nat.lt_of_not_le hfits

/-- Looking for a frame is looking at what is pending. -/
theorem look_decode (s : Splitter) (buffer : Bytes) : Look s buffer (s.decode buffer) := by
  cases hann : s.announced with
  | some n => exact look_of_announced hann rfl rfl id
  | none =>
    cases hat : s.framing.lengthAt? buffer with
    | none =>
      rw [decode_of_short hann hat]
      apply Look.wait s buffer id rfl rfl
      rw [Waits, hann]
      exact Framing.lengthAt?_eq_none_iff.mp hat
    | some p =>
      obtain ⟨n, rest⟩ := p
      obtain ⟨m, rfl, rfl⟩ := Framing.lengthAt?_eq_some hat
      rw [decode_of_length hann hat]
      -- The same call goes on to the frame, as if the length had been taken before.
      by_cases hlarge : s.framing.limit < m.toNat
      · rw [if_pos hlarge]
        apply Look.refuse
        rw [pending_of_not_announced hann]
        exact Framing.parse_tooLarge hlarge
      · rw [if_neg hlarge]
        have hann' : (s.announce m.toNat).announced = some m.toNat := rfl
        refine look_of_announced hann' rfl ?_ ?_
        · rw [pending_of_not_announced hann, pending_announce]
        · intro hs
          exact hs.announce (Nat.le_of_not_lt hlarge)

theorem Look.of_frame {s s' : Splitter} {buffer frame rest : Bytes}
    (h : Look s buffer (.ok (some frame), s', rest)) :
    s' = new s.framing ∧ (s.Sound → frame.length ≤ s.framing.limit) ∧
      s.pending buffer = s.framing.frameBytes frame ++ rest := by
  cases h with
  | frame _ _ fits front => exact ⟨rfl, fits, front⟩

theorem Look.of_none {s s' : Splitter} {buffer rest : Bytes}
    (h : Look s buffer (.ok none, s', rest)) :
    (s.Sound → s'.Sound) ∧ s'.framing = s.framing ∧ s'.pending rest = s.pending buffer ∧
      s'.Waits rest := by
  cases h with
  | wait _ _ sound framing same waits => exact ⟨sound, framing, same, waits⟩

theorem Look.of_error {s s' : Splitter} {buffer rest : Bytes} {e : ConnectionError}
    (h : Look s buffer (.error e, s', rest)) :
    ∃ n, e = .frameTooLarge n s.framing.limit ∧
      s.framing.parse (s.pending buffer) = ⟨[], .tooLarge n (s.pending buffer)⟩ := by
  cases h with
  | refuse n large => exact ⟨n, rfl, large⟩

end Splitter

/-! ## Runs -/

/-- What is done to a splitter: a piece of the stream comes in, or a frame is looked for. -/
inductive IntakeStep
  | feed (chunk : Bytes)
  | look
  deriving DecidableEq, Repr

/-- The bytes that steps bring in. -/
def IntakeStep.fed : List IntakeStep → Bytes
  | [] => []
  | .feed chunk :: rest => chunk ++ fed rest
  | .look :: rest => fed rest

/-- A splitter with its buffer. -/
structure Intake where
  splitter : Splitter
  buffer : Bytes
  deriving DecidableEq, Repr

namespace Intake

/-- Nothing has come in. -/
def start (order : ByteOrder) (max : Nat) : Intake :=
  ⟨Splitter.new (Framing.new order max), []⟩

/-- What a look for a frame gives. -/
def look (t : Intake) : Except ConnectionError (Option Bytes) :=
  (t.splitter.decode t.buffer).1

/-- The intake after one step. -/
def step (t : Intake) : IntakeStep → Intake
  | .feed chunk => { t with buffer := t.buffer ++ chunk }
  | .look =>
    let (_, splitter, rest) := t.splitter.decode t.buffer
    ⟨splitter, rest⟩

/-- The intake after several steps. -/
def run (t : Intake) (steps : List IntakeStep) : Intake :=
  steps.foldl step t

/-- The frame that one step gives, if it gives one. -/
def given (t : Intake) : IntakeStep → List Bytes
  | .feed _ => []
  | .look =>
    match t.look with
    | .ok (some frame) => [frame]
    | _ => []

/-- The frames that several steps give. -/
def frames (t : Intake) : List IntakeStep → List Bytes
  | [] => []
  | s :: rest => t.given s ++ (t.step s).frames rest

/-- Every byte of a stream is accounted for: by a frame that was given out or as pending. -/
structure Accounts (f : Framing) (stream : Bytes) (frames : List Bytes) (t : Intake) : Prop where
  sound : t.splitter.Sound
  framing : t.splitter.framing = f
  fits : ∀ frame ∈ frames, frame.length ≤ f.limit
  total : stream = f.framesBytes frames ++ t.splitter.pending t.buffer

theorem accounts_start (order : ByteOrder) (max : Nat) :
    Accounts (Framing.new order max) [] [] (start order max) where
  sound := Splitter.sound_new (Framing.new_limit_le order max)
  framing := rfl
  fits := by
    intro frame hframe
    cases hframe
  total := rfl

theorem Accounts.after_step {f : Framing} {stream : Bytes} {frames : List Bytes} {t : Intake}
    (h : Accounts f stream frames t) (s : IntakeStep) :
    Accounts f (stream ++ IntakeStep.fed [s]) (frames ++ t.given s) (t.step s) := by
  obtain ⟨sound, rfl, fits, total⟩ := h
  cases s with
  | feed chunk =>
    refine ⟨sound, rfl, ?_, ?_⟩
    · simpa [given] using fits
    · simp [given, step, IntakeStep.fed, total, Splitter.pending_append]
  | look =>
    have hlook := Splitter.look_decode t.splitter t.buffer
    simp only [given, look, step, IntakeStep.fed, List.append_nil]
    generalize t.splitter.decode t.buffer = d at hlook ⊢
    cases hlook with
    | frame frame rest hfits front =>
      refine ⟨Splitter.sound_new sound.limit_le, rfl, ?_, ?_⟩
      · intro x hx
        rcases List.mem_append.mp hx with hold | hnew
        · exact fits x hold
        · rw [List.mem_singleton.mp hnew]
          exact hfits sound
      · rw [total, front, Framing.framesBytes_append, Framing.framesBytes_singleton,
          List.append_assoc]
        rfl
    | wait s' rest hsound hframing same waits =>
      refine ⟨hsound sound, hframing, ?_, ?_⟩
      · simpa using fits
      · rw [total, ← same, List.append_nil]
    | refuse n large =>
      -- Nothing has moved.
      refine ⟨sound, rfl, ?_, ?_⟩
      · simpa using fits
      · rw [total, List.append_nil]

theorem fed_cons (s : IntakeStep) (rest : List IntakeStep) :
    IntakeStep.fed (s :: rest) = IntakeStep.fed [s] ++ IntakeStep.fed rest := by
  cases s <;> simp [IntakeStep.fed]

theorem Accounts.after_run {f : Framing} {stream : Bytes} {frames : List Bytes} {t : Intake}
    (h : Accounts f stream frames t) (steps : List IntakeStep) :
    Accounts f (stream ++ IntakeStep.fed steps) (frames ++ t.frames steps) (t.run steps) := by
  induction steps generalizing stream frames t with
  | nil =>
    rw [Intake.frames, IntakeStep.fed, List.append_nil, List.append_nil]
    exact h
  | cons s rest ih =>
    have hrest := ih (h.after_step s)
    rw [List.append_assoc, List.append_assoc, ← fed_cons] at hrest
    exact hrest

/-- The one-shot reading of all that came in gives the frames that were given out, and goes on with
what is pending. -/
theorem Accounts.parse_eq {f : Framing} {stream : Bytes} {frames : List Bytes} {t : Intake}
    (h : Accounts f stream frames t) :
    f.parse stream =
      ⟨frames ++ (f.parse (t.splitter.pending t.buffer)).frames,
        (f.parse (t.splitter.pending t.buffer)).tail⟩ := by
  have hlimit := h.sound.limit_le
  rw [h.framing] at hlimit
  rw [h.total, Framing.parse_framesBytes_append hlimit h.fits]

/-- However a stream is cut and whenever frames are looked for, they are those of the one-shot
reading of all that came in. The next look gives the next of them; it gives nothing when there is
none left, and an error exactly when the reading stops at a length above the limit. No byte is
lost or given out twice. -/
theorem run_agrees_with_parse (order : ByteOrder) (max : Nat) (steps : List IntakeStep) :
    let f := Framing.new order max
    let whole := f.parse (IntakeStep.fed steps)
    let given := (start order max).frames steps
    let t := (start order max).run steps
    given <+: whole.frames ∧
    IntakeStep.fed steps = f.framesBytes given ++ t.splitter.lengthBytes ++ t.buffer ∧
    (∀ frame, t.look = .ok (some frame) ↔ whole.frames[given.length]? = some frame) ∧
    (t.look = .ok none ↔ given = whole.frames ∧ ∃ rest, whole.tail = .more rest) ∧
    (∀ e, t.look = .error e ↔
      ∃ n rest, given = whole.frames ∧ whole.tail = .tooLarge n rest ∧
        e = .frameTooLarge n (min max Framing.largestLength)) := by
  intro f whole given t
  have h : Accounts f (IntakeStep.fed steps) given t := (accounts_start order max).after_run steps
  have hparse : whole = _ := h.parse_eq
  have hlook := Splitter.look_decode t.splitter t.buffer
  have hlimit := Framing.new_limit_le order max
  have framing : t.splitter.framing = f := h.framing
  have hall : IntakeStep.fed steps = f.framesBytes given ++ t.splitter.lengthBytes ++ t.buffer := by
    rw [List.append_assoc]
    exact h.total
  -- The next look decides what is left of the one-shot reading behind the frames given out so far.
  simp only [look]
  generalize t.splitter.decode t.buffer = d at hlook ⊢
  cases hlook with
  | frame frame rest hfits front =>
    have hfits := hfits h.sound
    rw [framing] at hfits front
    rw [front, Framing.parse_frameBytes_append hlimit hfits] at hparse
    rw [hparse]
    refine ⟨List.prefix_append _ _, hall, ?_, ?_, ?_⟩
    · intro x
      simp
    · simp
    · intro e
      simp
  | wait s' rest hsound hframing same waits =>
    have incomplete := waits.parse_pending (hsound h.sound)
    rw [hframing, framing, same] at incomplete
    rw [incomplete, List.append_nil] at hparse
    rw [hparse]
    refine ⟨List.prefix_rfl, hall, ?_, ?_, ?_⟩
    · intro x
      simp
    · simp
    · intro e
      simp
  | refuse n large =>
    rw [framing] at large
    rw [large, List.append_nil] at hparse
    rw [hparse, framing]
    refine ⟨List.prefix_rfl, hall, ?_, ?_, ?_⟩
    · intro x
      simp
    · simp
    · intro e
      simp [f, Framing.new, eq_comm]

end Intake

end Switchboard
