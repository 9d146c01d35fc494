import Switchboard.Proofs.Framing.Intake

/-!
# Lengths that are refused

A length above the limit is not taken off the buffer. It stands at the front of whatever comes in
behind it, so the next look finds it again, and every look after that: once a length was refused, a
stream gives no more frames, and none can be made out of the bytes behind it. A look that found
nothing is repeated without effect, too, although it may have taken a length.
-/

namespace Switchboard

/-- The length at the front of a stream does not depend on what follows it. -/
theorem Framing.lengthAt?_append {f : Framing} {bs rest : Bytes} {n : Nat}
    (h : f.lengthAt? bs = some (n, rest)) (more : Bytes) :
    f.lengthAt? (bs ++ more) = some (n, rest ++ more) := by
  obtain ⟨m, rfl, rfl⟩ := lengthAt?_eq_some h
  rw [List.append_assoc]
  exact lengthAt?_encode32 f m (rest ++ more)

namespace Splitter

/-- A length above the limit stands at the front of the buffer. -/
structure Blocked (s : Splitter) (buffer : Bytes) (n : Nat) : Prop where
  unannounced : s.announced = none
  length : ∃ rest, s.framing.lengthAt? buffer = some (n, rest)
  large : s.framing.limit < n

variable {s : Splitter} {buffer : Bytes} {n : Nat}

/-- A length that is refused is neither taken nor remembered. -/
theorem Blocked.decode (h : s.Blocked buffer n) :
    s.decode buffer = (.error (.frameTooLarge n s.framing.limit), s, buffer) := by
  obtain ⟨rest, hat⟩ := h.length
  rw [decode_of_length h.unannounced hat, if_pos h.large]

theorem Blocked.append (h : s.Blocked buffer n) (more : Bytes) : s.Blocked (buffer ++ more) n where
  unannounced := h.unannounced
  length := by
    obtain ⟨rest, hat⟩ := h.length
    exact ⟨rest ++ more, Framing.lengthAt?_append hat more⟩
  large := h.large

/-- Nothing else makes a look fail. -/
theorem blocked_of_error {e : ConnectionError} (h : (s.decode buffer).1 = .error e) :
    ∃ n, s.Blocked buffer n ∧ e = .frameTooLarge n s.framing.limit := by
  -- With a length taken, a look gives its frame or waits for it.
  rcases hann : s.announced with _ | n
  · rcases hat : s.framing.lengthAt? buffer with _ | ⟨n, rest⟩
    · rw [decode_of_short hann hat] at h
      cases h
    · by_cases hlarge : s.framing.limit < n
      · have hblocked : s.Blocked buffer n := ⟨hann, ⟨rest, hat⟩, hlarge⟩
        rw [hblocked.decode] at h
        cases h
        exact ⟨n, hblocked, rfl⟩
      · have htaken : (s.announce n).announced = some n := rfl
        rw [decode_of_length hann hat, if_neg hlarge, decode_of_announced htaken] at h
        split at h <;> cases h
  · rw [decode_of_announced hann] at h
    split at h <;> cases h

end Splitter

namespace Intake

variable {t : Intake} {n : Nat}

/-! ## Behind a refused length -/

/-- Whatever is done, what comes in only piles up behind the length. -/
theorem step_of_blocked (h : t.splitter.Blocked t.buffer n) (s : IntakeStep) :
    t.step s = { t with buffer := t.buffer ++ IntakeStep.fed [s] } ∧ t.given s = [] := by
  cases s with
  | feed chunk =>
    rw [IntakeStep.fed, IntakeStep.fed, List.append_nil]
    exact ⟨rfl, rfl⟩
  | look =>
    rw [IntakeStep.fed, IntakeStep.fed, List.append_nil, step, given, look, h.decode]
    exact ⟨rfl, rfl⟩

theorem run_of_blocked (h : t.splitter.Blocked t.buffer n) (steps : List IntakeStep) :
    t.run steps = { t with buffer := t.buffer ++ IntakeStep.fed steps } ∧ t.frames steps = [] := by
  induction steps generalizing t with
  | nil =>
    rw [IntakeStep.fed, List.append_nil]
    exact ⟨rfl, rfl⟩
  | cons s rest ih =>
    obtain ⟨hstep, hgiven⟩ := step_of_blocked h s
    have hblocked : (t.step s).splitter.Blocked (t.step s).buffer n := by
      rw [hstep]
      exact h.append _
    obtain ⟨hrun, hframes⟩ := ih hblocked
    constructor
    · rw [run, List.foldl_cons, ← run, hrun, hstep, fed_cons s rest, List.append_assoc]
    · rw [frames, hgiven, hframes, List.append_nil]

/-! ## What a look leaves for the next one -/

/-- A length was refused, and always will be. -/
structure Refuses (order : ByteOrder) (max l m : Nat) (t : Intake) : Prop where
  /-- The length that is refused is the one in front of the bytes that were not given out. -/
  announced : t.splitter.announced = none ∧
    ∃ rest, (Framing.new order max).lengthAt? t.buffer = some (l, rest)
  cap : m = min max Framing.largestLength
  large : m < l
  same : t.step .look = t
  again : ∀ more, (t.run more).look = .error (.frameTooLarge l m)
  nothing : ∀ more, t.frames more = []
  /-- All that comes in stays as it is. -/
  piles : ∀ more, t.run more = { t with buffer := t.buffer ++ IntakeStep.fed more }

/-- Nothing is there to be given, and looking does not change that. -/
structure Idles (t : Intake) : Prop where
  nothing : t.look = .ok none
  same : t.step .look = t

theorem refuses_of_blocked {order : ByteOrder} {max : Nat}
    (hframing : t.splitter.framing = Framing.new order max)
    (h : t.splitter.Blocked t.buffer n) :
    Refuses order max n t.splitter.framing.limit t where
  announced := by
    rw [← hframing]
    exact ⟨h.unannounced, h.length⟩
  cap := congrArg Framing.limit hframing
  large := h.large
  same := by
    rw [(step_of_blocked h .look).1]
    exact congrArg (Intake.mk t.splitter) (List.append_nil t.buffer)
  again := by
    intro more
    rw [(run_of_blocked h more).1, look, (h.append _).decode]
  nothing := fun more => (run_of_blocked h more).2
  piles := fun more => (run_of_blocked h more).1

theorem idles_of_waits (h : t.splitter.Waits t.buffer) : Idles t where
  nothing := by rw [look, h.decode]
  same := by rw [step, h.decode]

/-- A look that found nothing leaves what it waits with. -/
theorem waits_of_look (h : t.look = .ok none) :
    (t.step .look).splitter.Waits (t.step .look).buffer := by
  have hlook := Splitter.look_decode t.splitter t.buffer
  unfold look at h
  rw [step]
  generalize t.splitter.decode t.buffer = d at h hlook ⊢
  obtain ⟨result, splitter, rest⟩ := d
  cases h
  exact hlook.of_none.2.2.2

/-- However a stream came in so far: if the next look is refused, then so is every later one, in the
same words, and no frame is given any more, whatever comes in behind. If it finds nothing, then the
look after it does not either, and changes nothing. -/
theorem settled_of_run (order : ByteOrder) (max : Nat) (before : List IntakeStep) :
    let t := (start order max).run before
    (∀ l m, t.look = .error (.frameTooLarge l m) → Refuses order max l m t) ∧
      (t.look = .ok none → Idles (t.step .look)) := by
  intro t
  have haccounts := (accounts_start order max).after_run before
  constructor
  · intro l m hlook
    obtain ⟨n, hblocked, he⟩ := Splitter.blocked_of_error hlook
    cases he
    exact refuses_of_blocked haccounts.framing hblocked
  · intro hlook
    exact idles_of_waits (waits_of_look hlook)

/-- A length of 256 bytes behind a frame, where 16 are allowed; and a length of five with one byte
of its frame, which the first look takes. -/
theorem settled_of_twoStreams :
    let full := (start .big 16).run [.feed [0, 0, 0, 1, 7, 0, 0], .look, .feed [1, 0]]
    let short := (start .big 16).run [.feed [0, 0, 0, 5, 1]]
    (full.look = .error (.frameTooLarge 256 16) ∧ Refuses .big 16 256 16 full) ∧
      short.look = .ok none ∧ short.step .look ≠ short ∧ Idles (short.step .look) := by
  intro full short
  have hfull : full.look = .error (.frameTooLarge 256 16) := rfl
  have hshort : short.look = .ok none := rfl
  exact ⟨⟨hfull, (settled_of_run .big 16 _).1 256 16 hfull⟩, hshort, by decide,
    (settled_of_run .big 16 _).2 hshort⟩

end Intake

end Switchboard
