import Switchboard.Proofs.Session.Mailbox

/-!
# A session and its copies

Whoever may want to reply holds a copy of the session, and copies are made of copies. They share one
mailbox, so a reply goes the same way through each of them, and once the connection is said to be
over through one, it is over for all. That, and the end of the one who takes the replies out, come at
any time and in any order. What they leave is told here by the acts alone.
-/

namespace Switchboard

/-- A session with its copies, and what has gone through their mailbox. -/
structure Correspondence where
  /-- The session itself comes first. -/
  copies : List Session
  mailbox : Mailbox
  /-- The replies that the mailbox took, oldest first. -/
  accepted : List Outbound
  /-- The replies that were taken out of it, oldest first. -/
  delivered : List Outbound

namespace Correspondence

/-- A new session without copies. -/
def start (s : Session) : Correspondence :=
  ⟨[s], .new, [], []⟩

/-- What can be done: by the holder of a copy, or by the one who takes the replies out. -/
inductive Act
  | clone (copy : Nat)
  | reply (copy : Nat) (m : Message)
  | replyRaw (copy : Nat) (r : RawMessage)
  | disconnect (copy : Nat)
  /-- Takes the oldest reply out, if there is one. -/
  | receive
  | dropReceiver

namespace Act

/-- The reply that an act tries to make, and through which copy. -/
def reply? : Act → Option (Nat × Outbound)
  | .reply k m => some (k, .message m)
  | .replyRaw k r => some (k, .raw r)
  | _ => none

def isDisconnect : Act → Bool
  | .disconnect _ => true
  | _ => false

def isReceive : Act → Bool
  | .receive => true
  | _ => false

def isDrop : Act → Bool
  | .dropReceiver => true
  | _ => false

end Act

/-- What an act comes to for the one who acts. -/
inductive Outcome
  | done
  | refused (e : ConnectionError)
  | received (o : Option Outbound)

/-- A reply that was taken into the mailbox or refused. -/
def posted (t : Correspondence) (o : Outbound) :
    Except ConnectionError Mailbox → Outcome × Correspondence
  | .ok m => (.done, { t with mailbox := m, accepted := t.accepted ++ [o] })
  | .error e => (.refused e, t)

/-- What an act comes to and leaves behind; none if there is no such copy. -/
def act? (t : Correspondence) : Act → Option (Outcome × Correspondence)
  | .clone k => t.copies[k]?.map fun s => (.done, { t with copies := t.copies ++ [s] })
  | .reply k m => t.copies[k]?.map fun _ => t.posted (.message m) (t.mailbox.reply m)
  | .replyRaw k r => t.copies[k]?.map fun _ => t.posted (.raw r) (t.mailbox.replyRaw r)
  | .disconnect k =>
    t.copies[k]?.map fun _ => (.done, { t with mailbox := t.mailbox.disconnect })
  | .receive =>
    let (o, mailbox) := t.mailbox.receive
    some (.received o, { t with mailbox := mailbox, delivered := t.delivered ++ o.toList })
  | .dropReceiver => some (.done, { t with mailbox := t.mailbox.dropReceiver })

/-- What several acts leave behind. -/
def run? (t : Correspondence) (acts : List Act) : Option Correspondence :=
  acts.foldlM (fun t a => (t.act? a).map Prod.snd) t

/-- Whether the connection is still there, as seen through a copy. -/
def isConnected? (t : Correspondence) (copy : Nat) : Option Bool :=
  t.copies[copy]?.map fun _ => t.mailbox.connected

variable {s : Session} {acts more : List Act} {a : Act} {t t' : Correspondence} {r : Outcome}
  {o : Outbound}

/-- Both kinds of replies go the same way. -/
theorem act?_of_reply {k : Nat} (h : a.reply? = some (k, o)) :
    t.act? a = t.copies[k]?.map fun _ => t.posted o (t.mailbox.send o) := by
  cases a <;> cases h <;> rfl

theorem run?_cons (t : Correspondence) (a : Act) (rest : List Act) :
    t.run? (a :: rest) = (t.act? a).bind fun p => p.2.run? rest := by
  rw [run?, List.foldlM_cons]
  rcases t.act? a with _ | p <;> rfl

/-! ## What an act leaves behind -/

/-- Every act, by what it does to the mailbox. -/
inductive Effect (t : Correspondence) : Act → Outcome → Correspondence → Prop
  | clone {k : Nat} {s : Session} (held : t.copies[k]? = some s) :
      Effect t (.clone k) .done { t with copies := t.copies ++ [s] }
  | taken {a : Act} {k : Nat} {o : Outbound} (replies : a.reply? = some (k, o))
      (opened : t.mailbox.Open) :
      Effect t a .done { t with mailbox := t.mailbox.enqueue [o], accepted := t.accepted ++ [o] }
  | refused {a : Act} {k : Nat} {o : Outbound} {e : ConnectionError}
      (replies : a.reply? = some (k, o)) (shut : ¬ t.mailbox.Open) : Effect t a (.refused e) t
  | disconnect {k : Nat} :
      Effect t (.disconnect k) .done { t with mailbox := t.mailbox.disconnect }
  | receive {o : Outbound} {rest : List Outbound} (queue : t.mailbox.queue = o :: rest) :
      Effect t .receive (.received (some o))
        { t with
          mailbox := { t.mailbox with queue := rest }
          delivered := t.delivered ++ [o] }
  | empty (queue : t.mailbox.queue = []) : Effect t .receive (.received none) t
  | dropReceiver : Effect t .dropReceiver .done { t with mailbox := t.mailbox.dropReceiver }

theorem effect_of_reply {k : Nat} (hreply : a.reply? = some (k, o))
    (h : t.act? a = some (r, t')) : Effect t a r t' := by
  rw [act?_of_reply hreply] at h
  obtain ⟨_, -, h⟩ := Option.map_eq_some_iff.mp h
  rcases hsend : t.mailbox.send o with e | m
  · rw [hsend] at h
    cases h
    refine .refused hreply ?_
    intro hopen
    rw [hopen.send_eq] at hsend
    cases hsend
  · rw [hsend] at h
    cases h
    obtain ⟨hopen, rfl⟩ := Mailbox.open_of_send hsend
    exact .taken hreply hopen

theorem effect_of_act (h : t.act? a = some (r, t')) : Effect t a r t' := by
  cases a with
  | clone k =>
    obtain ⟨s, hs, h⟩ := Option.map_eq_some_iff.mp h
    cases h
    exact .clone hs
  | reply k m => exact effect_of_reply rfl h
  | replyRaw k r => exact effect_of_reply rfl h
  | disconnect k =>
    obtain ⟨_, -, h⟩ := Option.map_eq_some_iff.mp h
    cases h
    exact .disconnect
  | receive =>
    rcases hqueue : t.mailbox.queue with _ | ⟨o, rest⟩
    · rw [act?, Mailbox.receive, hqueue] at h
      cases h
      show Effect t .receive (.received none) { t with delivered := t.delivered ++ [] }
      rw [List.append_nil]
      exact .empty hqueue
    · rw [act?, Mailbox.receive, hqueue] at h
      cases h
      exact .receive hqueue
  | dropReceiver =>
    cases h
    exact .dropReceiver

/-! ## What is known from the acts alone -/

/-- The state of a mailbox, and where its replies are, after some acts. -/
structure Keeps (s : Session) (acts : List Act) (t : Correspondence) : Prop where
  same : ∀ c ∈ t.copies, c = s
  connected : t.mailbox.connected = !acts.any Act.isDisconnect
  received : t.mailbox.received = !acts.any Act.isDrop
  inOrder : t.delivered ++ t.mailbox.queue <+: t.accepted
  waiting : acts.any Act.isDrop = false → t.accepted = t.delivered ++ t.mailbox.queue

theorem keeps_start (s : Session) : Keeps s [] (start s) where
  same := by
    intro c hc
    exact List.mem_singleton.mp hc
  connected := rfl
  received := rfl
  inOrder := List.prefix_rfl
  waiting := fun _ => rfl

/-- A reply is nothing else. -/
theorem only_reply {k : Nat} (h : a.reply? = some (k, o)) :
    a.isDisconnect = false ∧ a.isReceive = false ∧ a.isDrop = false := by
  cases a <;> cases h <;> exact ⟨rfl, rfl, rfl⟩

/-- An act that neither ends the connection nor drops the receiver leaves both as they were. -/
theorem Keeps.quiet (h : Keeps s acts t) (hdisconnect : a.isDisconnect = false)
    (hdrop : a.isDrop = false) (hsame : ∀ c ∈ t'.copies, c = s)
    (hconnected : t'.mailbox.connected = t.mailbox.connected)
    (hreceived : t'.mailbox.received = t.mailbox.received)
    (hinOrder : t'.delivered ++ t'.mailbox.queue <+: t'.accepted)
    (hwaiting : t.accepted = t.delivered ++ t.mailbox.queue →
      t'.accepted = t'.delivered ++ t'.mailbox.queue) : Keeps s (acts ++ [a]) t' where
  same := hsame
  connected := by
    rw [hconnected, h.connected]
    simp [hdisconnect]
  received := by
    rw [hreceived, h.received]
    simp [hdrop]
  inOrder := hinOrder
  waiting := by
    intro hkept
    apply hwaiting
    apply h.waiting
    simpa [hdrop] using hkept

theorem Keeps.step (h : Keeps s acts t) (heffect : Effect t a r t') :
    Keeps s (acts ++ [a]) t' := by
  cases heffect with
  | @clone k c held =>
    refine h.quiet rfl rfl ?_ rfl rfl h.inOrder id
    intro d hd
    rcases List.mem_append.mp hd with hold | hnew
    · exact h.same d hold
    · rw [List.mem_singleton.mp hnew]
      exact h.same c (List.mem_of_getElem? held)
  | @taken _ _ o replies opened =>
    obtain ⟨hdisconnect, -, hdrop⟩ := only_reply replies
    -- Somebody takes the replies out, so the ones before are all delivered or waiting.
    have hkept : acts.any Act.isDrop = false := by
      have hreceived := h.received
      rw [opened.2] at hreceived
      simpa using hreceived.symm
    have hall : t.accepted ++ [o] = t.delivered ++ (t.mailbox.queue ++ [o]) := by
      rw [h.waiting hkept, List.append_assoc]
    refine h.quiet hdisconnect hdrop h.same rfl rfl ?_ fun _ => hall
    rw [hall]
    exact List.prefix_rfl
  | refused replies shut =>
    obtain ⟨hdisconnect, -, hdrop⟩ := only_reply replies
    exact h.quiet hdisconnect hdrop h.same rfl rfl h.inOrder id
  | disconnect =>
    refine ⟨h.same, ?_, ?_, h.inOrder, ?_⟩
    · simp [Mailbox.disconnect, Act.isDisconnect]
    · show t.mailbox.received = _
      rw [h.received]
      simp [Act.isDrop]
    · intro hkept
      apply h.waiting
      simpa [Act.isDrop] using hkept
  | @receive o rest queue =>
    have hmoved : t.delivered ++ t.mailbox.queue = t.delivered ++ [o] ++ rest := by
      rw [queue, List.append_cons]
    refine h.quiet rfl rfl h.same rfl rfl ?_ fun hall => hall.trans hmoved
    show t.delivered ++ [o] ++ rest <+: t.accepted
    rw [← hmoved]
    exact h.inOrder
  | empty queue => exact h.quiet rfl rfl h.same rfl rfl h.inOrder id
  | dropReceiver =>
    refine ⟨h.same, ?_, ?_, ?_, ?_⟩
    · show t.mailbox.connected = _
      rw [h.connected]
      simp [Act.isDisconnect]
    · simp [Mailbox.dropReceiver, Act.isDrop]
    · show t.delivered ++ [] <+: t.accepted
      rw [List.append_nil]
      exact (List.prefix_append _ _).trans h.inOrder
    · intro hkept
      simp [Act.isDrop] at hkept

/-- What holds at the start of some acts, and is kept by each of them, holds at their end. -/
theorem run_induction (acts : List Act) {motive : List Act → Correspondence → Prop}
    (keep : ∀ {acts t a r t'}, motive acts t → Effect t a r t' → motive (acts ++ [a]) t')
    (h : motive acts t) (hrun : t.run? more = some t') : motive (acts ++ more) t' := by
  induction more generalizing acts t with
  | nil =>
    cases hrun
    rw [List.append_nil]
    exact h
  | cons a rest ih =>
    rw [run?_cons] at hrun
    obtain ⟨⟨r, mid⟩, ha, hrest⟩ := Option.bind_eq_some_iff.mp hrun
    rw [List.append_cons]
    exact ih _ (keep h (effect_of_act ha)) hrest

theorem Keeps.run (h : Keeps s acts t) (hrun : t.run? more = some t') :
    Keeps s (acts ++ more) t' :=
  run_induction acts (motive := Keeps s) (fun h heffect => h.step heffect) h hrun

/-! ## The way of a reply through the mailbox -/

/-- What waits keeps its place until it is delivered, and every receive delivers one reply. -/
structure Drains (t : Correspondence) (acts : List Act) (t' : Correspondence) : Prop where
  onward : t.delivered ++ t.mailbox.queue <+: t'.delivered ++ t'.mailbox.queue
  pace : t.delivered.length + min t.mailbox.queue.length (acts.countP Act.isReceive) ≤
    t'.delivered.length

theorem drains_nil (t : Correspondence) : Drains t [] t where
  onward := List.prefix_rfl
  pace := by simp

/-- An act that delivers nothing, and that is not asked to. -/
theorem Drains.idle {mid : Correspondence} (h : Drains t acts mid) (hreceive : a.isReceive = false)
    (hqueue : mid.mailbox.queue <+: t'.mailbox.queue) (hdelivered : t'.delivered = mid.delivered) :
    Drains t (acts ++ [a]) t' where
  onward := by
    rw [hdelivered]
    exact h.onward.trans ((List.prefix_append_right_inj _).mpr hqueue)
  pace := by
    rw [hdelivered, List.countP_append, List.countP_singleton, hreceive]
    exact h.pace

theorem Drains.step {mid : Correspondence} (h : Drains t acts mid) (heffect : Effect mid a r t')
    (hdrop : a.isDrop = false) : Drains t (acts ++ [a]) t' := by
  cases heffect with
  | clone held => exact h.idle rfl List.prefix_rfl rfl
  | taken replies opened =>
    exact h.idle (only_reply replies).2.1 (List.prefix_append _ _) rfl
  | refused replies shut => exact h.idle (only_reply replies).2.1 List.prefix_rfl rfl
  | disconnect => exact h.idle rfl List.prefix_rfl rfl
  | @receive o rest queue =>
    refine ⟨?_, ?_⟩
    · show _ <+: mid.delivered ++ [o] ++ rest
      rw [List.append_assoc, List.singleton_append, ← queue]
      exact h.onward
    · have hpace := h.pace
      simp only [List.countP_append, List.countP_singleton, Act.isReceive, if_true,
        List.length_append, List.length_singleton]
      omega
  | empty queue =>
    -- Everything that waited has been delivered, however often it was asked for.
    have hall : t.delivered.length + t.mailbox.queue.length ≤ t'.delivered.length := by
      simpa [queue] using h.onward.length_le
    exact ⟨h.onward, by omega⟩
  | dropReceiver => cases hdrop

theorem drains_of_run (hrun : t.run? more = some t') (hdrop : more.any Act.isDrop = false) :
    Drains t more t' := by
  refine run_induction [] (motive := fun done t' =>
    done.any Act.isDrop = false → Drains t done t') ?_ (fun _ => drains_nil t) hrun hdrop
  intro done mid a r t' ih heffect hdrop
  simp only [List.any_append, List.any_cons, List.any_nil, Bool.or_false, Bool.or_eq_false_iff]
    at hdrop
  exact (ih hdrop.1).step heffect hdrop.2

/-- As many receives as replies wait deliver all of them. -/
theorem Drains.all (h : Drains t acts t')
    (henough : t.mailbox.queue.length ≤ acts.countP Act.isReceive) :
    t.delivered ++ t.mailbox.queue <+: t'.delivered := by
  apply List.prefix_of_prefix_length_le h.onward (List.prefix_append _ _)
  have hpace := h.pace
  rw [List.length_append]
  omega

/-- Nothing is taken once the connection is over. -/
theorem accepted_of_disconnected (hover : t.mailbox.connected = false)
    (hrun : t.run? more = some t') : t'.accepted = t.accepted := by
  refine (run_induction [] (motive := fun _ t' =>
    t'.mailbox.connected = false ∧ t'.accepted = t.accepted) ?_ ⟨hover, rfl⟩ hrun).2
  intro _ mid a r t' hmid heffect
  cases heffect with
  | taken replies opened =>
    rw [opened.1] at hmid
    cases hmid.1
  | disconnect => exact ⟨rfl, hmid.2⟩
  | _ => exact hmid

/-! ## Sessions and their copies -/

/-- What a reply comes to after some acts. That the connection is over is said first, and a refused
reply changes nothing. -/
def answer (acts : List Act) (t : Correspondence) (o : Outbound) : Outcome × Correspondence :=
  if acts.any Act.isDisconnect then (.refused .closed, t)
  else if acts.any Act.isDrop then (.refused .sendChannelClosed, t)
  else (.done, { t with mailbox := t.mailbox.enqueue [o], accepted := t.accepted ++ [o] })

/-- What holds of a session and its copies after some acts. -/
structure Orderly (s : Session) (acts : List Act) (t : Correspondence) : Prop where
  /-- All copies are of the one session. -/
  same : ∀ c ∈ t.copies, c = s
  /-- What was delivered is what was taken first, each reply once. -/
  inOrder : t.delivered <+: t.accepted
  /-- Nothing is lost: what was taken and not delivered waits, in its order. -/
  waiting : acts.any Act.isDrop = false → t.accepted = t.delivered ++ t.mailbox.queue
  /-- All that was taken is delivered if it is asked for often enough, even if the connection is
  over by then. -/
  arrives : ∀ more t', t.run? more = some t' → (acts ++ more).any Act.isDrop = false →
    t.mailbox.queue.length ≤ more.countP Act.isReceive → t.accepted <+: t'.delivered
  /-- Every copy knows if the connection was said to be over through any. -/
  connected : ∀ k < t.copies.length, t.isConnected? k = some !acts.any Act.isDisconnect
  /-- A reply comes to the same through every copy. -/
  reply : ∀ a k o, a.reply? = some (k, o) → k < t.copies.length →
    t.act? a = some (answer acts t o)
  /-- Once the connection is over, no reply is ever taken again. -/
  closed : acts.any Act.isDisconnect = true →
    ∀ more t', t.run? more = some t' → t'.accepted = t.accepted

theorem Keeps.posted_send (h : Keeps s acts t) (o : Outbound) :
    t.posted o (t.mailbox.send o) = answer acts t o := by
  have hconnected := h.connected
  have hreceived := h.received
  unfold answer
  split
  · next hover =>
    rw [hover] at hconnected
    rw [Mailbox.send_of_disconnected hconnected, posted]
  · next hover =>
    rw [Bool.eq_false_iff.mpr hover] at hconnected
    split
    · next hdropped =>
      rw [hdropped] at hreceived
      rw [Mailbox.send_of_unreceived hconnected hreceived, posted]
    · next hdropped =>
      rw [Bool.eq_false_iff.mpr hdropped] at hreceived
      have hopen : t.mailbox.Open := ⟨hconnected, hreceived⟩
      rw [hopen.send_eq, posted]

/-- Whatever is done with a session and its copies, the replies keep their order, and the copies
agree on when the connection is over. -/
theorem orderly_of_run (s : Session) (acts : List Act) (t : Correspondence)
    (h : (start s).run? acts = some t) : Orderly s acts t := by
  have hkeeps : Keeps s acts t := (keeps_start s).run h
  refine ⟨hkeeps.same, (List.prefix_append _ _).trans hkeeps.inOrder, hkeeps.waiting, ?_, ?_, ?_,
    ?_⟩
  case refine_1 =>
    intro more t' hrun hdrop henough
    rw [List.any_append, Bool.or_eq_false_iff] at hdrop
    rw [hkeeps.waiting hdrop.1]
    exact (drains_of_run hrun hdrop.2).all henough
  case refine_2 =>
    intro k hk
    rw [isConnected?, List.getElem?_eq_getElem hk, Option.map_some, hkeeps.connected]
  case refine_3 =>
    intro a k o hreply hk
    rw [act?_of_reply hreply, List.getElem?_eq_getElem hk, Option.map_some, hkeeps.posted_send]
  case refine_4 =>
    intro hover more t' hrun
    apply accepted_of_disconnected _ hrun
    rw [hkeeps.connected, hover]
    rfl

/-- A caller on the same machine. -/
def caller : Session :=
  ⟨.ofRandom 0, ⟨.v4 127 0 0 1, 1⟩⟩

/-- Replies are made through the session and through a copy of it. The connection is said to be over
while both wait. -/
def lateReplies : List Act :=
  [.clone 0, .replyRaw 0 ⟨1, [10]⟩, .replyRaw 1 ⟨2, [20]⟩, .disconnect 1, .replyRaw 0 ⟨3, [30]⟩,
    .receive, .receive, .receive, .dropReceiver, .replyRaw 1 ⟨4, [40]⟩]

/-- Those that waited are delivered, and no others. -/
def afterLateReplies : Correspondence where
  copies := [caller, caller]
  mailbox := ⟨false, false, []⟩
  accepted := [.raw ⟨1, [10]⟩, .raw ⟨2, [20]⟩]
  delivered := [.raw ⟨1, [10]⟩, .raw ⟨2, [20]⟩]

theorem orderly_of_lateReplies :
    (start caller).run? lateReplies = some afterLateReplies ∧
      Orderly caller lateReplies afterLateReplies :=
  ⟨rfl, orderly_of_run caller lateReplies afterLateReplies rfl⟩

end Correspondence

end Switchboard
