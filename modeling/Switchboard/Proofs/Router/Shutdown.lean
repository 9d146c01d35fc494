import Switchboard.Proofs.Router.Workers

/-!
# Asking for a shutdown

The loop closes the queue when it gets to it. Once a shutdown was asked for and the router has come
to rest, the loop has done so, or has found that nobody is left who could submit; then every further
submission is turned away. There is one exception: the loop may have been waiting for a worker when
it was told. While all workers are held up at the gate it goes on waiting, the queue stays open, and
what is submitted then is run as if nobody had asked.
-/

namespace Switchboard

variable {L C : Type}

namespace Router

variable {r r' : Router L C} {a : RouterAct C} {b : RouterBuilder L} {t : Ticket C}

/-- Whether the loop waits for a worker before it can look at anything else, with the queue open. -/
def HeldUp (r : Router L C) : Prop :=
  ∃ route t, r.loop = .waiting route t false

/-- Every submission from here on is refused, and no job is started for it, whatever happens before
and after it. -/
def TurnsAway (r : Router L C) : Prop :=
  ∀ before mid s after r', r.run? before = some mid → mid.run? (.submit s :: after) = some r' →
    .refused ⟨mid.submitted, s⟩ ∈ r'.trace ∧ ⟨mid.submitted, s⟩ ∉ r'.startedTickets

/-- A submission made here is not refused, whatever happens after it. When the loop ends its job has
started, if its route is for its own type. -/
def LetsIn (r : Router L C) : Prop :=
  ∀ s after r', r.run? (.submit s :: after) = some r' →
    .refused ⟨r.submitted, s⟩ ∉ r'.trace ∧
      (r'.hasEnded = true → ∀ route, r.routes.find? s.tag = some route →
        s.message.is route.schema = true → ⟨r.submitted, s⟩ ∈ r'.startedTickets)

/-! ## At the door -/

/-- The queue is closed only by a loop that is about to leave. -/
def ClosedLeaving (r : Router L C) : Prop :=
  r.closed = true → r.loop.isLeaving = true

theorem ClosedLeaving.after_waiting (h : r.ClosedLeaving) {route : Route L} {draining : Bool}
    (waiting : r.loop = .waiting route t draining) (hclosed : r.closed = true) :
    LoopState.isLeaving (if draining then .draining else .idle : LoopState L C) = true := by
  have hleaving := h hclosed
  rw [waiting] at hleaving
  exact (isLeaving_after draining).trans hleaving

theorem ClosedLeaving.step (h : r.ClosedLeaving) (hstep : Step r a r') : r'.ClosedLeaving := by
  cases hstep with
  | close idle notified => exact fun _ => rfl
  | @notice panicked rest noticing results =>
    cases panicked with
    | false => exact h
    | true => exact h
  | take taking queue found =>
    unfold ClosedLeaving at h
    rw [isLeaving_of_taking taking] at h
    exact h
  | dropMismatched waiting worker wrong => exact h.after_waiting waiting
  | spawn waiting worker right => exact h.after_waiting waiting
  | stopTaking queue last => exact fun _ => rfl
  | finish joining ready held results => exact fun _ => rfl
  | _ => exact h

theorem closedLeaving_spawn (b : RouterBuilder L) : (b.spawn : Router L C).ClosedLeaving := by
  intro hclosed
  cases hclosed

theorem closedLeaving_of_run {acts : List (RouterAct C)} (hrun : b.spawn.run? acts = some r) :
    r.ClosedLeaving :=
  kept_of_run ClosedLeaving.step (closedLeaving_spawn b) hrun

theorem HeldUp.closed_eq_false (h : r.HeldUp) (hr : r.ClosedLeaving) : r.closed = false := by
  obtain ⟨route, t, hloop⟩ := h
  by_contra hclosed
  have hleaving := hr (eq_true_of_ne_false hclosed)
  rw [hloop] at hleaving
  cases hleaving

/-- Nothing more comes in: the queue is closed, or nobody can submit. -/
def Shut (r : Router L C) : Prop :=
  r.closed = true ∨ r.hasSender = false

theorem Shut.step (h : r.Shut) (hstep : Step r a r') : r'.Shut := by
  rcases h with hclosed | hsender
  · exact .inl (hstep.closed_iff.mpr (.inl hclosed))
  · refine .inr ?_
    cases hstep with
    | notice noticing results => split <;> exact hsender
    | dropSender => rfl
    | _ => exact hsender

theorem Shut.run {acts : List (RouterAct C)} (h : r.Shut) (hrun : r.run? acts = some r') :
    r'.Shut :=
  kept_of_run Shut.step h hrun

/-- Whether a ticket is refused is settled as it comes in. -/
theorem refused_iff_of_run {acts : List (RouterAct C)} (ht : t.number < r.submitted)
    (hrun : r.run? acts = some r') : .refused t ∈ r'.trace ↔ .refused t ∈ r.trace := by
  have h : t.number < r'.submitted ∧ (.refused t ∈ r'.trace ↔ .refused t ∈ r.trace) := by
    refine kept_of_run (P := fun r' => t.number < r'.submitted ∧ (.refused t ∈ r'.trace ↔ _)) ?_
      ⟨ht, Iff.rfl⟩ hrun
    intro mid a next h hstep
    -- Only the newest ticket can be refused, and this one is older.
    refine ⟨?_, ?_⟩
    · rw [hstep.submitted]
      exact Nat.lt_add_right _ h.1
    · rw [hstep.refused_iff, h.2]
      constructor
      · rintro (hold | ⟨-, hnumber, -⟩)
        · exact hold
        · exact absurd hnumber (Nat.ne_of_lt h.1)
      · exact .inl
  exact h.2

theorem mem_dropped_of_refused (h : .refused t ∈ r.trace) : t ∈ r.dropped :=
  List.mem_filterMap.mpr ⟨_, h, rfl⟩

/-- A submission is refused when it finds the queue closed, and only then. -/
theorem Sound.refused_iff_closed {acts after : List (RouterAct C)} {s : Submission C}
    (h : Sound b acts r) (hrun : r.run? (.submit s :: after) = some r') :
    .refused ⟨r.submitted, s⟩ ∈ r'.trace ↔ r.closed = true := by
  obtain ⟨mid, hact, hafter⟩ := run?_cons hrun
  have hstep := step_of_act hact
  have hlt : r.submitted < mid.submitted := by
    rw [hstep.submitted]
    exact Nat.lt_add_one _
  -- The ticket is a new one.
  have hnew : .refused ⟨r.submitted, s⟩ ∉ r.trace := by
    intro hrefused
    have hmem := List.mem_append_left (r.startedTickets ++ r.undecided)
      (mem_dropped_of_refused hrefused)
    have hnumber := number_lt_of_mem_tickets (h.booked.perm.subset hmem)
    rw [← h.booked.submitted] at hnumber
    exact Nat.lt_irrefl _ hnumber
  rw [refused_iff_of_run (t := ⟨r.submitted, s⟩) hlt hafter, hstep.refused_iff]
  simp [hnew]

theorem Booked.not_started_of_refused {acts : List (RouterAct C)} (h : Booked acts r)
    (ht : .refused t ∈ r.trace) : t ∉ r.startedTickets := by
  intro hstarted
  have hdisjoint := (List.nodup_append.mp h.nodup).2.2
  exact hdisjoint t (mem_dropped_of_refused ht) t (List.mem_append_left _ hstarted) rfl

theorem Shut.turnsAway {acts : List (RouterAct C)} (h : r.Shut) (hsound : Sound b acts r) :
    r.TurnsAway := by
  intro before mid s after r' hbefore hafter
  have hmid := hsound.run hbefore
  obtain ⟨next, hact, -⟩ := run?_cons hafter
  have hsender : mid.hasSender = true := by
    cases step_of_act hact with
    | refuse sender closed => exact sender
    | enqueue sender not_closed => exact sender
  have hclosed : mid.closed = true := (h.run hbefore).resolve_right (by simp [hsender])
  have hrefused := (hmid.refused_iff_closed hafter).mpr hclosed
  exact ⟨hrefused, (hmid.run hafter).booked.not_started_of_refused hrefused⟩

theorem mem_tickets_of_submit (acts after : List (RouterAct C)) (s : Submission C) :
    ⟨(submissions acts).length, s⟩ ∈ tickets (acts ++ .submit s :: after) := by
  have hsubmissions : submissions (acts ++ .submit s :: after)
      = submissions acts ++ s :: submissions after := List.filterMap_append
  rw [tickets, hsubmissions, List.mapIdx_append]
  exact List.mem_append_right _ (by simp)

theorem Sound.letsIn {acts : List (RouterAct C)} (h : Sound b acts r)
    (hopen : r.closed = false) : r.LetsIn := by
  intro s after r' hrun
  have hnot : .refused ⟨r.submitted, s⟩ ∉ r'.trace := by
    rw [h.refused_iff_closed hrun, hopen]
    exact Bool.false_ne_true
  refine ⟨hnot, ?_⟩
  intro hended route hfound hright
  have hend := h.run hrun
  have hmem := mem_tickets_of_submit acts after s
  rw [← h.booked.submitted] at hmem
  have hplace := hend.booked.perm.symm.subset hmem
  rw [(hend.tidy.of_ended hended).1, List.append_nil] at hplace
  rcases List.mem_append.mp hplace with hdropped | hstarted
  · -- There is no reason to drop it.
    obtain ⟨e, he, hticket⟩ := List.mem_filterMap.mp hdropped
    have hreason := hend.follows.trace e he
    rw [h.follows.routes] at hfound
    cases e with
    | refused t =>
      cases hticket
      exact absurd he hnot
    | unrouted t =>
      cases hticket
      cases hfound.symm.trans hreason
    | mismatched other t =>
      cases hticket
      cases hfound.symm.trans hreason.1
      cases hright.symm.trans hreason.2
    | started j => cases hticket
    | done j => cases hticket
    | failed => cases hticket
  · exact hstarted

/-! ## At rest -/

theorem AtRest.notified (h : r.AtRest) (hasked : r.shutdownAsked = true) : r.notified = true := by
  have hnotify : r.notify? = none := h .notify
  by_contra hnot
  rw [notify?, hasked, eq_false_of_ne_true hnot] at hnotify
  cases hnotify

theorem AtRest.shut (h : r.AtRest) (htidy : r.Tidy)
    (htold : r.shutdownAsked = true ∨ r.notified = true ∨ r.loop.isLeaving = true)
    (hfree : ¬ r.HeldUp) : r.Shut := by
  cases h.waits with
  | submission hloop hqueue hsender hasked hnotified =>
    -- A loop that waits for submissions has not been told.
    rw [hasked, hnotified, hloop] at htold
    simp [LoopState.isLeaving] at htold
  | @worker route t last hloop hworker =>
    cases last with
    | false => exact absurd ⟨route, t, hloop⟩ hfree
    | true =>
      rw [Tidy, hloop] at htidy
      exact .inl (htidy rfl)
  | jobs hloop hheld =>
    rw [Tidy, hloop] at htidy
    exact htidy.2
  | nothing hloop =>
    rw [Tidy, hloop] at htidy
    exact .inl htidy.1

/-- How a router of `limit` workers stands at rest once a shutdown was asked for. -/
structure WindsUp (limit : Nat) (r : Router L C) : Prop where
  /-- It takes nothing more in, unless its loop is held up. -/
  turnsAway : ¬ r.HeldUp → r.TurnsAway
  /-- The loop is held up only while every worker is with a job at the gate. -/
  crowded : r.HeldUp → r.held.length = limit ∧ r.ready = [] ∧ r.gate = 0
  /-- Then it has been told, but the queue is open, and what is submitted is taken in. -/
  letsIn : r.HeldUp → r.notified = true ∧ r.closed = false ∧ r.LetsIn

/-- Whatever had happened to a router of `n` workers, where none counts as one, and in whatever
order it made its moves: once a shutdown was asked for and it has come to rest, all that is
submitted later is turned away, and none of it is run, unless the loop is held up; then nothing is
turned away. -/
theorem windsUp_of_shutdown (b : RouterBuilder L) (n : Nat) {acts : List (RouterAct C)}
    (hrun : (b.withWorkers n).spawn.run? acts = some r) (hshutdown : .shutdown ∈ acts)
    (hrest : r.AtRest) : WindsUp (max n 1) r := by
  have hmanned : Manned (max n 1) acts r := manned_of_run hrun
  have hsound := sound_of_run hrun
  have htold := hmanned.told.shutdown hshutdown
  refine ⟨?_, ?_, ?_⟩
  · intro hfree
    exact (hrest.shut hsound.tidy htold hfree).turnsAway hsound
  · rintro ⟨route, t, hloop⟩
    have hlimit : 0 < max n 1 := Nat.lt_of_lt_of_le Nat.zero_lt_one (Nat.le_max_right n 1)
    have hwaits : r.undecided ≠ [] := by
      rw [undecided_of_waiting hloop]
      exact List.append_ne_nil_of_right_ne_nil _ (List.cons_ne_nil _ _)
    obtain ⟨hheld, hready, hgate, -⟩ :=
      (hmanned.busy hlimit hsound.tidy hrest).resolve_left hwaits
    exact ⟨hheld, hready, hgate⟩
  · intro hheldUp
    have hopen := hheldUp.closed_eq_false (closedLeaving_of_run hrun)
    obtain ⟨route, t, hloop⟩ := hheldUp
    refine ⟨?_, hopen, hsound.letsIn hopen⟩
    rcases htold with hasked | hnotified | hleaving
    · exact hrest.notified hasked
    · exact hnotified
    · rw [hloop] at hleaving
      cases hleaving

/-- A job is at the gate when the shutdown is asked for, and the loop has nothing in hand. -/
def promptShutdown : List (RouterAct Nat) :=
  [.submit ⟨Builtin.notice.tag, Builtin.noticeOf "first", 1⟩, .move .take, .move .acquire,
    .move .runJob, .shutdown, .move .notify, .move .close, .move .finishTaking]

theorem windsUp_of_promptShutdown :
    let route : Route Nat := ⟨Builtin.notice, .hold, 0⟩
    let b := RouterBuilder.new.route route
    ∃ r, (b.withWorkers 1).spawn.run? promptShutdown = some r ∧ .shutdown ∈ promptShutdown ∧
      r.AtRest ∧ ¬ r.HeldUp ∧ WindsUp (max 1 1) r := by
  have hshutdown : .shutdown ∈ promptShutdown := by simp [promptShutdown]
  refine ⟨_, rfl, hshutdown, fun m => by cases m <;> rfl, ?_, ?_⟩
  · rintro ⟨route, t, hloop⟩
    cases hloop
  · exact windsUp_of_shutdown (RouterBuilder.new.route ⟨Builtin.notice, .hold, 0⟩) 1 rfl hshutdown
      fun m => by cases m <;> rfl

/-- A job is at the gate when the shutdown is asked for, and a second one waits for the only
worker. -/
def crowdedShutdown : List (RouterAct Nat) :=
  let submit (n : Nat) : RouterAct Nat :=
    .submit ⟨Builtin.notice.tag, Builtin.noticeOf "text", n⟩
  [submit 1, submit 2, .move .take, .move .acquire, .move .runJob, .move .take, .shutdown,
    .move .notify]

/-- The gate opens, and the loop goes on as it pleases. -/
def gateOpens : List (RouterAct Nat) :=
  [.release 3, .move .runJob, .move .acquire, .move .close, .move .take, .move .runJob,
    .move .acquire, .move .runJob]

/-- Not every shutdown turns away what is submitted later: a third job is started. -/
theorem crowdedShutdown_takes_more :
    ¬ ∀ (b : RouterBuilder Nat) (n : Nat) (acts : List (RouterAct Nat)) (r : Router Nat Nat),
      (b.withWorkers n).spawn.run? acts = some r → .shutdown ∈ acts → r.AtRest → r.TurnsAway := by
  intro h
  have haway := h (RouterBuilder.new.route ⟨Builtin.notice, .hold, 0⟩) 1 crowdedShutdown _ rfl
    (by simp [crowdedShutdown]) fun m => by cases m <;> rfl
  obtain ⟨-, hnot⟩ :=
    haway [] _ ⟨Builtin.notice.tag, Builtin.noticeOf "text", 3⟩ gateOpens _ rfl rfl
  exact hnot (.tail _ (.tail _ (.head _)))

end Router

end Switchboard
