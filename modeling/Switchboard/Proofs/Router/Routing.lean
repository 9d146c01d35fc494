import Switchboard.Builtin
import Switchboard.Proofs.Router.Accounting

/-!
# Why things happen in a router

Every event of a run has its reason: a ticket is dropped because it came late, because its tag has
no route or because its route is for another type, and a job is started for a ticket of its own
route. The loop leaves nothing behind: it stops taking when nothing more can come, and it ends when
no job is left.
-/

namespace Switchboard

variable {L C : Type}

/-- Whether the routes are a reason for an event. -/
def RouterEvent.Justified (b : RouterBuilder L) : RouterEvent L C → Prop
  | .refused _ | .failed => True
  | .unrouted t => b.find? t.submission.tag = none
  | .mismatched route t =>
    b.find? t.submission.tag = some route ∧ t.submission.message.is route.schema = false
  | .started j | .done j =>
    b.find? j.ticket.submission.tag = some j.route ∧
      j.ticket.submission.message.is j.route.schema = true

namespace Router

variable {r r' : Router L C} {a : RouterAct C} {b : RouterBuilder L}

/-! ## By whom tickets are run -/

/-- A router follows its routes: in what it has in hand, in its jobs and in all that has
happened. -/
structure Follows (b : RouterBuilder L) (r : Router L C) : Prop where
  routes : r.routes = b
  inHand : ∀ route t draining, r.loop = .waiting route t draining →
    b.find? t.submission.tag = some route
  ready : ∀ j ∈ r.ready, b.find? j.ticket.submission.tag = some j.route
  held : ∀ j ∈ r.held, b.find? j.ticket.submission.tag = some j.route
  trace : ∀ e ∈ r.trace, e.Justified b

theorem follows_spawn (b : RouterBuilder L) : Follows b (b.spawn : Router L C) where
  routes := rfl
  inHand := nofun
  ready := nofun
  held := nofun
  trace := nofun

theorem Follows.record (h : Follows b r) {e : RouterEvent L C} (he : e.Justified b) :
    Follows b (r.record e) where
  routes := h.routes
  inHand := h.inHand
  ready := h.ready
  held := h.held
  trace := by
    intro d hd
    rcases List.mem_append.mp hd with hd | hd
    · exact h.trace d hd
    · cases List.mem_singleton.mp hd
      exact he

theorem Follows.endJob (h : Follows b r) (panicked : Bool) : Follows b (r.endJob panicked) where
  routes := h.routes
  inHand := h.inHand
  ready := h.ready
  held := h.held
  trace := h.trace

theorem Follows.tail (h : Follows b r) {j : Job L C} {rest : List (Job L C)}
    (hready : r.ready = j :: rest) : Follows b { r with ready := rest } where
  routes := h.routes
  inHand := h.inHand
  ready := by
    intro k hk
    exact h.ready k (hready ▸ List.mem_cons_of_mem j hk)
  held := h.held
  trace := h.trace

/-- The reason for a job to start is also the reason for it to end. -/
theorem Follows.justified_head (h : Follows b r) {j : Job L C} {rest : List (Job L C)}
    (hready : r.ready = j :: rest) (hempty : j.isEmpty = false) :
    (RouterEvent.started j).Justified b ∧ (RouterEvent.done j).Justified b := by
  have hroute := h.ready j (hready ▸ List.mem_cons_self)
  have hmessage : j.ticket.submission.message.is j.route.schema = true := by
    simpa [Job.isEmpty] using hempty
  exact ⟨⟨hroute, hmessage⟩, ⟨hroute, hmessage⟩⟩

theorem Follows.acquired (h : Follows b r) {route : Route L} {t : Ticket C} {draining : Bool}
    (hwaiting : r.loop = .waiting route t draining) :
    Follows b { r with
      loop := if draining then .draining else .idle
      free := r.free - 1
      ready := r.ready ++ [⟨route, t, false⟩] } where
  routes := h.routes
  inHand := by
    cases draining <;> exact nofun
  ready := by
    intro j hj
    rcases List.mem_append.mp hj with hj | hj
    · exact h.ready j hj
    · cases List.mem_singleton.mp hj
      exact h.inHand route t draining hwaiting
  held := h.held
  trace := h.trace

theorem Follows.step (h : Follows b r) (hstep : Step r a r') : Follows b r' := by
  have same (loop : LoopState L C) (hloop : ∀ route t draining, loop ≠ .waiting route t draining) :
      ∀ route t draining, loop = .waiting route t draining →
        b.find? t.submission.tag = some route :=
    fun route t draining hw => absurd hw (hloop route t draining)
  cases hstep with
  | refuse sender closed =>
    refine Follows.record (e := .refused _) ?_ trivial
    exact ⟨h.routes, h.inHand, h.ready, h.held, h.trace⟩
  | enqueue sender not_closed => exact ⟨h.routes, h.inHand, h.ready, h.held, h.trace⟩
  | release n =>
    refine ⟨h.routes, h.inHand, ?_, ?_, h.trace⟩
    · intro j hj
      rcases List.mem_append.mp hj with hj | hj
      · exact h.ready j hj
      · obtain ⟨k, hk, rfl⟩ := List.mem_map.mp hj
        exact h.held k (List.mem_of_mem_take hk)
    · intro j hj
      exact h.held j (List.mem_of_mem_drop hj)
  | shutdown => exact ⟨h.routes, h.inHand, h.ready, h.held, h.trace⟩
  | dropSender => exact ⟨h.routes, h.inHand, h.ready, h.held, h.trace⟩
  | close idle notified => exact ⟨h.routes, same _ nofun, h.ready, h.held, h.trace⟩
  | @notice panicked rest noticing results =>
    cases panicked with
    | false => exact ⟨h.routes, h.inHand, h.ready, h.held, h.trace⟩
    | true =>
      refine Follows.record (e := .failed) ?_ trivial
      exact ⟨h.routes, h.inHand, h.ready, h.held, h.trace⟩
  | dropUnrouted taking queue no_route =>
    refine Follows.record (e := .unrouted _) ?_ (h.routes ▸ no_route)
    exact ⟨h.routes, h.inHand, h.ready, h.held, h.trace⟩
  | take taking queue found =>
    refine ⟨h.routes, ?_, h.ready, h.held, h.trace⟩
    intro route t draining hloop
    cases hloop
    exact h.routes ▸ found
  | dropMismatched waiting worker wrong =>
    exact (h.acquired waiting).record (e := .mismatched _ _) ⟨h.inHand _ _ _ waiting, wrong⟩
  | spawn waiting worker right => exact h.acquired waiting
  | stopTaking queue last => exact ⟨h.routes, same _ nofun, h.ready, h.held, h.trace⟩
  | finish joining ready held results =>
    exact ⟨h.routes, same _ nofun, h.ready, h.held, h.trace⟩
  | notify asked not_notified => exact ⟨h.routes, h.inHand, h.ready, h.held, h.trace⟩
  | runEmpty ready empty => exact (h.tail ready).endJob false
  | resume ready not_empty released =>
    exact ((h.tail ready).record (h.justified_head ready not_empty).2).endJob false
  | runThrough ready not_empty not_released mode =>
    obtain ⟨hstart, hdone⟩ := h.justified_head ready not_empty
    exact (((h.tail ready).record hstart).record hdone).endJob false
  | panic ready not_empty not_released mode =>
    exact ((h.tail ready).record (h.justified_head ready not_empty).1).endJob true
  | passGate ready not_empty not_released mode gate =>
    obtain ⟨hstart, hdone⟩ := h.justified_head ready not_empty
    have ht := h.tail ready
    refine Follows.endJob (Follows.record (Follows.record ?_ hstart) hdone) false
    exact ⟨ht.routes, ht.inHand, ht.ready, ht.held, ht.trace⟩
  | @hold j rest ready not_empty not_released mode gate =>
    have hstart := (h.justified_head ready not_empty).1
    have ht := h.tail ready
    refine Follows.record (e := .started j) ?_ hstart
    refine ⟨ht.routes, ht.inHand, ht.ready, ?_, ht.trace⟩
    intro k hk
    rcases List.mem_append.mp hk with hk | hk
    · exact h.held k hk
    · cases List.mem_singleton.mp hk
      exact hstart.1

/-! ## When the loop ends -/

theorem hasEnded_iff : r.hasEnded = true ↔ r.loop = .ended := by
  unfold hasEnded
  split
  · next hloop => simp [hloop]
  · next hloop =>
    constructor
    · exact nofun
    · intro h
      exact absurd h hloop

/-- What is behind the loop at each of its states. -/
def Tidy (r : Router L C) : Prop :=
  match r.loop with
  | .idle => True
  | .waiting _ _ draining => draining = true → r.closed = true
  | .draining => r.closed = true
  | .joining => r.queue = [] ∧ (r.closed = true ∨ r.hasSender = false)
  | .ended => r.closed = true ∧ r.queue = [] ∧ r.ready = [] ∧ r.held = []

theorem Tidy.not_ended (h : r.Tidy) {j : Job L C} {rest : List (Job L C)}
    (hready : r.ready = j :: rest) : r.loop ≠ .ended := by
  intro hloop
  rw [Tidy, hloop] at h
  rw [h.2.2.1] at hready
  cases hready

/-- The jobs do not matter to the loop until it ends. -/
theorem Tidy.congr (h : r.Tidy) (hne : r.loop ≠ .ended) (hloop : r'.loop = r.loop)
    (hclosed : r'.closed = r.closed) (hsender : r'.hasSender = r.hasSender)
    (hqueue : r'.queue = r.queue) : r'.Tidy := by
  unfold Tidy at h ⊢
  rw [hloop, hclosed, hsender, hqueue]
  split at h <;> simp_all

theorem Tidy.step (h : r.Tidy) (hstep : Step r a r') : r'.Tidy := by
  cases hstep with
  | refuse sender closed => exact h
  | enqueue sender not_closed =>
    rcases hloop : r.loop with _ | ⟨route, t, draining⟩ | _ | _ | _
    · simp [Tidy]
    · simpa [Tidy, hloop] using h
    · simpa [Tidy, hloop] using h
    -- While jobs are joined either the queue is closed or nobody is left who could submit.
    · simp [Tidy, hloop, sender, not_closed] at h
    · simp [Tidy, hloop, not_closed] at h
  | release n =>
    by_cases hended : r.loop = .ended
    · simp_all [Tidy, Router.release]
    · exact h.congr hended rfl rfl rfl rfl
  | shutdown => exact h
  | dropSender =>
    rcases hloop : r.loop with _ | ⟨route, t, draining⟩ | _ | _ | _ <;>
      simp_all [Tidy, Router.dropSender]
  | close idle notified => rfl
  | @notice panicked rest noticing results =>
    cases panicked with
    | false => exact h
    | true => exact h
  | dropUnrouted taking queue no_route =>
    rcases hloop : r.loop with _ | ⟨route, t, draining⟩ | _ | _ | _ <;>
      simp_all [Tidy, taking?, record]
  | take taking queue found =>
    rcases hloop : r.loop with _ | ⟨route, t, draining⟩ | _ | _ | _ <;>
      simp_all [Tidy, taking?]
  | @dropMismatched route t draining waiting worker wrong =>
    cases draining <;> simp_all [Tidy, record]
  | @spawn route t draining waiting worker right =>
    cases draining <;> simp_all [Tidy]
  | stopTaking queue last =>
    rcases last with ⟨hloop, hsender⟩ | hloop <;> simp_all [Tidy]
  | finish joining ready held results => simp_all [Tidy]
  | notify asked not_notified => exact h
  | runEmpty ready empty => exact h.congr (h.not_ended ready) rfl rfl rfl rfl
  | resume ready not_empty released => exact h.congr (h.not_ended ready) rfl rfl rfl rfl
  | runThrough ready not_empty not_released mode =>
    exact h.congr (h.not_ended ready) rfl rfl rfl rfl
  | panic ready not_empty not_released mode => exact h.congr (h.not_ended ready) rfl rfl rfl rfl
  | passGate ready not_empty not_released mode gate =>
    exact h.congr (h.not_ended ready) rfl rfl rfl rfl
  | hold ready not_empty not_released mode gate =>
    exact h.congr (h.not_ended ready) rfl rfl rfl rfl

/-- An ended loop has nothing in hand, in the queue or among the jobs. -/
theorem Tidy.of_ended (h : r.Tidy) (hended : r.hasEnded = true) :
    r.undecided = [] ∧ r.ready = [] ∧ r.held = [] := by
  have hloop := hasEnded_iff.mp hended
  rw [Tidy, hloop] at h
  obtain ⟨-, hqueue, hready, hheld⟩ := h
  refine ⟨?_, hready, hheld⟩
  rw [undecided, hready, hloop, hqueue]
  rfl

/-! ## What comes too late -/

theorem Step.closed_iff (h : Step r a r') :
    r'.closed = true ↔ r.closed = true ∨ a = .move .close ∨ a = .move .finish := by
  cases h with
  | notice noticing results => split <;> simp [Router.record]
  | _ => simp [Router.record, Router.endJob, Router.release, Router.shutdown, Router.dropSender]

/-- A ticket is refused only as it comes in, by a queue that is closed. -/
theorem Step.refused_iff (h : Step r a r') {t : Ticket C} :
    .refused t ∈ r'.trace ↔
      .refused t ∈ r.trace ∨
        a = .submit t.submission ∧ t.number = r.submitted ∧ r.closed = true := by
  cases h with
  | @refuse s sender closed =>
    rcases t with ⟨n, u⟩
    simp [Router.record, closed, eq_comm, and_comm]
  | enqueue sender not_closed => simp [not_closed]
  | notice noticing results => split <;> simp [Router.record]
  | _ => simp [Router.record, Router.endJob, Router.release, Router.shutdown, Router.dropSender]

/-- Exactly the late tickets are refused. -/
structure RefusesLate (acts : List (RouterAct C)) (r : Router L C) : Prop where
  closed_iff : r.closed = true ↔ Closing acts
  refused_iff : ∀ t, .refused t ∈ r.trace ↔ Late acts t

theorem refusesLate_spawn (b : RouterBuilder L) : RefusesLate [] (b.spawn : Router L C) where
  closed_iff := by
    simp [RouterBuilder.spawn, Closing]
  refused_iff := by
    simp [RouterBuilder.spawn, Late]

theorem RefusesLate.step {acts : List (RouterAct C)} (h : RefusesLate acts r)
    (hbooked : Booked acts r) (hstep : Step r a r') : RefusesLate (acts ++ [a]) r' where
  closed_iff := by
    rw [hstep.closed_iff, h.closed_iff, closing_append]
  refused_iff := by
    intro t
    rw [hstep.refused_iff, h.refused_iff, late_append, h.closed_iff, hbooked.submitted]

/-! ## All together -/

/-- An ended loop stays so. -/
theorem Step.hasEnded (h : Step r a r') (hended : r.hasEnded = true) : r'.hasEnded = true := by
  have hloop := hasEnded_iff.mp hended
  cases h with
  | close idle notified =>
    rw [hloop] at idle
    cases idle
  | @notice panicked rest noticing results =>
    cases panicked with
    | false => exact hended
    | true => exact hended
  | take taking queue found =>
    rw [taking?, hloop] at taking
    cases taking
  | dropMismatched waiting worker wrong =>
    rw [hloop] at waiting
    cases waiting
  | spawn waiting worker right =>
    rw [hloop] at waiting
    cases waiting
  | stopTaking queue last =>
    rw [hloop] at last
    rcases last with ⟨hidle, -⟩ | hdraining
    · cases hidle
    · cases hdraining
  | finish joining ready held results => rfl
  | _ => exact hended

/-- What holds of a router whose routes were added in some order, after a run. -/
structure Accounted (added : List (Route L)) (b : RouterBuilder L) (acts : List (RouterAct C))
    (r : Router L C) : Prop where
  /-- Each submission has a ticket of its own. -/
  distinct : (tickets acts).Pairwise fun t u => t.number < u.number
  /-- Each ticket was dropped once, started once, or is still undecided. -/
  tickets : (r.dropped ++ (r.startedTickets ++ r.undecided)).Perm (tickets acts)
  refused : ∀ t, .refused t ∈ r.trace ↔ Late acts t
  unrouted : ∀ t, .unrouted t ∈ r.trace → ∀ route ∈ added, route.schema.tag ≠ t.submission.tag
  mismatched : ∀ route t, .mismatched route t ∈ r.trace →
    RouterBuilder.LastFor added t.submission.tag route ∧
      t.submission.message.is route.schema = false
  started : ∀ j, .started j ∈ r.trace →
    RouterBuilder.LastFor added j.ticket.submission.tag j.route ∧
      j.ticket.submission.message.is j.route.schema = true
  /-- Jobs start in the order of their submissions. -/
  order : r.startedTickets.Pairwise fun t u => t.number < u.number
  /-- Nothing is left behind when the loop has ended, and no job that was started is left unless it
  panicked. -/
  ended : r.hasEnded = true → r.undecided = [] ∧ r.ready = [] ∧ r.held = [] ∧
    r.toFinish.Perm (r.doneJobs.map Job.origin)
  /-- Nobody who asked for a shutdown hears back before the loop has ended. -/
  returned : ShutdownReturned b.spawn acts → r.hasEnded = true

/-- What every step keeps. -/
structure Sound (b : RouterBuilder L) (acts : List (RouterAct C)) (r : Router L C) : Prop where
  booked : Booked acts r
  jobs : JobsBooked r
  follows : Follows b r
  tidy : r.Tidy
  refuses : RefusesLate acts r

theorem sound_spawn (b : RouterBuilder L) : Sound b [] (b.spawn : Router L C) where
  booked := booked_spawn b
  jobs := List.Perm.refl _
  follows := follows_spawn b
  tidy := trivial
  refuses := refusesLate_spawn b

theorem Sound.step {acts : List (RouterAct C)} (h : Sound b acts r) (hact : r.act? a = some r') :
    Sound b (acts ++ [a]) r' := by
  have hstep := step_of_act hact
  exact
    { booked := h.booked.step hstep
      jobs := h.jobs.step hstep
      follows := h.follows.step hstep
      tidy := h.tidy.step hstep
      refuses := h.refuses.step h.booked hstep }

theorem Sound.run {acts after : List (RouterAct C)} (h : Sound b acts r)
    (hrun : r.run? after = some r') : Sound b (acts ++ after) r' :=
  run_induction (fun h hact => h.step hact) h hrun

theorem sound_of_run {acts : List (RouterAct C)} (hrun : b.spawn.run? acts = some r) :
    Sound b acts r :=
  (sound_spawn b).run hrun

/-- A loop that had ended at some point of a run has ended at its end. -/
theorem hasEnded_of_run {before after : List (RouterAct C)} {mid : Router L C}
    (hmid : Sound b before mid) (hended : mid.hasEnded = true) (hrun : mid.run? after = some r) :
    r.hasEnded = true := by
  have h : Sound b (before ++ after) r ∧ r.hasEnded = true := by
    refine run_induction (motive := fun acts r => Sound b acts r ∧ r.hasEnded = true) ?_
      ⟨hmid, hended⟩ hrun
    intro acts r a r' h hact
    exact ⟨h.1.step hact, (step_of_act hact).hasEnded h.2⟩
  exact h.2

/-- Whatever happens to a router, and in whatever order it makes its moves, it neither loses nor
repeats nor reorders what is submitted to it. -/
theorem accounted_of_run {added : List (Route L)} (hb : RouterBuilder.Built added b)
    {acts : List (RouterAct C)} (hrun : b.spawn.run? acts = some r) : Accounted added b acts r := by
  have h := sound_of_run hrun
  exact
    { distinct := sorted_tickets acts
      tickets := h.booked.perm
      refused := h.refuses.refused_iff
      unrouted := fun t ht => hb.find?_eq_none_iff.mp (h.follows.trace _ ht)
      mismatched := by
        intro route t ht
        obtain ⟨hroute, hwrong⟩ := h.follows.trace _ ht
        exact ⟨hb.find?_eq_some_iff.mp hroute, hwrong⟩
      started := by
        intro j hj
        obtain ⟨hroute, hright⟩ := h.follows.trace _ hj
        exact ⟨hb.find?_eq_some_iff.mp hroute, hright⟩
      order := (List.pairwise_append.mp h.booked.sorted).1
      ended := by
        intro hended
        obtain ⟨hundecided, hready, hheld⟩ := h.tidy.of_ended hended
        refine ⟨hundecided, hready, hheld, ?_⟩
        have hjobs := h.jobs
        rw [JobsBooked, hready, hheld] at hjobs
        exact hjobs.trans (List.Perm.of_eq (List.append_nil _))
      returned := by
        rintro ⟨before, after, mid, rfl, -, hbefore, hended⟩
        rw [run?_append, hbefore] at hrun
        exact hasEnded_of_run (sound_of_run hbefore) hended hrun }

/-- A run in which the shutdown comes while a job waits to start and a submission without a route is
in the queue, and one more submission comes after it. -/
def backlogRun : List (RouterAct Nat) :=
  [.submit ⟨Builtin.notice.tag, Builtin.noticeOf "first", 1⟩,
    .submit ⟨Builtin.echo.tag, Builtin.echoOf [], 2⟩, .move .take, .move .acquire, .shutdown,
    .move .notify, .move .close, .submit ⟨Builtin.notice.tag, Builtin.noticeOf "late", 3⟩,
    .move .take, .move .finishTaking, .move .runJob, .move .notice, .move .finish]

theorem accounted_of_backlogRun :
    let route : Route Nat := ⟨Builtin.notice, .run, 0⟩
    let b := RouterBuilder.new.route route
    ∃ r, b.spawn.run? backlogRun = some r ∧ r.hasEnded = true ∧
      Accounted [route] b backlogRun r :=
  ⟨_, rfl, rfl, accounted_of_run (.route .new _) rfl⟩

end Router

end Switchboard
