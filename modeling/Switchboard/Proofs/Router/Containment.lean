import Mathlib.Data.List.Forall2
import Switchboard.Proofs.Router.Workers

/-!
# Panics are contained

Two routers are compared whose routes differ in one way only: where the jobs of a route run through
in the first, they may panic in the second. Whatever is done to both, and in whatever order they
make their moves, a move is possible for both or for neither, and they stay alike: the same tickets
wait, the same workers are free, the same jobs start and are held at the gate. All that the second
one misses are the ends of the jobs that panic.
-/

namespace Switchboard

variable {L C : Type}

/-! ## Routes whose jobs panic -/

/-- The same route, or one whose jobs panic where they ran through. -/
inductive Route.Spoiled : Route L → Route L → Prop
  | same (route : Route L) : Spoiled route route
  | panics (schema : Schema) (label : L) :
      Spoiled ⟨schema, .run, label⟩ ⟨schema, .panic, label⟩

/-- A route as it is but for its panics. -/
def Route.calm (route : Route L) : Route L :=
  match route.mode with
  | .panic => { route with mode := .run }
  | _ => route

theorem Route.Spoiled.schema_eq {route route' : Route L} (h : route.Spoiled route') :
    route'.schema = route.schema := by
  cases h <;> rfl

theorem Route.Spoiled.calm_eq {route route' : Route L} (h : route.Spoiled route') :
    route'.calm = route.calm := by
  cases h <;> rfl

namespace RouterBuilder

/-- The same routes and workers, but the jobs of any of the routes may panic where they ran
through. -/
structure Spoiled (b c : RouterBuilder L) : Prop where
  routes : List.Forall₂ Route.Spoiled b.routes c.routes
  workers : c.workers = b.workers

/-- What the jobs for a tag do. -/
def mode? (b : RouterBuilder L) (tag : String) : Option JobMode :=
  (b.find? tag).map Route.mode

/-- Whether the jobs for a tag do the same. -/
def agreesAt (b c : RouterBuilder L) (tag : String) : Bool :=
  b.mode? tag = c.mode? tag

variable {b c : RouterBuilder L}

theorem Spoiled.withWorkers (h : b.Spoiled c) (n : Nat) :
    (b.withWorkers n).Spoiled (c.withWorkers n) where
  routes := h.routes
  workers := rfl

/-- The routes for a tag stand at the same place. -/
theorem Spoiled.find? (h : b.Spoiled c) (tag : String) :
    Option.Rel Route.Spoiled (b.find? tag) (c.find? tag) := by
  have hroutes := h.routes
  unfold RouterBuilder.find?
  generalize b.routes = xs, c.routes = ys at hroutes ⊢
  induction hroutes with
  | nil => exact .none
  | @cons route route' rest rest' hroute hrest ih =>
    rw [List.find?_cons, List.find?_cons, hroute.schema_eq]
    split
    · exact .some hroute
    · exact ih

/-- Where the jobs for a tag do not do the same, they run through in the first and panic in the
second. -/
theorem Spoiled.modes (h : b.Spoiled c) {tag : String} (hne : b.agreesAt c tag = false) :
    b.mode? tag = some .run ∧ c.mode? tag = some .panic := by
  have hfind := h.find? tag
  unfold agreesAt mode? at hne
  unfold mode?
  generalize b.find? tag = x, c.find? tag = y at hfind hne ⊢
  cases hfind with
  | none => simp at hne
  | some hroute =>
    cases hroute with
    | same => simp at hne
    | panics schema label => exact ⟨rfl, rfl⟩

end RouterBuilder

/-- The same job, or one of a route whose jobs panic. Only a job that has not started is one. -/
inductive Job.Spoiled : Job L C → Job L C → Prop
  | same (j : Job L C) : Spoiled j j
  | panics (schema : Schema) (label : L) (t : Ticket C) :
      Spoiled ⟨⟨schema, .run, label⟩, t, false⟩ ⟨⟨schema, .panic, label⟩, t, false⟩

/-- A new job of such a route. -/
theorem Job.spoiled_new {route route' : Route L} (h : route.Spoiled route') (t : Ticket C) :
    Job.Spoiled ⟨route, t, false⟩ ⟨route', t, false⟩ := by
  cases h with
  | same => exact .same _
  | panics schema label => exact .panics schema label t

/-- Loops that stand at the same place. -/
inductive LoopState.Spoiled : LoopState L C → LoopState L C → Prop
  | same (l : LoopState L C) : Spoiled l l
  | waiting {route route' : Route L} (spoiled : route.Spoiled route') (t : Ticket C)
      (draining : Bool) : Spoiled (.waiting route t draining) (.waiting route' t draining)

/-! ## What is seen of both -/

/-- A job as it is but for its panic. -/
def Job.calm (j : Job L C) : Job L C :=
  { j with route := j.route.calm }

/-- An event as it is but for panics, which nobody notices. -/
def RouterEvent.calm? : RouterEvent L C → Option (RouterEvent L C)
  | .refused t => some (.refused t)
  | .unrouted t => some (.unrouted t)
  | .mismatched route t => some (.mismatched route.calm t)
  | .started j => some (.started j.calm)
  | .done j => some (.done j)
  | .failed => none

/-- Whether an event also happens if the routes are those of another builder: jobs do not come to
their end if they do something else there. -/
def RouterEvent.isSpared (b c : RouterBuilder L) : RouterEvent L C → Bool
  | .done j => b.agreesAt c j.ticket.submission.tag
  | _ => true

namespace Router

/-- Two routers that differ by panics. -/
structure Alike (b c : RouterBuilder L) (r q : Router L C) : Prop where
  loop : r.loop.Spoiled q.loop
  queue : q.queue = r.queue
  submitted : q.submitted = r.submitted
  hasSender : q.hasSender = r.hasSender
  closed : q.closed = r.closed
  shutdownAsked : q.shutdownAsked = r.shutdownAsked
  notified : q.notified = r.notified
  free : q.free = r.free
  ready : List.Forall₂ Job.Spoiled r.ready q.ready
  /-- No job that panics comes to the gate. -/
  held : q.held = r.held
  gate : q.gate = r.gate
  /-- As many jobs have ended, whichever way. -/
  results : q.results.length = r.results.length
  trace : q.trace.filterMap RouterEvent.calm? =
    (r.trace.filter (RouterEvent.isSpared b c)).filterMap RouterEvent.calm?

variable {r q r' q' : Router L C} {a : RouterAct C} {b c : RouterBuilder L}

theorem alike_spawn (h : b.Spoiled c) : Alike b c (b.spawn : Router L C) c.spawn where
  loop := .same _
  queue := rfl
  submitted := rfl
  hasSender := rfl
  closed := rfl
  shutdownAsked := rfl
  notified := rfl
  free := h.workers
  ready := .nil
  held := rfl
  gate := rfl
  results := rfl
  trace := rfl

/-! ## What happens to both -/

/-- An event happens to both. -/
theorem Alike.record (h : Alike b c r q) {e d : RouterEvent L C} (hseen : d.calm? = e.calm?)
    (hspared : e.isSpared b c = true) : Alike b c (r.record e) (q.record d) :=
  { h with
    trace := by
      simp only [Router.record, List.filter_append, List.filterMap_append, h.trace,
        List.filter_cons_of_pos hspared, List.filterMap_cons, hseen, List.filter_nil,
        List.filterMap_nil] }

/-- The end of a job happens to the first one alone. -/
theorem Alike.miss (h : Alike b c r q) {e : RouterEvent L C} (hmissed : e.isSpared b c = false) :
    Alike b c (r.record e) q :=
  { h with
    trace := by
      have hnone : [e].filter (RouterEvent.isSpared b c) = [] :=
        List.filter_cons_of_neg (ne_true_of_eq_false hmissed)
      rw [Router.record, List.filter_append, hnone, List.append_nil]
      exact h.trace }

/-- Either loop may notice a panic. -/
theorem Alike.notice_failed (h : Alike b c r q) (x y : Bool) :
    Alike b c (if x then r.record .failed else r) (if y then q.record .failed else q) := by
  have hleft : Alike b c (r.record .failed) q :=
    { h with
      trace := by
        rw [Router.record, List.filter_append, List.filterMap_append, ← h.trace]
        exact (List.append_nil _).symm }
  have hright {s : Router L C} (hs : Alike b c s q) : Alike b c s (q.record .failed) :=
    { hs with
      trace := by
        rw [Router.record, List.filterMap_append, hs.trace]
        exact List.append_nil _ }
  cases x <;> cases y
  · exact h
  · exact hright h
  · exact hleft
  · exact hright hleft

/-- A job of both ends, whichever way it does in each. -/
theorem Alike.endJob (h : Alike b c r q) (x y : Bool) : Alike b c (r.endJob x) (q.endJob y) :=
  { h with
    free := congrArg (· + 1) h.free
    results := by
      simp only [Router.endJob, List.length_append, List.length_singleton, h.results] }

theorem Alike.tail (h : Alike b c r q) {rest rest' : List (Job L C)}
    (hrest : List.Forall₂ Job.Spoiled rest rest') :
    Alike b c { r with ready := rest } { q with ready := rest' } :=
  { h with ready := hrest }

/-! ## Moves of both -/

theorem Alike.submit (h : Alike b c r q) (s : Submission C) :
    Alike b c (r.submit s) (q.submit s) := by
  have hsubmitted : Alike b c { r with submitted := r.submitted + 1 }
      { q with submitted := q.submitted + 1 } :=
    { h with submitted := congrArg (· + 1) h.submitted }
  unfold Router.submit
  by_cases hclosed : r.closed = true
  · rw [if_pos hclosed, if_pos (h.closed.trans hclosed), h.submitted]
    exact (h.submitted ▸ hsubmitted).record rfl rfl
  · rw [if_neg hclosed, if_neg (h.closed ▸ hclosed), h.submitted]
    exact { h with
      submitted := rfl
      queue := congrArg (· ++ [_]) h.queue }

theorem Alike.release (h : Alike b c r q) (n : Nat) : Alike b c (r.release n) (q.release n) := by
  unfold Router.release
  rw [h.held, h.gate]
  have hjobs (js : List (Job L C)) : List.Forall₂ Job.Spoiled js js :=
    List.forall₂_same.mpr fun j _ => .same j
  exact { h with
    ready := List.rel_append h.ready (hjobs _)
    held := rfl
    gate := rfl }

theorem Alike.close (h : Alike b c r q) : Option.Rel (Alike b c) r.close? q.close? := by
  have hloop := h.loop
  unfold close?
  generalize r.loop = l, q.loop = m at hloop ⊢
  cases hloop with
  | waiting spoiled t draining => exact .none
  | same =>
    cases l with
    | idle =>
      dsimp only
      rw [h.notified]
      split
      · exact .some { h with loop := .same _, notified := rfl, closed := rfl }
      · exact .none
    | _ => exact .none

theorem Alike.isNoticing (h : Alike b c r q) : q.isNoticing = r.isNoticing := by
  have hloop := h.loop
  unfold Router.isNoticing
  generalize r.loop = l, q.loop = m at hloop ⊢
  cases hloop <;> rfl

theorem Alike.taking (h : Alike b c r q) : q.taking? = r.taking? := by
  have hloop := h.loop
  unfold Router.taking?
  generalize r.loop = l, q.loop = m at hloop ⊢
  cases hloop <;> rfl

theorem Alike.notice (h : Alike b c r q) : Option.Rel (Alike b c) r.notice? q.notice? := by
  have hresults := h.results
  unfold notice?
  rw [h.isNoticing]
  rcases hr : r.results with _ | ⟨x, xs⟩ <;> rcases hq : q.results with _ | ⟨y, ys⟩ <;>
    rw [hr, hq] at hresults
  · split
    · contradiction
    · exact .none
  · cases hresults
  · cases hresults
  · cases r.isNoticing with
    | false => exact .none
    | true =>
      have hrest : Alike b c { r with results := xs } { q with results := ys } :=
        { h with results := Nat.succ.inj hresults }
      exact .some (hrest.notice_failed x y)

theorem Alike.take (h : Alike b c r q) (hbc : b.Spoiled c) (hr : r.routes = b) (hq : q.routes = c) :
    Option.Rel (Alike b c) r.take? q.take? := by
  unfold take?
  rw [h.taking, h.queue]
  rcases r.taking? with _ | draining
  · exact .none
  · rcases r.queue with _ | ⟨t, rest⟩
    · exact .none
    · have hfind := hbc.find? t.submission.tag
      dsimp only
      rw [hr, hq]
      generalize b.find? t.submission.tag = x, c.find? t.submission.tag = y at hfind ⊢
      cases hfind with
      | none =>
        refine .some (Alike.record ?_ rfl rfl)
        exact { h with queue := rfl }
      | some hroute => exact .some { h with queue := rfl, loop := .waiting hroute t draining }

/-- Both give a worker to the same ticket. -/
theorem Alike.give (h : Alike b c r q) {route route' : Route L} (hroute : route.Spoiled route')
    {t : Ticket C} {draining : Bool} (hr : r.loop = .waiting route t draining)
    (hq : q.loop = .waiting route' t draining) :
    Option.Rel (Alike b c) r.acquire? q.acquire? := by
  unfold acquire?
  rw [hr, hq]
  dsimp only
  by_cases hfree : r.free = 0
  · rw [if_pos hfree, if_pos (h.free.trans hfree)]
    exact .none
  · have hfree' : ¬ q.free = 0 := fun hq => hfree (h.free.symm.trans hq)
    rw [if_neg hfree, if_neg hfree']
    have hgiven : Alike b c
        { r with
          loop := if draining then .draining else .idle
          free := r.free - 1
          ready := r.ready ++ [⟨route, t, false⟩] }
        { q with
          loop := if draining then .draining else .idle
          free := q.free - 1
          ready := q.ready ++ [⟨route', t, false⟩] } :=
      { h with
        loop := .same _
        free := congrArg (· - 1) h.free
        ready := List.rel_append h.ready (.cons (Job.spoiled_new hroute t) .nil) }
    have hseen : (RouterEvent.mismatched route' t).calm? =
        (RouterEvent.mismatched route t).calm? := by
      rw [RouterEvent.calm?, RouterEvent.calm?, hroute.calm_eq]
    have hempty : (⟨route', t, false⟩ : Job L C).isEmpty =
        (⟨route, t, false⟩ : Job L C).isEmpty := by
      rw [Job.isEmpty, Job.isEmpty, hroute.schema_eq]
    by_cases hwrong : (⟨route, t, false⟩ : Job L C).isEmpty = true
    · rw [if_pos hwrong, if_pos (hempty.trans hwrong)]
      exact .some (hgiven.record hseen rfl)
    · have hright : ¬ (⟨route', t, false⟩ : Job L C).isEmpty = true := by
        rwa [hempty]
      rw [if_neg hwrong, if_neg hright]
      exact .some hgiven

theorem Alike.acquire (h : Alike b c r q) : Option.Rel (Alike b c) r.acquire? q.acquire? := by
  have hloop := h.loop
  generalize hr : r.loop = l, hq : q.loop = m at hloop
  cases hloop with
  | waiting hroute t draining => exact h.give hroute hr hq
  | same =>
    cases l with
    | waiting route t draining => exact h.give (.same route) hr hq
    | _ =>
      unfold acquire?
      rw [hr, hq]
      exact .none

theorem Alike.finishTaking (h : Alike b c r q) :
    Option.Rel (Alike b c) r.finishTaking? q.finishTaking? := by
  have hloop := h.loop
  have hlast : Alike b c { r with loop := .joining } { q with loop := .joining } :=
    { h with loop := .same _ }
  unfold finishTaking?
  generalize r.loop = l, q.loop = m at hloop ⊢
  cases hloop with
  | waiting spoiled t draining => exact .none
  | same =>
    cases l with
    | idle =>
      by_cases hover : (r.queue.isEmpty && !r.hasSender) = true
      · have hover' : (q.queue.isEmpty && !q.hasSender) = true := by
          rw [h.queue, h.hasSender, hover]
        dsimp only
        rw [if_pos hover, if_pos hover']
        exact .some hlast
      · have hover' : ¬ (q.queue.isEmpty && !q.hasSender) = true := by
          rwa [h.queue, h.hasSender]
        dsimp only
        rw [if_neg hover, if_neg hover']
        exact .none
    | draining =>
      by_cases hover : r.queue.isEmpty = true
      · dsimp only
        rw [if_pos hover, if_pos (h.queue ▸ hover)]
        exact .some hlast
      · dsimp only
        rw [if_neg hover, if_neg (h.queue ▸ hover)]
        exact .none
    | _ => exact .none

theorem Alike.finish (h : Alike b c r q) : Option.Rel (Alike b c) r.finish? q.finish? := by
  have hloop := h.loop
  have hready : q.ready.isEmpty = r.ready.isEmpty := by
    rw [Bool.eq_iff_iff, List.isEmpty_iff_length_eq_zero, List.isEmpty_iff_length_eq_zero,
      h.ready.length_eq]
  have hresults : q.results.isEmpty = r.results.isEmpty := by
    rw [Bool.eq_iff_iff, List.isEmpty_iff_length_eq_zero, List.isEmpty_iff_length_eq_zero,
      h.results]
  unfold finish?
  rw [hready, h.held, hresults]
  generalize r.loop = l, q.loop = m at hloop ⊢
  cases hloop with
  | waiting spoiled t draining => exact .none
  | same =>
    cases l with
    | joining =>
      dsimp only
      split
      · exact .some { h with loop := .same _, closed := rfl, held := rfl }
      · exact .none
    | _ => exact .none

theorem Alike.notify (h : Alike b c r q) : Option.Rel (Alike b c) r.notify? q.notify? := by
  unfold notify?
  rw [h.shutdownAsked, h.notified]
  split
  · exact .some { h with shutdownAsked := rfl, notified := rfl }
  · exact .none

/-- A job of the same route does the same in both. -/
theorem Alike.runSame (h : Alike b c r q) {j : Job L C}
    (hspared : (RouterEvent.done j).isSpared b c = true) {rest rest' : List (Job L C)}
    (hrest : List.Forall₂ Job.Spoiled rest rest') (hr : r.ready = j :: rest)
    (hq : q.ready = j :: rest') : Option.Rel (Alike b c) r.runJob? q.runJob? := by
  have ht := h.tail hrest
  have hstart := ht.record (e := .started j) rfl rfl
  simp only [runJob?, hr, hq]
  cases hempty : j.isEmpty with
  | true => exact .some (ht.endJob false false)
  | false =>
    cases hreleased : j.released with
    | true => exact .some ((ht.record rfl hspared).endJob false false)
    | false =>
      cases hmode : j.route.mode with
      | run => exact .some ((hstart.record rfl hspared).endJob false false)
      | panic => exact .some (hstart.endJob true true)
      | hold =>
        by_cases hgate : 0 < r.gate
        · have hgate' : 0 < q.gate := h.gate ▸ hgate
          have hpassed : Alike b c
              (Router.record { r with ready := rest, gate := r.gate - 1 } (.started j))
              (Router.record { q with ready := rest', gate := q.gate - 1 } (.started j)) :=
            { hstart with gate := congrArg (· - 1) h.gate }
          simp only [Bool.false_eq_true, if_false, Router.record, hgate, hgate', if_true]
          exact .some ((hpassed.record (e := .done j) rfl hspared).endJob false false)
        · have hgate' : ¬ 0 < q.gate := h.gate ▸ hgate
          have hheld : Alike b c
              (Router.record { r with ready := rest, held := r.held ++ [j] } (.started j))
              (Router.record { q with ready := rest', held := q.held ++ [j] } (.started j)) :=
            { hstart with held := congrArg (· ++ [j]) h.held }
          simp only [Bool.false_eq_true, if_false, Router.record, hgate, hgate']
          exact .some hheld

/-- A job that runs through in the first and panics in the second ends in both. -/
theorem Alike.runPanics (h : Alike b c r q) {schema : Schema} {label : L} {t : Ticket C}
    (hmissed : RouterEvent.isSpared b c (.done ⟨⟨schema, .run, label⟩, t, false⟩) = false)
    {rest rest' : List (Job L C)} (hrest : List.Forall₂ Job.Spoiled rest rest')
    (hr : r.ready = ⟨⟨schema, .run, label⟩, t, false⟩ :: rest)
    (hq : q.ready = ⟨⟨schema, .panic, label⟩, t, false⟩ :: rest') :
    Option.Rel (Alike b c) r.runJob? q.runJob? := by
  have ht := h.tail hrest
  have hstart := ht.record (e := .started ⟨⟨schema, .run, label⟩, t, false⟩)
    (d := .started ⟨⟨schema, .panic, label⟩, t, false⟩) rfl rfl
  simp only [runJob?, hr, hq, Job.isEmpty]
  cases hright : t.submission.message.is schema with
  | true => exact .some ((hstart.miss hmissed).endJob false true)
  | false => exact .some (ht.endJob false false)

theorem Alike.runJob (h : Alike b c r q) (hr : Follows b r) (hq : Follows c q) :
    Option.Rel (Alike b c) r.runJob? q.runJob? := by
  have hready := h.ready
  generalize hrs : r.ready = rs, hqs : q.ready = qs at hready
  cases hready with
  | nil =>
    simp only [runJob?, hrs, hqs]
    exact .none
  | @cons j k rest rest' hjob hrest =>
    -- What the jobs of a tag do is told by its route.
    have hj := hr.ready j (hrs ▸ List.mem_cons_self)
    have hk := hq.ready k (hqs ▸ List.mem_cons_self)
    cases hjob with
    | same =>
      refine h.runSame ?_ hrest hrs hqs
      simp [RouterEvent.isSpared, RouterBuilder.agreesAt, RouterBuilder.mode?, hj, hk]
    | panics schema label t =>
      refine h.runPanics ?_ hrest hrs hqs
      simp [RouterEvent.isSpared, RouterBuilder.agreesAt, RouterBuilder.mode?, hj, hk]

/-- A move is possible for both or for neither, and they stay alike. -/
theorem Alike.act (h : Alike b c r q) (hbc : b.Spoiled c) (hr : Follows b r) (hq : Follows c q)
    (a : RouterAct C) : Option.Rel (Alike b c) (r.act? a) (q.act? a) := by
  cases a with
  | submit s =>
    simp only [act?, h.hasSender]
    split
    · exact .some (h.submit s)
    · exact .none
  | release n => exact .some (h.release n)
  | shutdown => exact .some { h with shutdownAsked := rfl }
  | dropSender => exact .some { h with hasSender := rfl }
  | move m =>
    cases m with
    | close => exact h.close
    | notice => exact h.notice
    | take => exact h.take hbc hr.routes hq.routes
    | acquire => exact h.acquire
    | finishTaking => exact h.finishTaking
    | finish => exact h.finish
    | notify => exact h.notify
    | runJob => exact h.runJob hr hq

/-! ## Runs of both -/

/-- Two routers with their own routes, alike after the same acts. -/
structure Abreast (b c : RouterBuilder L) (r q : Router L C) : Prop where
  spoiled : b.Spoiled c
  first : Follows b r
  second : Follows c q
  alike : Alike b c r q

theorem Abreast.act (h : Abreast b c r q) (a : RouterAct C) :
    Option.Rel (Abreast b c) (r.act? a) (q.act? a) := by
  have halike := h.alike.act h.spoiled h.first h.second a
  generalize hr : r.act? a = x, hq : q.act? a = y at halike ⊢
  cases halike with
  | none => exact .none
  | some hsame =>
    exact .some ⟨h.spoiled, h.first.step (step_of_act hr), h.second.step (step_of_act hq), hsame⟩

theorem Abreast.run (h : Abreast b c r q) (acts : List (RouterAct C)) :
    Option.Rel (Abreast b c) (r.run? acts) (q.run? acts) := by
  induction acts generalizing r q with
  | nil => exact .some h
  | cons a rest ih =>
    have hact := h.act a
    simp only [run?, List.foldlM_cons] at ih ⊢
    generalize r.act? a = x, q.act? a = y at hact ⊢
    cases hact with
    | none => exact .none
    | some hnext => exact ih hnext

theorem abreast_spawn (h : b.Spoiled c) : Abreast b c (b.spawn : Router L C) c.spawn :=
  ⟨h, follows_spawn b, follows_spawn c, alike_spawn h⟩

/-- The first possible move is the same for both. -/
theorem Abreast.next (h : Abreast b c r q) :
    r.next? = none ∧ q.next? = none ∨
      ∃ m r' q', r.next? = some r' ∧ q.next? = some q' ∧ r.move? m = some r' ∧
        q.move? m = some q' ∧ Abreast b c r' q' := by
  unfold next?
  induction Move.inOrder with
  | nil => exact .inl ⟨rfl, rfl⟩
  | cons m rest ih =>
    have hmove : Option.Rel (Abreast b c) (r.move? m) (q.move? m) := h.act (.move m)
    rw [List.findSome?_cons, List.findSome?_cons]
    generalize hr : r.move? m = x, hq : q.move? m = y at hmove
    cases hmove with
    | none => exact ih
    | some hnext => exact .inr ⟨m, _, _, rfl, rfl, hr, hq, hnext⟩

/-- Left alone, both come to rest by the same moves. -/
theorem Abreast.settle (h : Abreast b c r q) :
    ∃ moves : List Move, r.run? (moves.map RouterAct.move) = some r.settle ∧
      q.run? (moves.map RouterAct.move) = some q.settle := by
  fun_induction Router.settle r generalizing q with
  | case1 r hnone =>
    rcases h.next with ⟨-, hq⟩ | ⟨m, r', q', hr, -⟩
    · refine ⟨[], rfl, ?_⟩
      rw [Router.settle]
      split
      · rfl
      · next hsome => cases hsome.symm.trans hq
    · cases hr.symm.trans hnone
  | case2 r r' hnext ih =>
    rcases h.next with ⟨hr, -⟩ | ⟨m, r'', q', hr, hq, hrm, hqm, hafter⟩
    · cases hr.symm.trans hnext
    · cases hr.symm.trans hnext
      obtain ⟨moves, hrun, hrun'⟩ := ih hafter
      refine ⟨m :: moves, ?_, ?_⟩
      · rw [List.map_cons, run?, List.foldlM_cons]
        show (r.move? m).bind _ = _
        rw [hrm]
        exact hrun
      · rw [List.map_cons, run?, List.foldlM_cons]
        show (q.move? m).bind _ = _
        rw [hqm, Router.settle, hq]
        exact hrun'

/-! ## What the two have in common -/

/-- The units of the gate that were used: each one let a job through, which has come to its end or
can go on. -/
def gateUsed (r : Router L C) : Nat :=
  r.doneJobs.countP (fun j => decide (j.route.mode = .hold)) + r.ready.countP Job.released

/-- What is told by events as they are but for panics is the same for both. -/
theorem Alike.filterMap_trace (h : Alike b c r q) {E : Type} {f : RouterEvent L C → Option E}
    {g : E → E} (hcalm : ∀ e : RouterEvent L C, e.calm?.bind f = (f e).map g) :
    (q.trace.filterMap f).map g =
      ((r.trace.filter (RouterEvent.isSpared b c)).filterMap f).map g := by
  have htold (es : List (RouterEvent L C)) :
      (es.filterMap RouterEvent.calm?).filterMap f = (es.filterMap f).map g := by
    rw [List.filterMap_filterMap, List.map_filterMap]
    exact List.filterMap_congr fun e _ => hcalm e
  rw [← htold, h.trace, htold]

/-- Only the ends of jobs are missed. -/
theorem filterMap_spared {E : Type} {f : RouterEvent L C → Option E}
    (hdone : ∀ j, f (.done j) = none) (es : List (RouterEvent L C)) :
    (es.filter (RouterEvent.isSpared b c)).filterMap f = es.filterMap f := by
  rw [List.filterMap_filter]
  refine List.filterMap_congr fun e _ => ?_
  cases e with
  | done j =>
    rw [hdone]
    split <;> rfl
  | _ => rfl

theorem Alike.startedJobs (h : Alike b c r q) :
    q.startedJobs.map Job.calm = r.startedJobs.map Job.calm := by
  have htrace := h.filterMap_trace (f := RouterEvent.started?) (g := Job.calm)
    fun e => by cases e <;> rfl
  rw [filterMap_spared fun _ => rfl] at htrace
  exact htrace

theorem Alike.dropped (h : Alike b c r q) : q.dropped = r.dropped := by
  have htrace := h.filterMap_trace (f := RouterEvent.dropped?) (g := id)
    fun e => by cases e <;> rfl
  rw [filterMap_spared fun _ => rfl, List.map_id, List.map_id] at htrace
  exact htrace

theorem Alike.doneJobs (h : Alike b c r q) :
    q.doneJobs = r.doneJobs.filter fun j => b.agreesAt c j.ticket.submission.tag := by
  have htrace := h.filterMap_trace (f := RouterEvent.done?) (g := id)
    fun e => by cases e <;> rfl
  rw [List.map_id, List.map_id, List.filterMap_filter] at htrace
  rw [Router.doneJobs, Router.doneJobs, htrace, List.filter_filterMap]
  refine List.filterMap_congr fun e _ => ?_
  cases e with
  | done j =>
    rw [RouterEvent.done?, Option.filter_some]
    rfl
  | _ => rfl

theorem Alike.hasEnded (h : Alike b c r q) : q.hasEnded = r.hasEnded := by
  have hloop := h.loop
  unfold Router.hasEnded
  generalize r.loop = l, q.loop = m at hloop ⊢
  cases hloop <;> rfl

theorem Abreast.returned_iff (h : Abreast b c r q) (acts : List (RouterAct C)) :
    ShutdownReturned q acts ↔ ShutdownReturned r acts := by
  have hended {before : List (RouterAct C)} {x y : Option (Router L C)} (hr : r.run? before = x)
      (hq : q.run? before = y) :
      (∃ mid, y = some mid ∧ mid.hasEnded = true) ↔ ∃ mid, x = some mid ∧ mid.hasEnded = true := by
    have hrun := h.run before
    rw [hr, hq] at hrun
    cases hrun with
    | none => simp
    | some hmid => simp [hmid.alike.hasEnded]
  constructor
  · rintro ⟨before, after, mid, hacts, hasked, hmid⟩
    obtain ⟨mid', hmid'⟩ := (hended rfl rfl).mp ⟨mid, hmid⟩
    exact ⟨before, after, mid', hacts, hasked, hmid'⟩
  · rintro ⟨before, after, mid, hacts, hasked, hmid⟩
    obtain ⟨mid', hmid'⟩ := (hended rfl rfl).mpr ⟨mid, hmid⟩
    exact ⟨before, after, mid', hacts, hasked, hmid'⟩

/-- Jobs that use a unit of the gate do the same in both. -/
theorem Abreast.gateUsed (h : Abreast b c r q) : q.gateUsed = r.gateUsed := by
  have hready : q.ready.countP Job.released = r.ready.countP Job.released := by
    have hjobs := h.alike.ready
    generalize r.ready = js, q.ready = ks at hjobs ⊢
    induction hjobs with
    | nil => rfl
    | cons hjob _ ih =>
      rw [List.countP_cons, List.countP_cons, ih]
      cases hjob <;> rfl
  have hdone : q.doneJobs.countP (fun j => decide (j.route.mode = .hold)) =
      r.doneJobs.countP fun j => decide (j.route.mode = .hold) := by
    rw [h.alike.doneJobs, List.countP_filter]
    refine List.countP_congr fun j hj => ?_
    obtain ⟨e, he, hjob⟩ := List.mem_filterMap.mp hj
    have hroute : b.find? j.ticket.submission.tag = some j.route := by
      have hreason := h.first.trace e he
      cases e with
      | done k =>
        cases hjob
        exact hreason.1
      | _ => cases hjob
    -- A job that waits for the gate is not one that ran through.
    cases hagrees : b.agreesAt c j.ticket.submission.tag with
    | true => simp
    | false =>
      have hmode := (h.spoiled.modes hagrees).1
      rw [RouterBuilder.mode?, hroute] at hmode
      simp [Option.some.inj hmode]
  rw [Router.gateUsed, Router.gateUsed, hready, hdone]

/-- How a router in which some jobs panic stands beside the one in which they run through, after the
same acts. -/
structure Contained (b c : RouterBuilder L) (acts : List (RouterAct C)) (r q : Router L C) :
    Prop where
  /-- The same jobs start, in the same order. -/
  started : q.startedJobs.map Job.calm = r.startedJobs.map Job.calm
  /-- The same jobs come to their end, in the same order, but for those of the routes that do not do
  the same, -/
  done : q.doneJobs = r.doneJobs.filter fun j => b.agreesAt c j.ticket.submission.tag
  /-- which panic instead. -/
  panicked : ∀ tag, b.agreesAt c tag = false →
    b.mode? tag = some .run ∧ c.mode? tag = some .panic
  /-- Without these ends, and without panics that are noticed, the same happens in the same
  order. -/
  trace : q.trace.filterMap RouterEvent.calm? =
    (r.trace.filter (RouterEvent.isSpared b c)).filterMap RouterEvent.calm?
  /-- As many units of the gate are used, and as many are left. -/
  gate : q.gateUsed = r.gateUsed ∧ q.gate = r.gate
  dropped : q.dropped = r.dropped
  /-- A shutdown completes at the same step of the run, or in neither. -/
  returned : ∀ before, before <+: acts →
    (ShutdownReturned c.spawn before ↔ ShutdownReturned b.spawn before)
  /-- Left alone, both come to rest by the same moves. -/
  rests : ∃ moves : List Move, r.run? (moves.map RouterAct.move) = some r.settle ∧
    q.run? (moves.map RouterAct.move) = some q.settle

/-- Whatever happens to a router, in whatever order it makes its moves: if jobs of some routes panic
instead of running through, the same can happen, and nothing changes but that these jobs do not come
to their end. -/
theorem contained_of_spoiled (h : b.Spoiled c) (n : Nat) (acts : List (RouterAct C)) :
    Option.Rel (Contained (b.withWorkers n) (c.withWorkers n) acts)
      ((b.withWorkers n).spawn.run? acts) ((c.withWorkers n).spawn.run? acts) := by
  have hspawn : Abreast (b.withWorkers n) (c.withWorkers n)
      ((b.withWorkers n).spawn : Router L C) (c.withWorkers n).spawn :=
    abreast_spawn (h.withWorkers n)
  have hrun := hspawn.run acts
  generalize (b.withWorkers n).spawn.run? acts = x, (c.withWorkers n).spawn.run? acts = y at hrun ⊢
  cases hrun with
  | none => exact .none
  | some hboth =>
    exact .some
      { started := hboth.alike.startedJobs
        done := hboth.alike.doneJobs
        panicked := fun tag => hboth.spoiled.modes
        trace := hboth.alike.trace
        gate := ⟨hboth.gateUsed, hboth.alike.gate⟩
        dropped := hboth.alike.dropped
        returned := fun before _ => hspawn.returned_iff before
        rests := hboth.settle }

/-- A job runs through or panics while another one waits for the only worker; that one is held at
the gate when the shutdown comes. -/
def mishapRun : List (RouterAct Nat) :=
  [.submit ⟨Builtin.notice.tag, Builtin.noticeOf "first", 1⟩,
    .submit ⟨Builtin.echo.tag, Builtin.echoOf [], 2⟩, .move .take, .move .acquire, .move .take,
    .move .runJob, .move .acquire, .move .runJob, .shutdown, .move .notify, .move .notice,
    .move .close, .move .finishTaking, .release 1, .move .runJob, .move .notice, .move .finish]

theorem contained_of_mishapRun :
    let routes (mode : JobMode) : RouterBuilder Nat :=
      (RouterBuilder.new.route ⟨Builtin.notice, mode, 0⟩).route ⟨Builtin.echo, .hold, 1⟩
    (routes .run).Spoiled (routes .panic) ∧
      ∃ r q, ((routes .run).withWorkers 1).spawn.run? mishapRun = some r ∧
        ((routes .panic).withWorkers 1).spawn.run? mishapRun = some q ∧
        r.doneJobs.length = 2 ∧ q.doneJobs.length = 1 ∧ q.hasEnded = true ∧
        Contained ((routes .run).withWorkers 1) ((routes .panic).withWorkers 1) mishapRun r q := by
  intro routes
  have h : (routes .run).Spoiled (routes .panic) :=
    ⟨.cons (.same _) (.cons (.panics _ _) .nil), rfl⟩
  have hfirst : (((routes .run).withWorkers 1).spawn.run? mishapRun).map
      (fun r => r.doneJobs.length) = some 2 := by decide
  have hsecond : (((routes .panic).withWorkers 1).spawn.run? mishapRun).map
      (fun q => (q.doneJobs.length, q.hasEnded)) = some (1, true) := by decide
  obtain ⟨r, hr, hdone⟩ := Option.map_eq_some_iff.mp hfirst
  obtain ⟨q, hq, hpair⟩ := Option.map_eq_some_iff.mp hsecond
  obtain ⟨hdone', hended⟩ := Prod.mk.inj hpair
  have hcontained := contained_of_spoiled h 1 mishapRun
  rw [hr, hq] at hcontained
  exact ⟨h, r, q, hr, hq, hdone, hdone', hended, Option.rel_some_some.mp hcontained⟩

end Router

end Switchboard
