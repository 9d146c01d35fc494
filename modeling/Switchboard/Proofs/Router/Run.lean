import Switchboard.Router.State

/-!
# Runs of a router

A router is driven from outside while it makes moves by itself, in whatever order these become
possible. A run is any sequence of both. What one step of a run can do is said once, as a relation;
everything that holds of all runs is proved by cases on it.
-/

namespace Switchboard

/-! ## The routes of a builder -/

namespace RouterBuilder

variable {L : Type}

/-- The builders that some routes, in the order in which they were added, can lead to. -/
inductive Built : List (Route L) → RouterBuilder L → Prop
  | new : Built [] new
  | withWorkers {added : List (Route L)} {b : RouterBuilder L} (h : Built added b) (n : Nat) :
      Built added (b.withWorkers n)
  | route {added : List (Route L)} {b : RouterBuilder L} (h : Built added b) (route : Route L) :
      Built (added ++ [route]) (b.route route)

/-- Whether a route is the last one that was added for a tag. -/
def LastFor (added : List (Route L)) (tag : String) (route : Route L) : Prop :=
  ∃ before after, added = before ++ route :: after ∧ route.schema.tag = tag ∧
    ∀ later ∈ after, later.schema.tag ≠ tag

theorem Built.routes_eq {added : List (Route L)} {b : RouterBuilder L} (h : Built added b) :
    b.routes = added.reverse := by
  induction h with
  | new => rfl
  | withWorkers _ n ih => exact ih
  | route _ route ih =>
    rw [List.reverse_concat, ← ih]
    rfl

theorem Built.find?_eq_some_iff {added : List (Route L)} {b : RouterBuilder L}
    (h : Built added b) {tag : String} {route : Route L} :
    b.find? tag = some route ↔ LastFor added tag route := by
  rw [find?, h.routes_eq, List.find?_eq_some_iff_append]
  simp only [decide_eq_true_eq, Bool.not_eq_true', decide_eq_false_iff_not]
  constructor
  · rintro ⟨htag, later, earlier, hsplit, hlater⟩
    refine ⟨earlier.reverse, later.reverse, ?_, htag, ?_⟩
    · rw [← List.reverse_reverse added, hsplit]
      simp
    · intro r hr
      exact hlater r (List.mem_reverse.mp hr)
  · rintro ⟨before, after, rfl, htag, hafter⟩
    refine ⟨htag, after.reverse, before.reverse, ?_, ?_⟩
    · simp
    · intro r hr
      exact hafter r (List.mem_reverse.mp hr)

theorem Built.find?_eq_none_iff {added : List (Route L)} {b : RouterBuilder L}
    (h : Built added b) {tag : String} :
    b.find? tag = none ↔ ∀ route ∈ added, route.schema.tag ≠ tag := by
  rw [find?, h.routes_eq, List.find?_eq_none]
  simp

end RouterBuilder

/-! ## Acts and runs -/

/-- What can happen to a router: what others do to it, and what it does by itself. -/
inductive RouterAct (C : Type)
  | submit (s : Submission C)
  | release (n : Nat)
  | shutdown
  | dropSender
  | move (m : Router.Move)

namespace Router

variable {L C : Type}

/-- The router after an act; none if the act is not possible. Nobody submits once the last sender is
gone. -/
def act? (r : Router L C) : RouterAct C → Option (Router L C)
  | .submit s => if r.hasSender then some (r.submit s) else none
  | .release n => some (r.release n)
  | .shutdown => some r.shutdown
  | .dropSender => some r.dropSender
  | .move m => r.move? m

/-- The router after several acts. -/
def run? (r : Router L C) (acts : List (RouterAct C)) : Option (Router L C) :=
  acts.foldlM act? r

theorem run?_append (r : Router L C) (before after : List (RouterAct C)) :
    r.run? (before ++ after) = (r.run? before).bind fun mid => mid.run? after :=
  List.foldlM_append

theorem run?_cons {r r' : Router L C} {a : RouterAct C} {acts : List (RouterAct C)}
    (h : r.run? (a :: acts) = some r') :
    ∃ mid, r.act? a = some mid ∧ mid.run? acts = some r' := by
  rw [run?, List.foldlM_cons] at h
  exact Option.bind_eq_some_iff.mp h

/-- What holds at the start of a run, and is kept by every act, holds at its end. -/
theorem run_induction {motive : List (RouterAct C) → Router L C → Prop} {r r' : Router L C}
    (keep : ∀ {acts r a r'}, motive acts r → r.act? a = some r' → motive (acts ++ [a]) r')
    {before acts : List (RouterAct C)} (h : motive before r) (hrun : r.run? acts = some r') :
    motive (before ++ acts) r' := by
  induction acts generalizing r before with
  | nil =>
    cases hrun
    rw [List.append_nil]
    exact h
  | cons a rest ih =>
    obtain ⟨mid, ha, hrest⟩ := run?_cons hrun
    rw [List.append_cons]
    exact ih (keep h ha) hrest

/-- The messages that were submitted in a run. -/
def submissions (acts : List (RouterAct C)) : List (Submission C) :=
  acts.filterMap fun a =>
    match a with
    | .submit s => some s
    | _ => none

/-- The tickets of a run: its submissions, numbered. -/
def tickets (acts : List (RouterAct C)) : List (Ticket C) :=
  (submissions acts).mapIdx Ticket.mk

/-- Whether the loop has closed the queue, or ended, in a run. -/
def Closing (acts : List (RouterAct C)) : Prop :=
  RouterAct.move .close ∈ acts ∨ RouterAct.move .finish ∈ acts

/-- Whether a ticket is for a message that was submitted after the loop had closed the queue or
ended. -/
def Late (acts : List (RouterAct C)) (t : Ticket C) : Prop :=
  ∃ before after, acts = before ++ .submit t.submission :: after ∧
    t.number = (submissions before).length ∧ Closing before

/-- Whether the future of a shutdown has completed in a run: at some point of it a shutdown had been
asked for and the loop had ended. -/
def ShutdownReturned (r : Router L C) (acts : List (RouterAct C)) : Prop :=
  ∃ before after mid, acts = before ++ after ∧ RouterAct.shutdown ∈ before ∧
    r.run? before = some mid ∧ mid.hasEnded = true

theorem submissions_append (acts : List (RouterAct C)) (a : RouterAct C) :
    submissions (acts ++ [a]) = submissions acts ++ submissions [a] :=
  List.filterMap_append

theorem tickets_append_submit (acts : List (RouterAct C)) (s : Submission C) :
    tickets (acts ++ [.submit s]) = tickets acts ++ [⟨(submissions acts).length, s⟩] := by
  rw [tickets, submissions_append]
  exact List.mapIdx_concat

theorem tickets_append_of_none (acts : List (RouterAct C)) {a : RouterAct C}
    (h : submissions [a] = []) : tickets (acts ++ [a]) = tickets acts := by
  rw [tickets, submissions_append, h, List.append_nil]
  rfl

theorem length_tickets (acts : List (RouterAct C)) :
    (tickets acts).length = (submissions acts).length :=
  List.length_mapIdx

/-- Tickets are numbered from zero, without gaps. -/
theorem number_getElem_tickets (acts : List (RouterAct C)) (i : Nat)
    (hi : i < (tickets acts).length) : (tickets acts)[i].number = i := by
  simp [tickets]

theorem number_lt_of_mem_tickets {acts : List (RouterAct C)} {t : Ticket C}
    (h : t ∈ tickets acts) : t.number < (submissions acts).length := by
  obtain ⟨i, hi, rfl⟩ := List.mem_iff_getElem.mp h
  rw [number_getElem_tickets, ← length_tickets]
  exact hi

theorem closing_append {acts : List (RouterAct C)} {a : RouterAct C} :
    Closing (acts ++ [a]) ↔ Closing acts ∨ a = .move .close ∨ a = .move .finish := by
  unfold Closing
  rw [List.mem_append, List.mem_append, List.mem_singleton, List.mem_singleton, or_or_or_comm,
    eq_comm (b := a), eq_comm (b := a)]

/-- The last act makes its own ticket late, if any. -/
theorem late_append {acts : List (RouterAct C)} {a : RouterAct C} {t : Ticket C} :
    Late (acts ++ [a]) t ↔
      Late acts t ∨
        a = .submit t.submission ∧ t.number = (submissions acts).length ∧ Closing acts := by
  constructor
  · rintro ⟨before, after, hsplit, hnumber, hclosing⟩
    rcases List.eq_nil_or_concat after with rfl | ⟨init, last, rfl⟩
    · obtain ⟨rfl, ha⟩ := List.append_inj' hsplit rfl
      exact .inr ⟨List.singleton_inj.mp ha, hnumber, hclosing⟩
    · -- The last act came behind the submission.
      have hsplit : acts ++ [a] = (before ++ .submit t.submission :: init) ++ [last] := by
        rw [hsplit]
        simp
      obtain ⟨rfl, -⟩ := List.append_inj' hsplit rfl
      exact .inl ⟨before, init, rfl, hnumber, hclosing⟩
  · rintro (⟨before, after, rfl, hnumber, hclosing⟩ | ⟨rfl, hnumber, hclosing⟩)
    · exact ⟨before, after ++ [a], by simp, hnumber, hclosing⟩
    · exact ⟨acts, [], rfl, hnumber, hclosing⟩

theorem sorted_tickets (acts : List (RouterAct C)) :
    (tickets acts).Pairwise fun t u => t.number < u.number := by
  rw [List.pairwise_iff_getElem]
  intro i j hi hj hij
  rw [number_getElem_tickets, number_getElem_tickets]
  exact hij

/-! ## What a step can do -/

/-- The steps of a run. -/
inductive Step (r : Router L C) : RouterAct C → Router L C → Prop
  | refuse {s : Submission C} (sender : r.hasSender = true) (closed : r.closed = true) :
      Step r (.submit s)
        (record { r with submitted := r.submitted + 1 } (.refused ⟨r.submitted, s⟩))
  | enqueue {s : Submission C} (sender : r.hasSender = true) (not_closed : r.closed = false) :
      Step r (.submit s)
        { r with submitted := r.submitted + 1, queue := r.queue ++ [⟨r.submitted, s⟩] }
  | release (n : Nat) : Step r (.release n) (r.release n)
  | shutdown : Step r .shutdown r.shutdown
  | dropSender : Step r .dropSender r.dropSender
  | close (idle : r.loop = .idle) (notified : r.notified = true) :
      Step r (.move .close) { r with loop := .draining, notified := false, closed := true }
  | notice {panicked : Bool} {rest : List Bool} (noticing : r.isNoticing = true)
      (results : r.results = panicked :: rest) :
      Step r (.move .notice)
        (if panicked then record { r with results := rest } .failed else { r with results := rest })
  | dropUnrouted {draining : Bool} {t : Ticket C} {rest : List (Ticket C)}
      (taking : r.taking? = some draining) (queue : r.queue = t :: rest)
      (no_route : r.routes.find? t.submission.tag = none) :
      Step r (.move .take) (record { r with queue := rest } (.unrouted t))
  | take {draining : Bool} {t : Ticket C} {rest : List (Ticket C)} {route : Route L}
      (taking : r.taking? = some draining) (queue : r.queue = t :: rest)
      (found : r.routes.find? t.submission.tag = some route) :
      Step r (.move .take) { r with queue := rest, loop := .waiting route t draining }
  | dropMismatched {route : Route L} {t : Ticket C} {draining : Bool}
      (waiting : r.loop = .waiting route t draining) (worker : r.free ≠ 0)
      (wrong : t.submission.message.is route.schema = false) :
      Step r (.move .acquire)
        (record
          { r with
            loop := if draining then .draining else .idle
            free := r.free - 1
            ready := r.ready ++ [⟨route, t, false⟩] }
          (.mismatched route t))
  | spawn {route : Route L} {t : Ticket C} {draining : Bool}
      (waiting : r.loop = .waiting route t draining) (worker : r.free ≠ 0)
      (right : t.submission.message.is route.schema = true) :
      Step r (.move .acquire)
        { r with
          loop := if draining then .draining else .idle
          free := r.free - 1
          ready := r.ready ++ [⟨route, t, false⟩] }
  | stopTaking (queue : r.queue = [])
      (last : r.loop = .idle ∧ r.hasSender = false ∨ r.loop = .draining) :
      Step r (.move .finishTaking) { r with loop := .joining }
  | finish (joining : r.loop = .joining) (ready : r.ready = []) (held : r.held = [])
      (results : r.results = []) : Step r (.move .finish) { r with loop := .ended, closed := true }
  | notify (asked : r.shutdownAsked = true) (not_notified : r.notified = false) :
      Step r (.move .notify) { r with shutdownAsked := false, notified := true }
  | runEmpty {j : Job L C} {rest : List (Job L C)} (ready : r.ready = j :: rest)
      (empty : j.isEmpty = true) : Step r (.move .runJob) (endJob { r with ready := rest } false)
  | resume {j : Job L C} {rest : List (Job L C)} (ready : r.ready = j :: rest)
      (not_empty : j.isEmpty = false) (released : j.released = true) :
      Step r (.move .runJob) (endJob (record { r with ready := rest } (.done j)) false)
  | runThrough {j : Job L C} {rest : List (Job L C)} (ready : r.ready = j :: rest)
      (not_empty : j.isEmpty = false) (not_released : j.released = false)
      (mode : j.route.mode = .run) :
      Step r (.move .runJob)
        (endJob (record (record { r with ready := rest } (.started j)) (.done j)) false)
  | panic {j : Job L C} {rest : List (Job L C)} (ready : r.ready = j :: rest)
      (not_empty : j.isEmpty = false) (not_released : j.released = false)
      (mode : j.route.mode = .panic) :
      Step r (.move .runJob) (endJob (record { r with ready := rest } (.started j)) true)
  | passGate {j : Job L C} {rest : List (Job L C)} (ready : r.ready = j :: rest)
      (not_empty : j.isEmpty = false) (not_released : j.released = false)
      (mode : j.route.mode = .hold) (gate : 0 < r.gate) :
      Step r (.move .runJob)
        (endJob
          (record (record { r with ready := rest, gate := r.gate - 1 } (.started j)) (.done j))
          false)
  | hold {j : Job L C} {rest : List (Job L C)} (ready : r.ready = j :: rest)
      (not_empty : j.isEmpty = false) (not_released : j.released = false)
      (mode : j.route.mode = .hold) (gate : r.gate = 0) :
      Step r (.move .runJob)
        (record { r with ready := rest, held := r.held ++ [j] } (.started j))

variable {r r' : Router L C}

theorem step_submit {s : Submission C} (h : r.act? (.submit s) = some r') :
    Step r (.submit s) r' := by
  simp only [act?] at h
  split at h
  · next hsender =>
    cases h
    unfold submit
    by_cases hclosed : r.closed = true
    · dsimp only
      rw [if_pos hclosed]
      exact .refuse hsender hclosed
    · dsimp only
      rw [if_neg hclosed]
      exact .enqueue hsender (eq_false_of_ne_true hclosed)
  · cases h

theorem step_close (h : r.close? = some r') : Step r (.move .close) r' := by
  unfold close? at h
  split at h
  · next hloop =>
    split at h
    · next hnotified =>
      cases h
      exact .close hloop hnotified
    · cases h
  · cases h

theorem step_notice (h : r.notice? = some r') : Step r (.move .notice) r' := by
  unfold notice? at h
  split at h
  · next panicked rest hnoticing hresults =>
    cases h
    exact .notice hnoticing hresults
  · cases h

theorem step_take (h : r.take? = some r') : Step r (.move .take) r' := by
  unfold take? at h
  split at h
  · next draining t rest htaking hqueue =>
    dsimp only at h
    split at h
    · next hnone =>
      cases h
      exact .dropUnrouted htaking hqueue hnone
    · next route hfound =>
      cases h
      exact .take htaking hqueue hfound
  · cases h

theorem step_acquire (h : r.acquire? = some r') : Step r (.move .acquire) r' := by
  unfold acquire? at h
  split at h
  · next route t draining hwaiting =>
    split at h
    · cases h
    · next hfree =>
      dsimp only at h
      split at h
      · next hempty =>
        cases h
        exact .dropMismatched hwaiting hfree (by simpa [Job.isEmpty] using hempty)
      · next hempty =>
        cases h
        exact .spawn hwaiting hfree (by simpa [Job.isEmpty] using hempty)
  · cases h

theorem step_finishTaking (h : r.finishTaking? = some r') : Step r (.move .finishTaking) r' := by
  unfold finishTaking? at h
  split at h
  · next hloop =>
    split at h
    · next hlast =>
      cases h
      simp only [Bool.and_eq_true, List.isEmpty_iff, Bool.not_eq_true'] at hlast
      exact .stopTaking hlast.1 (.inl ⟨hloop, hlast.2⟩)
    · cases h
  · next hloop =>
    split at h
    · next hqueue =>
      cases h
      exact .stopTaking (List.isEmpty_iff.mp hqueue) (.inr hloop)
    · cases h
  · cases h

theorem step_finish (h : r.finish? = some r') : Step r (.move .finish) r' := by
  unfold finish? at h
  split at h
  · next hloop =>
    split at h
    · next hempty =>
      cases h
      simp only [Bool.and_eq_true, List.isEmpty_iff] at hempty
      exact .finish hloop hempty.1.1 hempty.1.2 hempty.2
    · cases h
  · cases h

theorem step_notify (h : r.notify? = some r') : Step r (.move .notify) r' := by
  unfold notify? at h
  split at h
  · next hasked =>
    cases h
    simp only [Bool.and_eq_true, Bool.not_eq_true'] at hasked
    exact .notify hasked.1 hasked.2
  · cases h

theorem step_runJob (h : r.runJob? = some r') : Step r (.move .runJob) r' := by
  unfold runJob? at h
  split at h
  · cases h
  · next j rest hready =>
    dsimp only at h
    by_cases hempty : j.isEmpty = true
    · rw [if_pos hempty] at h
      cases h
      exact .runEmpty hready hempty
    · rw [if_neg hempty] at h
      have hempty := eq_false_of_ne_true hempty
      by_cases hreleased : j.released = true
      · rw [if_pos hreleased] at h
        cases h
        exact .resume hready hempty hreleased
      · rw [if_neg hreleased] at h
        have hreleased := eq_false_of_ne_true hreleased
        split at h
        · next hmode =>
          cases h
          exact .runThrough hready hempty hreleased hmode
        · next hmode =>
          cases h
          exact .panic hready hempty hreleased hmode
        · next hmode =>
          split at h
          · next hgate =>
            cases h
            exact .passGate hready hempty hreleased hmode hgate
          · next hgate =>
            cases h
            exact .hold hready hempty hreleased hmode (Nat.eq_zero_of_not_pos hgate)

/-- Every act is one of the steps. -/
theorem step_of_act {a : RouterAct C} (h : r.act? a = some r') : Step r a r' := by
  cases a with
  | submit s => exact step_submit h
  | release n =>
    cases h
    exact .release n
  | shutdown =>
    cases h
    exact .shutdown
  | dropSender =>
    cases h
    exact .dropSender
  | move m =>
    cases m with
    | close => exact step_close h
    | notice => exact step_notice h
    | take => exact step_take h
    | acquire => exact step_acquire h
    | finishTaking => exact step_finishTaking h
    | finish => exact step_finish h
    | notify => exact step_notify h
    | runJob => exact step_runJob h

/-- What every step keeps, a run keeps. -/
theorem kept_of_run {P : Router L C → Prop} (keep : ∀ {r a r'}, P r → Step r a r' → P r')
    {acts : List (RouterAct C)} (h : P r) (hrun : r.run? acts = some r') : P r' :=
  @run_induction L C (fun _ r => P r) r r' (fun h hact => keep h (step_of_act hact)) [] acts h hrun

end Router

end Switchboard
