import Mathlib.Algebra.Order.Group.Multiset
import Mathlib.Tactic.Abel
import Switchboard.Proofs.Router.Routing
import Switchboard.Router.Settle

/-!
# Workers

A worker is free or held by one job, from the moment in which the loop gives it to the job until the
job ends, whichever way it ends. So there are never more jobs at work than workers, and each worker
that was given out comes back once. A router that has come to rest leaves a submission undecided
only if all workers are with jobs that are held at the gate; it has ended if it was told to and no
job is left.
-/

namespace Switchboard

variable {L C : Type}

/-- The ticket that an event drops because its route is for another type. -/
def RouterEvent.mismatched? : RouterEvent L C → Option (Ticket C)
  | .mismatched _ t => some t
  | _ => none

/-- Whether the loop has learned that it is to end. -/
def LoopState.isLeaving : LoopState L C → Bool
  | .idle => false
  | .waiting _ _ last => last
  | .draining | .joining | .ended => true

namespace Job

/-- The tickets of some jobs. -/
def tickets (js : List (Job L C)) : List (Ticket C) :=
  js.map ticket

/-- The tickets of those jobs that are empty. -/
def emptyTickets (js : List (Job L C)) : List (Ticket C) :=
  (js.filter isEmpty).map ticket

theorem emptyTickets_append (js ks : List (Job L C)) :
    emptyTickets (js ++ ks) = emptyTickets js ++ emptyTickets ks := by
  rw [emptyTickets, List.filter_append, List.map_append]
  rfl

theorem emptyTickets_cons {j : Job L C} (h : j.isEmpty = true) (js : List (Job L C)) :
    emptyTickets (j :: js) = j.ticket :: emptyTickets js := by
  rw [emptyTickets, List.filter_cons_of_pos h]
  rfl

theorem emptyTickets_cons_of_not {j : Job L C} (h : j.isEmpty = false) (js : List (Job L C)) :
    emptyTickets (j :: js) = emptyTickets js := by
  rw [emptyTickets, List.filter_cons_of_neg (ne_true_of_eq_false h)]
  rfl

theorem emptyTickets_released (js : List (Job L C)) :
    emptyTickets (js.map fun j => { j with released := true }) = emptyTickets js := by
  rw [emptyTickets, List.filter_map, List.map_map]
  rfl

/-- The origins of jobs that are not empty show the tickets that are not empty. -/
theorem tickets_perm (js : List (Job L C)) :
    (tickets js).Perm (emptyTickets js ++ (origins js).map Prod.snd) := by
  have horigins : (origins js).map Prod.snd = (js.filter fun j => !j.isEmpty).map ticket := by
    rw [origins, List.map_map]
    rfl
  rw [horigins, emptyTickets, ← List.map_append]
  exact (List.filter_append_perm isEmpty js).symm.map ticket

/-- A job that is not empty has started and not ended, or has not started. -/
theorem origins_perm (ready : List (Job L C)) :
    ((origins ready).map Prod.snd).Perm
      (freshTickets ready ++ (origins (ready.filter released)).map Prod.snd) := by
  induction ready with
  | nil => exact List.Perm.refl _
  | cons j js ih =>
    cases hempty : j.isEmpty with
    | true =>
      have hfresh : ¬ j.isFresh = true := by simp [isFresh, hempty]
      have hrest : origins ((j :: js).filter released) = origins (js.filter released) := by
        cases hreleased : j.released with
        | true => rw [List.filter_cons_of_pos hreleased, origins_cons_of_empty hempty]
        | false => rw [List.filter_cons_of_neg (ne_true_of_eq_false hreleased)]
      rw [origins_cons_of_empty hempty, hrest, freshTickets, List.filter_cons_of_neg hfresh]
      exact ih
    | false =>
      rw [origins_cons hempty, List.map_cons]
      cases hreleased : j.released with
      | true =>
        have hfresh : ¬ j.isFresh = true := by simp [isFresh, hreleased]
        rw [List.filter_cons_of_pos hreleased, origins_cons hempty, List.map_cons, freshTickets,
          List.filter_cons_of_neg hfresh]
        exact (ih.cons _).trans List.perm_middle.symm
      | false =>
        have hfresh := isFresh_of_not hempty hreleased
        rw [List.filter_cons_of_neg (ne_true_of_eq_false hreleased), freshTickets,
          List.filter_cons_of_pos hfresh]
        exact ih.cons _

end Job

namespace Router

variable {r r' : Router L C} {a : RouterAct C} {b : RouterBuilder L}

/-! ## Who holds a worker -/

/-- The jobs that hold a worker. -/
def holders (r : Router L C) : List (Job L C) :=
  r.ready ++ r.held

/-- The tickets that were dropped because their route is for another type. -/
def mismatchedTickets (r : Router L C) : List (Ticket C) :=
  r.trace.filterMap RouterEvent.mismatched?

/-- The tickets whose jobs have come to their end. -/
def doneTickets (r : Router L C) : List (Ticket C) :=
  Job.tickets r.doneJobs

/-- The tickets whose jobs have panicked. -/
def panickedTickets (r : Router L C) : List (Ticket C) :=
  Job.tickets (r.startedJobs.filter fun j => decide (j.route.mode = .panic))

/-- The tickets that were given a worker: they were found to be for another type, or their jobs have
started, or are about to start. -/
def takers (r : Router L C) : List (Ticket C) :=
  r.mismatchedTickets ++ (r.startedTickets ++ Job.freshTickets r.ready)

/-- How many workers were given out in a run. -/
def takings (acts : List (RouterAct C)) : Nat :=
  acts.countP fun a =>
    match a with
    | .move .acquire => true
    | _ => false

theorem mismatchedTickets_of_none {e : RouterEvent L C} (h : e.mismatched? = none) :
    (r.record e).mismatchedTickets = r.mismatchedTickets :=
  filterMap_record_of_none h

theorem mismatchedTickets_mismatched (r : Router L C) (route : Route L) (t : Ticket C) :
    (r.record (.mismatched route t)).mismatchedTickets = r.mismatchedTickets ++ [t] :=
  filterMap_record_of_some rfl

/-- A job that ends gives back its worker. -/
theorem free_add_holders_of_end {j : Job L C} {rest : List (Job L C)} (ready : r.ready = j :: rest)
    (free : r'.free = r.free + 1) (ready' : r'.ready = rest) (held : r'.held = r.held) :
    r'.free + r'.holders.length = r.free + r.holders.length := by
  rw [holders, holders, ready', held, ready, free]
  simp only [List.length_append, List.length_cons]
  omega

/-- A worker that is given out is with a new job. -/
theorem free_add_holders_of_new {j : Job L C} (worker : r.free ≠ 0) (free : r'.free = r.free - 1)
    (ready : r'.ready = r.ready ++ [j]) (held : r'.held = r.held) :
    r'.free + r'.holders.length = r.free + r.holders.length := by
  rw [holders, holders, ready, held, free]
  simp only [List.length_append, List.length_singleton]
  omega

/-- Each worker is free or with one job, before a step and after it. -/
theorem Step.free_add_holders (h : Step r a r') :
    r'.free + r'.holders.length = r.free + r.holders.length := by
  cases h with
  | release n =>
    simp only [holders, Router.release, List.length_append, List.length_map, List.length_take,
      List.length_drop]
    omega
  | @notice panicked rest noticing results => cases panicked <;> rfl
  | dropMismatched waiting worker wrong => exact free_add_holders_of_new worker rfl rfl rfl
  | spawn waiting worker right => exact free_add_holders_of_new worker rfl rfl rfl
  | runEmpty ready empty => exact free_add_holders_of_end ready rfl rfl rfl
  | resume ready not_empty released => exact free_add_holders_of_end ready rfl rfl rfl
  | runThrough ready not_empty not_released mode => exact free_add_holders_of_end ready rfl rfl rfl
  | panic ready not_empty not_released mode => exact free_add_holders_of_end ready rfl rfl rfl
  | passGate ready not_empty not_released mode gate =>
    exact free_add_holders_of_end ready rfl rfl rfl
  | @hold j rest ready not_empty not_released mode gate =>
    -- The job keeps its worker at the gate.
    show r.free + (rest ++ (r.held ++ [j])).length = _
    rw [holders, ready]
    simp only [List.length_append, List.length_cons, List.length_nil]
    omega
  | _ => rfl

/-! ## Whom workers were given to -/

/-- The ticket that an act gives a worker. -/
def given (r : Router L C) : RouterAct C → List (Ticket C)
  | .move .acquire => r.loop.inHand
  | _ => []

theorem takers_of_rest (mismatched : r'.mismatchedTickets = r.mismatchedTickets)
    (started : r'.startedTickets = r.startedTickets)
    (fresh : Job.freshTickets r'.ready = Job.freshTickets r.ready) :
    r'.takers.Perm (r.takers ++ []) := by
  rw [takers, takers, mismatched, started, fresh, List.append_nil]

/-- A job that starts was given its worker before. -/
theorem takers_of_start {j : Job L C} {rest : List (Job L C)} (ready : r.ready = j :: rest)
    (hfresh : j.isFresh = true) (mismatched : r'.mismatchedTickets = r.mismatchedTickets)
    (started : r'.startedTickets = r.startedTickets ++ [j.ticket]) (ready' : r'.ready = rest) :
    r'.takers.Perm (r.takers ++ []) := by
  have hline : Job.freshTickets r.ready = j.ticket :: Job.freshTickets rest := by
    rw [ready, Job.freshTickets, List.filter_cons_of_pos hfresh]
    rfl
  rw [takers, takers, mismatched, started, ready', hline, List.append_nil, ← List.append_cons]

theorem freshTickets_of_not_fresh {j : Job L C} {rest : List (Job L C)}
    (ready : r.ready = j :: rest) (hfresh : ¬ j.isFresh = true) :
    Job.freshTickets rest = Job.freshTickets r.ready := by
  rw [ready, Job.freshTickets, Job.freshTickets, List.filter_cons_of_neg hfresh]

/-- Workers are given to the ticket in the loop's hand, and to no other. -/
theorem Step.takers_perm (h : Step r a r') : r'.takers.Perm (r.takers ++ r.given a) := by
  cases h with
  | refuse sender closed =>
    exact takers_of_rest (mismatchedTickets_of_none rfl) (startedTickets_of_none rfl) rfl
  | release n =>
    refine takers_of_rest rfl rfl ?_
    show Job.freshTickets (_ ++ _) = _
    rw [freshTickets_append, freshTickets_released, List.append_nil]
  | @notice panicked rest noticing results =>
    cases panicked with
    | false => exact takers_of_rest rfl rfl rfl
    | true =>
      exact takers_of_rest (mismatchedTickets_of_none rfl) (startedTickets_of_none rfl) rfl
  | dropUnrouted taking queue no_route =>
    exact takers_of_rest (mismatchedTickets_of_none rfl) (startedTickets_of_none rfl) rfl
  | @dropMismatched route t draining waiting worker wrong =>
    have hfresh : Job.freshTickets (r.ready ++ [⟨route, t, false⟩]) = Job.freshTickets r.ready := by
      rw [freshTickets_append, freshTickets_new, wrong]
      exact List.append_nil _
    rw [takers, takers, given, waiting, mismatchedTickets_mismatched, startedTickets_of_none rfl]
    show (_ ++ (_ ++ Job.freshTickets (r.ready ++ _))).Perm _
    rw [hfresh, List.append_assoc, List.append_assoc]
    exact List.perm_append_comm.append_left _
  | @spawn route t draining waiting worker right =>
    have hfresh : Job.freshTickets (r.ready ++ [⟨route, t, false⟩])
        = Job.freshTickets r.ready ++ [t] := by
      rw [freshTickets_append, freshTickets_new, right]
      rfl
    rw [takers, takers, given, waiting]
    show (r.mismatchedTickets ++ (r.startedTickets ++ Job.freshTickets (r.ready ++ _))).Perm _
    rw [hfresh, List.append_assoc, List.append_assoc]
    exact List.Perm.refl _
  | runEmpty ready empty =>
    refine takers_of_rest rfl rfl (freshTickets_of_not_fresh ready ?_)
    simp [Job.isFresh, empty]
  | resume ready not_empty released =>
    refine takers_of_rest (mismatchedTickets_of_none rfl) (startedTickets_of_none rfl)
      (freshTickets_of_not_fresh ready ?_)
    simp [Job.isFresh, released]
  | @runThrough j rest ready not_empty not_released mode =>
    refine takers_of_start ready (Job.isFresh_of_not not_empty not_released) ?_ ?_ rfl
    · exact (mismatchedTickets_of_none rfl).trans (mismatchedTickets_of_none rfl)
    · exact (startedTickets_of_none rfl).trans (startedTickets_started _ j)
  | @panic j rest ready not_empty not_released mode =>
    exact takers_of_start ready (Job.isFresh_of_not not_empty not_released)
      (mismatchedTickets_of_none rfl) (startedTickets_started _ j) rfl
  | @passGate j rest ready not_empty not_released mode gate =>
    refine takers_of_start ready (Job.isFresh_of_not not_empty not_released) ?_ ?_ rfl
    · exact (mismatchedTickets_of_none rfl).trans (mismatchedTickets_of_none rfl)
    · exact (startedTickets_of_none rfl).trans (startedTickets_started _ j)
  | @hold j rest ready not_empty not_released mode gate =>
    exact takers_of_start ready (Job.isFresh_of_not not_empty not_released)
      (mismatchedTickets_of_none rfl) (startedTickets_started _ j) rfl
  | _ => exact takers_of_rest rfl rfl rfl

/-! ## Who gave workers back -/

/-- Each ticket that was dropped because its route is for another type has an empty job, which holds
a worker until its turn comes, or had one. -/
def EmptyBooked (r : Router L C) : Prop :=
  ∃ passed, r.mismatchedTickets.Perm (passed ++ Job.emptyTickets r.holders)

theorem EmptyBooked.of_perm (h : r.EmptyBooked)
    (mismatched : r'.mismatchedTickets = r.mismatchedTickets)
    (empty : (Job.emptyTickets r'.holders).Perm (Job.emptyTickets r.holders)) : r'.EmptyBooked := by
  obtain ⟨passed, hpassed⟩ := h
  refine ⟨passed, ?_⟩
  rw [mismatched]
  exact hpassed.trans (empty.symm.append_left _)

/-- A job for a message of its own type does not matter here. -/
theorem EmptyBooked.of_end (h : r.EmptyBooked) {j : Job L C} {rest : List (Job L C)}
    (ready : r.ready = j :: rest) (not_empty : j.isEmpty = false)
    (mismatched : r'.mismatchedTickets = r.mismatchedTickets) (ready' : r'.ready = rest)
    (held : r'.held = r.held) : r'.EmptyBooked := by
  refine h.of_perm mismatched (List.Perm.of_eq ?_)
  rw [holders, holders, ready', held, ready, List.cons_append,
    Job.emptyTickets_cons_of_not not_empty]

theorem EmptyBooked.step (h : r.EmptyBooked) (hstep : Step r a r') : r'.EmptyBooked := by
  cases hstep with
  | refuse sender closed => exact h.of_perm (mismatchedTickets_of_none rfl) (List.Perm.refl _)
  | release n =>
    refine h.of_perm rfl ?_
    have hsplit : Job.emptyTickets r.held
        = Job.emptyTickets (r.held.take n) ++ Job.emptyTickets (r.held.drop n) := by
      rw [← Job.emptyTickets_append, List.take_append_drop]
    show (Job.emptyTickets (_ ++ _ ++ r.held.drop n)).Perm _
    rw [Job.emptyTickets_append, Job.emptyTickets_append, Job.emptyTickets_released, holders,
      Job.emptyTickets_append, hsplit, List.append_assoc]
  | @notice panicked rest noticing results =>
    cases panicked with
    | false => exact h
    | true => exact h.of_perm (mismatchedTickets_of_none rfl) (List.Perm.refl _)
  | dropUnrouted taking queue no_route =>
    exact h.of_perm (mismatchedTickets_of_none rfl) (List.Perm.refl _)
  | @dropMismatched route t draining waiting worker wrong =>
    obtain ⟨passed, hpassed⟩ := h
    have hempty : (⟨route, t, false⟩ : Job L C).isEmpty = true := by simp [Job.isEmpty, wrong]
    refine ⟨passed, ?_⟩
    rw [mismatchedTickets_mismatched]
    show (_ ++ [t]).Perm (passed ++ Job.emptyTickets (r.ready ++ [_] ++ r.held))
    rw [List.append_assoc, Job.emptyTickets_append, List.singleton_append,
      Job.emptyTickets_cons hempty]
    rw [holders, Job.emptyTickets_append] at hpassed
    refine (List.perm_append_singleton t _).trans ((hpassed.cons t).trans ?_)
    rw [← List.append_assoc, ← List.append_assoc]
    exact List.perm_middle.symm
  | @spawn route t draining waiting worker right =>
    have hempty : (⟨route, t, false⟩ : Job L C).isEmpty = false := by simp [Job.isEmpty, right]
    refine h.of_perm rfl (List.Perm.of_eq ?_)
    show Job.emptyTickets (r.ready ++ [_] ++ r.held) = _
    rw [List.append_assoc, Job.emptyTickets_append, List.singleton_append,
      Job.emptyTickets_cons_of_not hempty, holders, Job.emptyTickets_append]
  | @runEmpty j rest ready empty =>
    -- The empty job has passed without a trace.
    obtain ⟨passed, hpassed⟩ := h
    refine ⟨passed ++ [j.ticket], hpassed.trans (List.Perm.of_eq ?_)⟩
    rw [holders, ready, List.cons_append, Job.emptyTickets_cons empty, List.append_cons]
    rfl
  | resume ready not_empty released =>
    exact h.of_end ready not_empty (mismatchedTickets_of_none rfl) rfl rfl
  | runThrough ready not_empty not_released mode =>
    refine h.of_end ready not_empty ?_ rfl rfl
    exact (mismatchedTickets_of_none rfl).trans (mismatchedTickets_of_none rfl)
  | panic ready not_empty not_released mode =>
    exact h.of_end ready not_empty (mismatchedTickets_of_none rfl) rfl rfl
  | passGate ready not_empty not_released mode gate =>
    refine h.of_end ready not_empty ?_ rfl rfl
    exact (mismatchedTickets_of_none rfl).trans (mismatchedTickets_of_none rfl)
  | @hold j rest ready not_empty not_released mode gate =>
    refine h.of_perm (mismatchedTickets_of_none rfl) (List.Perm.of_eq ?_)
    show Job.emptyTickets (rest ++ (r.held ++ [j])) = _
    rw [holders, ready, List.cons_append, Job.emptyTickets_cons_of_not not_empty,
      Job.emptyTickets_append, Job.emptyTickets_append, Job.emptyTickets_append,
      Job.emptyTickets_cons_of_not not_empty]
    exact congrArg (_ ++ ·) (List.append_nil _)
  | _ => exact h

/-- Of the tickets that were given a worker some have given it back: their jobs have come to their
end, or have panicked, or were empty and have passed. The others have a job that holds it. -/
theorem takers_perm_of_booked (hjobs : r.JobsBooked) (hempty : r.EmptyBooked) :
    ∃ passed, passed ⊆ r.mismatchedTickets ∧
      r.takers.Perm (r.doneTickets ++ r.panickedTickets ++ passed ++ Job.tickets r.holders) := by
  obtain ⟨passed, hpassed⟩ := hempty
  refine ⟨passed, fun t ht => hpassed.symm.subset (List.mem_append_left _ ht), ?_⟩
  have hstarted : r.startedTickets.Perm (r.panickedTickets ++ r.toFinish.map Prod.snd) := by
    have hfinish : r.toFinish.map Prod.snd
        = (r.startedJobs.filter fun j => !decide (j.route.mode = .panic)).map Job.ticket := by
      rw [toFinish, List.map_map]
      simp only [ne_eq, decide_not]
      rfl
    rw [hfinish, panickedTickets, Job.tickets, ← List.map_append]
    exact (List.filter_append_perm _ _).symm.map _
  have hdone : (r.doneJobs.map Job.origin).map Prod.snd = r.doneTickets := by
    rw [List.map_map]
    rfl
  have hfinish := hjobs.map Prod.snd
  rw [List.map_append, hdone, Job.running, List.map_append] at hfinish
  have hready := Job.origins_perm r.ready
  have hholders := Job.tickets_perm r.holders
  have horigins : Job.origins r.holders = Job.origins r.ready ++ Job.origins r.held :=
    Job.origins_append _ _
  rw [horigins, List.map_append] at hholders
  -- All that is left is to count each part once on either side.
  rw [← Multiset.coe_eq_coe] at *
  simp only [takers, ← Multiset.coe_add] at *
  rw [hpassed, hstarted, hfinish, hholders, hready]
  abel

/-- A ticket is given a worker once. -/
theorem Booked.takers_nodup {acts : List (RouterAct C)} (h : Booked acts r) : r.takers.Nodup := by
  have hmismatched : r.mismatchedTickets.Sublist r.dropped := by
    unfold mismatchedTickets dropped
    induction r.trace with
    | nil => exact List.Sublist.slnil
    | cons e es ih =>
      cases e with
      | mismatched route t => exact ih.cons_cons t
      | refused t => exact ih.cons t
      | unrouted t => exact ih.cons t
      | started j => exact ih
      | done j => exact ih
      | failed => exact ih
  have hstarted : (r.startedTickets ++ Job.freshTickets r.ready).Sublist
      (r.startedTickets ++ r.undecided) := by
    refine (List.Sublist.refl _).append ?_
    rw [undecided, List.append_assoc]
    exact List.sublist_append_left _ _
  exact h.nodup.sublist (hmismatched.append hstarted)

/-! ## At the gate -/

/-- Whoever is held at the gate has started and finds no unit there. -/
structure Held (r : Router L C) : Prop where
  shut : r.held = [] ∨ r.gate = 0
  started : ∀ j ∈ r.held, j.route.mode = .hold ∧ .started j ∈ r.trace

theorem Held.congr (h : r.Held) (held : r'.held = r.held) (gate : r'.gate = r.gate)
    (trace : r.trace ⊆ r'.trace) : r'.Held where
  shut := by
    rw [held, gate]
    exact h.shut
  started := by
    intro j hj
    rw [held] at hj
    exact ⟨(h.started j hj).1, trace (h.started j hj).2⟩

theorem Held.step (h : r.Held) (hstep : Step r a r') : r'.Held := by
  have recorded (e : RouterEvent L C) : r.trace ⊆ r.trace ++ [e] := List.subset_append_left _ _
  have twice (e d : RouterEvent L C) : r.trace ⊆ r.trace ++ [e] ++ [d] :=
    fun _ hx => List.mem_append_left _ (List.mem_append_left _ hx)
  cases hstep with
  | refuse sender closed => exact h.congr rfl rfl (recorded _)
  | release n =>
    refine ⟨?_, ?_⟩
    · -- What is left of the units is nothing as long as somebody is left.
      by_cases hn : r.held.length ≤ n
      · exact .inl (List.drop_eq_nil_iff.mpr hn)
      · have hshut : r.gate = 0 := by
          rcases h.shut with hnone | hzero
          · simp [hnone] at hn
          · exact hzero
        refine .inr ?_
        show r.gate + (n - r.held.length) = 0
        omega
    · intro j hj
      exact h.started j (List.mem_of_mem_drop hj)
  | @notice panicked rest noticing results =>
    cases panicked with
    | false => exact h.congr rfl rfl (List.Subset.refl _)
    | true => exact h.congr rfl rfl (recorded _)
  | dropUnrouted taking queue no_route => exact h.congr rfl rfl (recorded _)
  | dropMismatched waiting worker wrong => exact h.congr rfl rfl (recorded _)
  | resume ready not_empty released => exact h.congr rfl rfl (recorded _)
  | runThrough ready not_empty not_released mode => exact h.congr rfl rfl (twice _ _)
  | panic ready not_empty not_released mode => exact h.congr rfl rfl (recorded _)
  | passGate ready not_empty not_released mode gate =>
    have hnone : r.held = [] := h.shut.resolve_right (Nat.ne_of_gt gate)
    refine ⟨.inl hnone, ?_⟩
    intro j hj
    exact absurd (hnone ▸ hj) List.not_mem_nil
  | @hold k rest ready not_empty not_released mode gate =>
    refine ⟨.inr gate, ?_⟩
    intro j hj
    rcases List.mem_append.mp hj with hold | hnew
    · exact ⟨(h.started j hold).1, recorded _ (h.started j hold).2⟩
    · cases List.mem_singleton.mp hnew
      exact ⟨mode, List.mem_append_right _ (List.mem_singleton.mpr rfl)⟩
  | _ => exact h.congr rfl rfl (List.Subset.refl _)

/-! ## Coming to rest -/

/-- A router that can make no move by itself. -/
def AtRest (r : Router L C) : Prop :=
  ∀ m, r.move? m = none

theorem next?_eq_none_iff : r.next? = none ↔ r.AtRest := by
  rw [next?, List.findSome?_eq_none_iff]
  constructor
  · intro h m
    exact h m (by cases m <;> decide)
  · intro h m _
    exact h m

/-- Settling is a run of moves, and ends at rest. -/
theorem atRest_settle (r : Router L C) :
    r.settle.AtRest ∧ ∃ moves : List Move, r.run? (moves.map RouterAct.move) = some r.settle := by
  fun_induction settle r with
  | case1 r hnone => exact ⟨next?_eq_none_iff.mp hnone, [], rfl⟩
  | case2 r r' hnext ih =>
    obtain ⟨hrest, moves, hmoves⟩ := ih
    obtain ⟨m, -, hm⟩ := List.exists_of_findSome?_eq_some hnext
    refine ⟨hrest, m :: moves, ?_⟩
    have hact : r.act? (.move m : RouterAct C) = some r' := hm
    rw [List.map_cons, run?, List.foldlM_cons, hact]
    exact hmoves

/-- What a router at rest waits for. -/
inductive Waits (r : Router L C) : Prop
  /-- A submission, or being told to end. -/
  | submission (loop : r.loop = .idle) (queue : r.queue = []) (sender : r.hasSender = true)
      (asked : r.shutdownAsked = false) (notified : r.notified = false)
  /-- A worker for the ticket in hand. -/
  | worker {route : Route L} {t : Ticket C} {last : Bool} (loop : r.loop = .waiting route t last)
      (free : r.free = 0)
  /-- The jobs at the gate, after which it ends. -/
  | jobs (loop : r.loop = .joining) (held : r.held ≠ [])
  | nothing (ended : r.loop = .ended)

theorem AtRest.ready_eq_nil (h : r.AtRest) : r.ready = [] := by
  have hrun : r.runJob? = none := h .runJob
  rcases hready : r.ready with _ | ⟨j, rest⟩
  · rfl
  · unfold runJob? at hrun
    rw [hready] at hrun
    dsimp only at hrun
    -- Whatever the first job is like, it can go on.
    repeat' split at hrun
    all_goals cases hrun

theorem AtRest.waits (h : r.AtRest) : r.Waits := by
  have hready := h.ready_eq_nil
  have hclose : r.close? = none := h .close
  have hnotice : r.notice? = none := h .notice
  have htake : r.take? = none := h .take
  have hacquire : r.acquire? = none := h .acquire
  have hlast : r.finishTaking? = none := h .finishTaking
  have hfinish : r.finish? = none := h .finish
  have hnotify : r.notify? = none := h .notify
  have queue_nil (draining : Bool) (htaking : r.taking? = some draining) : r.queue = [] := by
    rcases hqueue : r.queue with _ | ⟨t, rest⟩
    · rfl
    · simp only [take?, htaking, hqueue] at htake
      split at htake <;> cases htake
  have results_nil (hnoticing : r.isNoticing = true) : r.results = [] := by
    rcases hresults : r.results with _ | ⟨p, rest⟩
    · rfl
    · simp only [notice?, hnoticing, hresults] at hnotice
      cases hnotice
  rcases hloop : r.loop with _ | ⟨route, t, last⟩ | _ | _ | _
  · have hqueue := queue_nil false (by rw [taking?, hloop])
    have hnotified : r.notified = false := by
      rw [close?, hloop] at hclose
      simpa using hclose
    have hasked : r.shutdownAsked = false := by
      rw [notify?, hnotified] at hnotify
      simpa using hnotify
    have hsender : r.hasSender = true := by
      rw [finishTaking?, hloop] at hlast
      simpa [hqueue] using hlast
    exact .submission hloop hqueue hsender hasked hnotified
  · refine .worker hloop ?_
    rw [acquire?, hloop] at hacquire
    simpa using hacquire
  · -- A loop that drains can take what is in the queue, or find it empty.
    have hqueue := queue_nil true (by rw [taking?, hloop])
    rw [finishTaking?, hloop] at hlast
    simp [hqueue] at hlast
  · refine .jobs hloop ?_
    have hresults := results_nil (by rw [isNoticing, hloop])
    rw [finish?, hloop] at hfinish
    simpa [hready, hresults] using hfinish
  · exact .nothing hloop

/-- A shutdown that was asked for, and the sender that went away, are not forgotten. -/
structure Told (acts : List (RouterAct C)) (r : Router L C) : Prop where
  shutdown : .shutdown ∈ acts →
    r.shutdownAsked = true ∨ r.notified = true ∨ r.loop.isLeaving = true
  sender : .dropSender ∈ acts → r.hasSender = false

theorem isLeaving_after (draining : Bool) :
    LoopState.isLeaving (if draining then .draining else .idle : LoopState L C) = draining := by
  cases draining <;> rfl

theorem isLeaving_of_taking {draining : Bool} (h : r.taking? = some draining) :
    r.loop.isLeaving = draining := by
  unfold taking? at h
  split at h
  · next hloop =>
    cases h
    rw [hloop]
    rfl
  · next hloop =>
    cases h
    rw [hloop]
    rfl
  · cases h

/-- A step that is neither of the two keeps what was told. -/
theorem Told.congr {acts : List (RouterAct C)} (h : Told acts r)
    (shutdown : a ≠ .shutdown) (drop : a ≠ .dropSender)
    (asked : r.shutdownAsked = true ∨ r.notified = true ∨ r.loop.isLeaving = true →
      r'.shutdownAsked = true ∨ r'.notified = true ∨ r'.loop.isLeaving = true)
    (sender : r'.hasSender = r.hasSender) : Told (acts ++ [a]) r' where
  shutdown := by
    intro hmem
    rcases List.mem_append.mp hmem with hold | hnew
    · exact asked (h.shutdown hold)
    · exact absurd (List.mem_singleton.mp hnew).symm shutdown
  sender := by
    intro hmem
    rcases List.mem_append.mp hmem with hold | hnew
    · rw [sender]
      exact h.sender hold
    · exact absurd (List.mem_singleton.mp hnew).symm drop

theorem Told.step {acts : List (RouterAct C)} (h : Told acts r) (hstep : Step r a r') :
    Told (acts ++ [a]) r' := by
  cases hstep with
  | shutdown =>
    refine ⟨fun _ => .inl rfl, ?_⟩
    intro hmem
    rcases List.mem_append.mp hmem with hold | hnew
    · exact h.sender hold
    · cases List.mem_singleton.mp hnew
  | dropSender =>
    refine ⟨?_, fun _ => rfl⟩
    intro hmem
    rcases List.mem_append.mp hmem with hold | hnew
    · exact h.shutdown hold
    · cases List.mem_singleton.mp hnew
  | close idle notified => exact h.congr nofun nofun (fun _ => .inr (.inr rfl)) rfl
  | @notice panicked rest noticing results =>
    cases panicked with
    | false => exact h.congr nofun nofun id rfl
    | true => exact h.congr nofun nofun id rfl
  | take taking queue found =>
    refine h.congr nofun nofun ?_ rfl
    rw [isLeaving_of_taking taking]
    exact id
  | @dropMismatched route t draining waiting worker wrong =>
    refine h.congr nofun nofun ?_ rfl
    rw [waiting]
    show _ → _ ∨ _ ∨ LoopState.isLeaving (if draining then _ else _) = true
    rw [isLeaving_after]
    exact id
  | @spawn route t draining waiting worker right =>
    refine h.congr nofun nofun ?_ rfl
    rw [waiting]
    show _ → _ ∨ _ ∨ LoopState.isLeaving (if draining then _ else _) = true
    rw [isLeaving_after]
    exact id
  | stopTaking queue last => exact h.congr nofun nofun (fun _ => .inr (.inr rfl)) rfl
  | finish joining ready held results =>
    exact h.congr nofun nofun (fun _ => .inr (.inr rfl)) rfl
  | notify asked not_notified => exact h.congr nofun nofun (fun _ => .inr (.inl rfl)) rfl
  | _ => exact h.congr nofun nofun id rfl

/-! ## All together -/

/-- What every step keeps of the workers. -/
structure Manned (limit : Nat) (acts : List (RouterAct C)) (r : Router L C) : Prop where
  conserved : r.free + r.holders.length = limit
  empty : r.EmptyBooked
  taken : r.takers.length = takings acts
  held : r.Held
  told : Told acts r

theorem manned_spawn (b : RouterBuilder L) : Manned b.workers [] (b.spawn : Router L C) where
  conserved := rfl
  empty := ⟨[], List.Perm.refl _⟩
  taken := rfl
  held := ⟨.inl rfl, nofun⟩
  told := ⟨nofun, nofun⟩

theorem Manned.step {limit : Nat} {acts : List (RouterAct C)} (h : Manned limit acts r)
    (hstep : Step r a r') : Manned limit (acts ++ [a]) r' where
  conserved := hstep.free_add_holders.trans h.conserved
  empty := h.empty.step hstep
  taken := by
    have hgiven : (r.given a).length = takings [a] := by
      cases hstep with
      | dropMismatched waiting worker wrong =>
        rw [given, waiting]
        rfl
      | spawn waiting worker right =>
        rw [given, waiting]
        rfl
      | _ => rfl
    rw [hstep.takers_perm.length_eq, List.length_append, h.taken, hgiven]
    exact List.countP_append.symm
  held := h.held.step hstep
  told := h.told.step hstep

theorem manned_of_run {acts : List (RouterAct C)} (hrun : b.spawn.run? acts = some r) :
    Manned b.workers acts r :=
  run_induction (fun h hact => h.step (step_of_act hact)) (manned_spawn b) hrun

/-- What holds of the workers of a router, `limit` of them, after a run. -/
structure Staffed (limit : Nat) (acts : List (RouterAct C)) (r : Router L C) : Prop where
  /-- There are never more jobs at work than workers. -/
  bounded : r.holders.length ≤ limit
  /-- Each worker is free or held by one job. -/
  conserved : r.free + r.holders.length = limit
  /-- Each worker that was given out was given to a ticket of its own. -/
  taken : r.takers.Nodup ∧ r.takers.length = takings acts
  /-- It was given back once, by a job that came to its end, by one that panicked or by an empty one
  of a ticket whose route is for another type; or a job holds it. -/
  returned : ∃ passed, passed ⊆ r.mismatchedTickets ∧
    r.takers.Perm (r.doneTickets ++ r.panickedTickets ++ passed ++ Job.tickets r.holders)
  /-- The router comes to rest by itself. -/
  rests : r.settle.AtRest ∧ ∃ moves : List Move, r.run? (moves.map RouterAct.move) = some r.settle
  /-- At rest nothing is undecided unless all workers are with jobs that have started and are held
  at the gate, where there is no unit left. -/
  busy : r.AtRest → r.undecided = [] ∨
    r.held.length = limit ∧ r.ready = [] ∧ r.gate = 0 ∧
      ∀ j ∈ r.held, j.route.mode = .hold ∧ .started j ∈ r.trace
  /-- At rest without any job, a router that was told to end has ended. -/
  ended : r.AtRest → r.holders = [] → .shutdown ∈ acts ∨ .dropSender ∈ acts → r.hasEnded = true

theorem undecided_of_rest {loop : LoopState L C} (hloop : r.loop = loop) (hready : r.ready = [])
    (hqueue : r.queue = []) (hhand : loop.inHand = []) : r.undecided = [] := by
  rw [undecided, hready, hqueue, hloop, hhand]
  rfl

theorem Manned.busy {limit : Nat} {acts : List (RouterAct C)} (h : Manned limit acts r)
    (hlimit : 0 < limit) (htidy : r.Tidy) (hrest : r.AtRest) :
    r.undecided = [] ∨ r.held.length = limit ∧ r.ready = [] ∧ r.gate = 0 ∧
      ∀ j ∈ r.held, j.route.mode = .hold ∧ .started j ∈ r.trace := by
  have hready := hrest.ready_eq_nil
  cases hrest.waits with
  | submission hloop hqueue sender asked notified =>
    exact .inl (undecided_of_rest hloop hready hqueue rfl)
  | worker hloop hfree =>
    have hheld : r.held.length = limit := by
      have hconserved := h.conserved
      rw [holders, hready, hfree, Nat.zero_add] at hconserved
      exact hconserved
    have hgate : r.gate = 0 := by
      refine h.held.shut.resolve_left fun hnone => ?_
      rw [hnone] at hheld
      exact Nat.ne_of_lt hlimit hheld
    exact .inr ⟨hheld, hready, hgate, h.held.started⟩
  | jobs hloop hheld =>
    rw [Tidy, hloop] at htidy
    exact .inl (undecided_of_rest hloop hready htidy.1 rfl)
  | nothing hloop =>
    rw [Tidy, hloop] at htidy
    exact .inl (undecided_of_rest hloop hready htidy.2.1 rfl)

theorem Manned.ended {limit : Nat} {acts : List (RouterAct C)} (h : Manned limit acts r)
    (hlimit : 0 < limit) (hrest : r.AtRest) (hnone : r.holders = [])
    (htold : .shutdown ∈ acts ∨ .dropSender ∈ acts) : r.hasEnded = true := by
  cases hrest.waits with
  | submission hloop hqueue hsender hasked hnotified =>
    rcases htold with hshutdown | hdrop
    · have hleaving := h.told.shutdown hshutdown
      rw [hasked, hnotified, hloop] at hleaving
      simp [LoopState.isLeaving] at hleaving
    · rw [h.told.sender hdrop] at hsender
      cases hsender
  | worker hloop hfree =>
    -- All workers would have to be with jobs.
    have hconserved := h.conserved
    rw [hfree, hnone] at hconserved
    exact absurd hconserved (Nat.ne_of_lt hlimit)
  | jobs hloop hheld => exact absurd (List.append_eq_nil_iff.mp hnone).2 hheld
  | nothing hloop => exact hasEnded_iff.mpr hloop

/-- Whatever happens to a router of `n` workers, where none counts as one, and in whatever order it
makes its moves: its workers are neither lost nor lent twice, and none is idle while a submission
that has a route waits. -/
theorem staffed_of_run (b : RouterBuilder L) (n : Nat) {acts : List (RouterAct C)}
    (hrun : (b.withWorkers n).spawn.run? acts = some r) : Staffed (max n 1) acts r := by
  have h : Manned (max n 1) acts r := manned_of_run hrun
  have hsound := sound_of_run hrun
  have hlimit : 0 < max n 1 := Nat.lt_of_lt_of_le Nat.zero_lt_one (Nat.le_max_right n 1)
  exact
    { bounded := h.conserved ▸ Nat.le_add_left _ _
      conserved := h.conserved
      taken := ⟨hsound.booked.takers_nodup, h.taken⟩
      returned := takers_perm_of_booked hsound.jobs h.empty
      rests := atRest_settle r
      busy := h.busy hlimit hsound.tidy
      ended := h.ended hlimit }

/-- A run in which the only worker is with a job that is held at the gate, while a second submission
is in the loop's hand and a third one in the queue. -/
def crowdedRun : List (RouterAct Nat) :=
  let submit (n : Nat) : RouterAct Nat :=
    .submit ⟨Builtin.notice.tag, Builtin.noticeOf "text", n⟩
  [submit 1, submit 2, submit 3, .move .take, .move .acquire, .move .take, .move .runJob]

theorem staffed_of_crowdedRun :
    let route : Route Nat := ⟨Builtin.notice, .hold, 0⟩
    let b := RouterBuilder.new.route route
    ∃ r, (b.withWorkers 0).spawn.run? crowdedRun = some r ∧ r.undecided.length = 2 ∧
      r.AtRest ∧ Staffed (max 0 1) crowdedRun r :=
  ⟨_, rfl, rfl, fun m => by cases m <;> rfl,
    staffed_of_run (RouterBuilder.new.route ⟨Builtin.notice, .hold, 0⟩) 0 rfl⟩

end Router

end Switchboard
