import Switchboard.Proofs.Router.Run

/-!
# Nothing is lost

Every ticket is in one place: it was dropped with a warning, its job has started, or it is still
undecided. Tickets whose jobs have started and undecided ones stand in one line, in the order of
their submission; a step moves the front of the line on, adds to its end or drops somebody out of
it. When the loop has ended nobody is left undecided and no job is left.
-/

namespace Switchboard

variable {L C : Type}

/-- The ticket that an event drops. -/
def RouterEvent.dropped? : RouterEvent L C → Option (Ticket C)
  | .refused t | .unrouted t | .mismatched _ t => some t
  | .started _ | .done _ | .failed => none

/-- The job that an event starts. -/
def RouterEvent.started? : RouterEvent L C → Option (Job L C)
  | .started j => some j
  | _ => none

/-- The job that an event ends. -/
def RouterEvent.done? : RouterEvent L C → Option (Job L C)
  | .done j => some j
  | _ => none

/-- Whether a job is for its route's own type and has not started. -/
def Job.isFresh (j : Job L C) : Bool :=
  !j.isEmpty && !j.released

theorem Job.isFresh_of_not {j : Job L C} (hempty : j.isEmpty = false)
    (hreleased : j.released = false) : j.isFresh = true := by
  rw [isFresh, hempty, hreleased]
  rfl

/-- The tickets of those jobs that have not started. -/
def Job.freshTickets (js : List (Job L C)) : List (Ticket C) :=
  (js.filter isFresh).map ticket

/-- The ticket that the loop has in hand: it waits for a worker. -/
def LoopState.inHand : LoopState L C → List (Ticket C)
  | .waiting _ t _ => [t]
  | _ => []

/-- What a job was started with, whether or not the gate has let it through. -/
def Job.origin (j : Job L C) : Route L × Ticket C :=
  (j.route, j.ticket)

namespace Router

variable {r r' : Router L C} {a : RouterAct C}

/-! ## Where tickets are -/

/-- The tickets that were dropped with a warning. -/
def dropped (r : Router L C) : List (Ticket C) :=
  r.trace.filterMap RouterEvent.dropped?

/-- The jobs that have started, in order. -/
def startedJobs (r : Router L C) : List (Job L C) :=
  r.trace.filterMap RouterEvent.started?

/-- The jobs that have come to their end, in order. -/
def doneJobs (r : Router L C) : List (Job L C) :=
  r.trace.filterMap RouterEvent.done?

/-- The tickets whose jobs have started, in order. -/
def startedTickets (r : Router L C) : List (Ticket C) :=
  r.startedJobs.map Job.ticket

/-- The tickets of which nothing was seen yet: their jobs have not started, or they wait for a
worker, or they are in the queue. -/
def undecided (r : Router L C) : List (Ticket C) :=
  Job.freshTickets r.ready ++ r.loop.inHand ++ r.queue

theorem filterMap_record_of_none {E : Type} {f : RouterEvent L C → Option E} {e : RouterEvent L C}
    (h : f e = none) : (r.record e).trace.filterMap f = r.trace.filterMap f := by
  rw [record, List.filterMap_append, List.filterMap_cons_none h]
  exact List.append_nil _

theorem filterMap_record_of_some {E : Type} {f : RouterEvent L C → Option E} {e : RouterEvent L C}
    {x : E} (h : f e = some x) : (r.record e).trace.filterMap f = r.trace.filterMap f ++ [x] := by
  rw [record, List.filterMap_append, List.filterMap_cons_some h]
  rfl

theorem startedJobs_of_none {e : RouterEvent L C} (h : e.started? = none) :
    (r.record e).startedJobs = r.startedJobs :=
  filterMap_record_of_none h

theorem startedJobs_started (r : Router L C) (j : Job L C) :
    (r.record (.started j)).startedJobs = r.startedJobs ++ [j] :=
  filterMap_record_of_some rfl

theorem doneJobs_of_none {e : RouterEvent L C} (h : e.done? = none) :
    (r.record e).doneJobs = r.doneJobs :=
  filterMap_record_of_none h

theorem doneJobs_done (r : Router L C) (j : Job L C) :
    (r.record (.done j)).doneJobs = r.doneJobs ++ [j] :=
  filterMap_record_of_some rfl

theorem startedTickets_of_none {e : RouterEvent L C} (h : e.started? = none) :
    (r.record e).startedTickets = r.startedTickets :=
  congrArg (List.map Job.ticket) (startedJobs_of_none h)

theorem startedTickets_started (r : Router L C) (j : Job L C) :
    (r.record (.started j)).startedTickets = r.startedTickets ++ [j.ticket] := by
  rw [startedTickets, startedJobs_started]
  exact List.map_append

theorem undecided_of_fresh {j : Job L C} {rest : List (Job L C)} (hready : r.ready = j :: rest)
    (hj : j.isFresh = true) :
    r.undecided = j.ticket :: (Job.freshTickets rest ++ r.loop.inHand ++ r.queue) := by
  rw [undecided, hready, Job.freshTickets, List.filter_cons_of_pos hj]
  rfl

theorem undecided_of_not_fresh {j : Job L C} {rest : List (Job L C)} (hready : r.ready = j :: rest)
    (hj : ¬ j.isFresh = true) :
    r.undecided = Job.freshTickets rest ++ r.loop.inHand ++ r.queue := by
  rw [undecided, hready, Job.freshTickets, List.filter_cons_of_neg hj]
  rfl

theorem undecided_of_taking {draining : Bool} (h : r.taking? = some draining) :
    r.undecided = Job.freshTickets r.ready ++ r.queue := by
  have hnone : r.loop.inHand = [] := by
    unfold taking? at h
    unfold LoopState.inHand
    split at h <;> simp_all
  rw [undecided, hnone, List.append_nil]

theorem undecided_of_waiting {route : Route L} {t : Ticket C} {draining : Bool}
    (h : r.loop = .waiting route t draining) :
    r.undecided = Job.freshTickets r.ready ++ t :: r.queue := by
  rw [undecided, h, List.append_assoc]
  rfl

/-! ## How tickets move -/

/-- What a step does to the tickets. -/
inductive Flow (r : Router L C) (a : RouterAct C) (r' : Router L C) : Prop
  /-- A ticket is dropped as it comes in. -/
  | late {s : Submission C} (act : a = .submit s)
      (dropped : r'.dropped = r.dropped ++ [⟨r.submitted, s⟩])
      (started : r'.startedTickets = r.startedTickets) (undecided : r'.undecided = r.undecided)
  /-- A ticket comes in and goes to the end of the line. -/
  | arrives {s : Submission C} (act : a = .submit s) (dropped : r'.dropped = r.dropped)
      (started : r'.startedTickets = r.startedTickets)
      (undecided : r'.undecided = r.undecided ++ [⟨r.submitted, s⟩])
  /-- A ticket is dropped out of the line. -/
  | drops {t : Ticket C} {before after : List (Ticket C)} (act : submissions [a] = [])
      (dropped : r'.dropped = r.dropped ++ [t]) (started : r'.startedTickets = r.startedTickets)
      (here : r.undecided = before ++ t :: after) (undecided : r'.undecided = before ++ after)
  /-- The job of the first undecided ticket starts. -/
  | starts {t : Ticket C} {after : List (Ticket C)} (act : submissions [a] = [])
      (dropped : r'.dropped = r.dropped) (started : r'.startedTickets = r.startedTickets ++ [t])
      (here : r.undecided = t :: after) (undecided : r'.undecided = after)
  /-- No ticket moves. -/
  | rests (act : submissions [a] = []) (dropped : r'.dropped = r.dropped)
      (started : r'.startedTickets = r.startedTickets) (undecided : r'.undecided = r.undecided)

theorem freshTickets_append (js ks : List (Job L C)) :
    Job.freshTickets (js ++ ks) = Job.freshTickets js ++ Job.freshTickets ks := by
  rw [Job.freshTickets, List.filter_append, List.map_append]
  rfl

theorem freshTickets_released (js : List (Job L C)) :
    Job.freshTickets (js.map fun j => { j with released := true }) = [] := by
  rw [Job.freshTickets, List.map_eq_nil_iff, List.filter_eq_nil_iff]
  intro j hj
  obtain ⟨k, -, rfl⟩ := List.mem_map.mp hj
  simp [Job.isFresh]

theorem freshTickets_new (route : Route L) (t : Ticket C) :
    Job.freshTickets [⟨route, t, false⟩] = if t.submission.message.is route.schema then [t] else [] := by
  cases h : t.submission.message.is route.schema <;>
    simp [Job.freshTickets, Job.isFresh, Job.isEmpty, h]

theorem inHand_after (draining : Bool) :
    LoopState.inHand (if draining then .draining else .idle : LoopState L C) = [] := by
  cases draining <;> rfl

theorem Step.flow (h : Step r a r') : Flow r a r' := by
  cases h with
  | refuse sender closed =>
    exact .late rfl (filterMap_record_of_some rfl) (startedTickets_of_none rfl) rfl
  | enqueue sender not_closed =>
    exact .arrives rfl rfl rfl (List.append_assoc _ _ _).symm
  | release n =>
    refine .rests rfl rfl rfl ?_
    show Job.freshTickets (_ ++ _) ++ _ ++ _ = _
    rw [freshTickets_append, freshTickets_released, List.append_nil]
    rfl
  | shutdown => exact .rests rfl rfl rfl rfl
  | dropSender => exact .rests rfl rfl rfl rfl
  | close idle notified =>
    refine .rests rfl rfl rfl ?_
    rw [undecided, undecided, idle]
    rfl
  | @notice panicked rest noticing results =>
    cases panicked with
    | false => exact .rests rfl rfl rfl rfl
    | true => exact .rests rfl (filterMap_record_of_none rfl) (startedTickets_of_none rfl) rfl
  | @dropUnrouted draining t rest taking queue no_route =>
    have hhere : r.undecided = Job.freshTickets r.ready ++ t :: rest := by
      rw [undecided_of_taking taking, queue]
    exact .drops rfl (filterMap_record_of_some rfl) (startedTickets_of_none rfl) hhere
      (undecided_of_taking (r := record { r with queue := rest } _) taking)
  | @take draining t rest route taking queue found =>
    -- The ticket goes from the queue into the loop's hand, which is where the queue begins.
    refine .rests rfl rfl rfl ?_
    rw [undecided_of_taking taking, queue]
    exact undecided_of_waiting rfl
  | @dropMismatched route t draining hwaiting worker wrong =>
    refine .drops rfl (filterMap_record_of_some rfl) (startedTickets_of_none rfl)
      (undecided_of_waiting hwaiting) ?_
    show Job.freshTickets (_ ++ _) ++ LoopState.inHand (if draining then _ else _) ++ r.queue = _
    rw [freshTickets_append, freshTickets_new, wrong, inHand_after]
    simp
  | @spawn route t draining hwaiting worker right =>
    -- The ticket goes from the loop's hand to the end of the jobs.
    refine .rests rfl rfl rfl ?_
    rw [undecided_of_waiting hwaiting]
    show Job.freshTickets (_ ++ _) ++ LoopState.inHand (if draining then _ else _) ++ r.queue = _
    rw [freshTickets_append, freshTickets_new, right, inHand_after]
    simp
  | stopTaking queue last =>
    refine .rests rfl rfl rfl ?_
    rcases last with ⟨hloop, -⟩ | hloop
    · rw [undecided, undecided, hloop]
      rfl
    · rw [undecided, undecided, hloop]
      rfl
  | finish joining ready held results =>
    refine .rests rfl rfl rfl ?_
    rw [undecided, undecided, joining]
    rfl
  | notify asked not_notified => exact .rests rfl rfl rfl rfl
  | runEmpty ready empty =>
    refine .rests rfl rfl rfl (undecided_of_not_fresh ready ?_).symm
    simp [Job.isFresh, empty]
  | resume ready not_empty released =>
    refine .rests rfl (filterMap_record_of_none rfl) (startedTickets_of_none rfl)
      (undecided_of_not_fresh ready ?_).symm
    simp [Job.isFresh, released]
  | @runThrough j rest ready not_empty not_released mode =>
    have hfresh := Job.isFresh_of_not not_empty not_released
    refine .starts rfl ?_ ?_ (undecided_of_fresh ready hfresh) rfl
    · exact (filterMap_record_of_none rfl).trans (filterMap_record_of_none rfl)
    · exact (startedTickets_of_none rfl).trans (startedTickets_started _ j)
  | @panic j rest ready not_empty not_released mode =>
    have hfresh := Job.isFresh_of_not not_empty not_released
    exact .starts rfl (filterMap_record_of_none rfl) (startedTickets_started _ j)
      (undecided_of_fresh ready hfresh) rfl
  | @passGate j rest ready not_empty not_released mode gate =>
    have hfresh := Job.isFresh_of_not not_empty not_released
    refine .starts rfl ?_ ?_ (undecided_of_fresh ready hfresh) rfl
    · exact (filterMap_record_of_none rfl).trans (filterMap_record_of_none rfl)
    · exact (startedTickets_of_none rfl).trans (startedTickets_started _ j)
  | @hold j rest ready not_empty not_released mode gate =>
    have hfresh := Job.isFresh_of_not not_empty not_released
    exact .starts rfl (filterMap_record_of_none rfl) (startedTickets_started _ j)
      (undecided_of_fresh ready hfresh) rfl

theorem Step.submitted (h : Step r a r') :
    r'.submitted = r.submitted + (submissions [a]).length := by
  cases h with
  | notice noticing results => split <;> rfl
  | _ => rfl

/-- The tickets of a run: each is dropped, started or undecided, and those that are not dropped
stand in the order of their numbers. -/
structure Booked (acts : List (RouterAct C)) (r : Router L C) : Prop where
  submitted : r.submitted = (submissions acts).length
  perm : (r.dropped ++ (r.startedTickets ++ r.undecided)).Perm (tickets acts)
  sorted : (r.startedTickets ++ r.undecided).Pairwise fun t u => t.number < u.number

theorem booked_spawn (b : RouterBuilder L) : Booked [] (b.spawn : Router L C) where
  submitted := rfl
  perm := List.Perm.refl _
  sorted := List.Pairwise.nil

/-- No ticket is in two places. -/
theorem Booked.nodup {acts : List (RouterAct C)} (h : Booked acts r) :
    (r.dropped ++ (r.startedTickets ++ r.undecided)).Nodup := by
  refine h.perm.nodup_iff.mpr ((sorted_tickets acts).imp ?_)
  rintro t u hlt rfl
  exact Nat.lt_irrefl _ hlt

/-- A new ticket has a larger number than all in the line. -/
theorem Booked.lt_submitted {acts : List (RouterAct C)} (h : Booked acts r) {t : Ticket C}
    (ht : t ∈ r.startedTickets ++ r.undecided) : t.number < r.submitted := by
  rw [h.submitted]
  exact number_lt_of_mem_tickets (h.perm.subset (List.mem_append_right _ ht))

theorem Booked.step {acts : List (RouterAct C)} (h : Booked acts r) (hstep : Step r a r') :
    Booked (acts ++ [a]) r' := by
  have hsubmitted : r'.submitted = (submissions (acts ++ [a])).length := by
    rw [hstep.submitted, h.submitted, submissions_append, List.length_append]
  have hperm := h.perm
  have hsorted := h.sorted
  cases hstep.flow with
  | @late s ha hdropped hstarted hundecided =>
    subst ha
    refine ⟨hsubmitted, ?_, ?_⟩
    · rw [hdropped, hstarted, hundecided, tickets_append_submit, ← h.submitted, List.append_assoc]
      refine (List.perm_middle.trans ?_)
      refine (hperm.cons _).trans ?_
      exact (List.perm_append_singleton _ _).symm
    · rw [hstarted, hundecided]
      exact hsorted
  | @arrives s ha hdropped hstarted hundecided =>
    subst ha
    refine ⟨hsubmitted, ?_, ?_⟩
    · rw [hdropped, hstarted, hundecided, tickets_append_submit, ← h.submitted,
        ← List.append_assoc, ← List.append_assoc]
      refine List.Perm.append_right _ ?_
      rw [List.append_assoc]
      exact hperm
    · rw [hstarted, hundecided, ← List.append_assoc]
      refine List.pairwise_append.mpr ⟨hsorted, List.pairwise_singleton _ _, ?_⟩
      intro t ht u hu
      cases List.mem_singleton.mp hu
      exact h.lt_submitted ht
  | @drops t before after ha hdropped hstarted hhere hundecided =>
    refine ⟨hsubmitted, ?_, ?_⟩
    · rw [tickets_append_of_none acts ha]
      refine List.Perm.trans ?_ hperm
      rw [hdropped, hstarted, hundecided, hhere, List.append_assoc]
      refine List.Perm.append_left _ ?_
      rw [List.singleton_append, ← List.append_assoc, ← List.append_assoc]
      exact List.perm_middle.symm
    · rw [hstarted, hundecided]
      rw [hhere] at hsorted
      have hsub : (before ++ after).Sublist (before ++ t :: after) :=
        (List.Sublist.refl before).append (List.sublist_cons_self t after)
      exact hsorted.sublist ((List.Sublist.refl _).append hsub)
  | @starts t after ha hdropped hstarted hhere hundecided =>
    -- The border between the started and the undecided moves on by one; the line is the same.
    have hline : r'.startedTickets ++ r'.undecided = r.startedTickets ++ r.undecided := by
      rw [hstarted, hundecided, hhere]
      exact (List.append_cons _ _ _).symm
    refine ⟨hsubmitted, ?_, ?_⟩
    · rw [hdropped, hline, tickets_append_of_none acts ha]
      exact hperm
    · rw [hline]
      exact hsorted
  | rests ha hdropped hstarted hundecided =>
    refine ⟨hsubmitted, ?_, ?_⟩
    · rw [hdropped, hstarted, hundecided, tickets_append_of_none acts ha]
      exact hperm
    · rw [hstarted, hundecided]
      exact hsorted

end Router

/-! ## Where jobs are -/

namespace Job

/-- What those of some jobs that are not empty were started with. -/
def origins (js : List (Job L C)) : List (Route L × Ticket C) :=
  (js.filter fun j => !j.isEmpty).map origin

/-- What those jobs were started with that have not come to their end: they are held at the gate,
or the gate has let them through. -/
def running (held ready : List (Job L C)) : List (Route L × Ticket C) :=
  origins held ++ origins (ready.filter released)

theorem origins_append (js ks : List (Job L C)) :
    origins (js ++ ks) = origins js ++ origins ks := by
  rw [origins, List.filter_append, List.map_append]
  rfl

theorem origins_cons_of_empty {j : Job L C} (h : j.isEmpty = true) (js : List (Job L C)) :
    origins (j :: js) = origins js := by
  rw [origins, List.filter_cons_of_neg (by simp [h])]
  rfl

theorem origins_cons {j : Job L C} (h : j.isEmpty = false) (js : List (Job L C)) :
    origins (j :: js) = j.origin :: origins js := by
  rw [origins, List.filter_cons_of_pos (by simp [h])]
  rfl

theorem origins_released (js : List (Job L C)) :
    origins ((js.map fun j => { j with released := true }).filter released) = origins js := by
  induction js with
  | nil => rfl
  | cons j js ih =>
    rw [List.map_cons, List.filter_cons_of_pos rfl]
    by_cases hempty : j.isEmpty = true
    · rw [origins_cons_of_empty hempty, ← ih]
      exact origins_cons_of_empty (j := { j with released := true }) hempty _
    · have hempty := eq_false_of_ne_true hempty
      rw [origins_cons hempty, ← ih]
      exact origins_cons (j := { j with released := true }) hempty _

theorem running_cons_of_not_released {j : Job L C} (h : j.released = false)
    (held ready : List (Job L C)) : running held (j :: ready) = running held ready := by
  rw [running, List.filter_cons_of_neg (ne_true_of_eq_false h)]
  rfl

theorem running_cons_of_empty {j : Job L C} (h : j.isEmpty = true) (held ready : List (Job L C)) :
    running held (j :: ready) = running held ready := by
  by_cases hreleased : j.released = true
  · rw [running, List.filter_cons_of_pos hreleased, origins_cons_of_empty h]
    rfl
  · exact running_cons_of_not_released (eq_false_of_ne_true hreleased) held ready

theorem running_cons_of_released {j : Job L C} (hempty : j.isEmpty = false)
    (h : j.released = true) (held ready : List (Job L C)) :
    (running held (j :: ready)).Perm (j.origin :: running held ready) := by
  rw [running, List.filter_cons_of_pos h, origins_cons hempty]
  exact List.perm_middle

theorem running_append_new (route : Route L) (t : Ticket C) (held ready : List (Job L C)) :
    running held (ready ++ [⟨route, t, false⟩]) = running held ready := by
  have hnew : [(⟨route, t, false⟩ : Job L C)].filter released = [] := rfl
  rw [running, List.filter_append, hnew, List.append_nil]
  rfl

theorem running_append_held {j : Job L C} (hempty : j.isEmpty = false)
    (held ready : List (Job L C)) :
    (running (held ++ [j]) ready).Perm (j.origin :: running held ready) := by
  rw [running, origins_append, origins_cons hempty, List.append_assoc]
  exact List.perm_middle

/-- The gate changes where jobs are, not what they were started with. -/
theorem running_release (n : Nat) (held ready : List (Job L C)) :
    (running (held.drop n) (ready ++ (held.take n).map fun j => { j with released := true })).Perm
      (running held ready) := by
  have hheld : origins (held.take n) ++ origins (held.drop n) = origins held := by
    rw [← origins_append, List.take_append_drop]
  rw [running, List.filter_append, origins_append, origins_released, ← List.append_assoc]
  refine List.perm_append_comm.trans ?_
  rw [← List.append_assoc, hheld]
  exact List.Perm.refl _

end Job

namespace Router

variable {r r' : Router L C} {a : RouterAct C}

/-- What a step does to the jobs that have started. -/
inductive JobFlow (r r' : Router L C) : Prop
  /-- No job starts or ends. -/
  | rests (started : r'.startedJobs = r.startedJobs) (done : r'.doneJobs = r.doneJobs)
      (running : (Job.running r'.held r'.ready).Perm (Job.running r.held r.ready))
  /-- A job starts and goes through to its end. -/
  | passes {j : Job L C} (mode : j.route.mode ≠ .panic)
      (started : r'.startedJobs = r.startedJobs ++ [j]) (done : r'.doneJobs = r.doneJobs ++ [j])
      (running : Job.running r'.held r'.ready = Job.running r.held r.ready)
  /-- A job starts and panics. -/
  | panics {j : Job L C} (mode : j.route.mode = .panic)
      (started : r'.startedJobs = r.startedJobs ++ [j]) (done : r'.doneJobs = r.doneJobs)
      (running : Job.running r'.held r'.ready = Job.running r.held r.ready)
  /-- A job starts and is held at the gate. -/
  | stops {j : Job L C} (mode : j.route.mode ≠ .panic)
      (started : r'.startedJobs = r.startedJobs ++ [j]) (done : r'.doneJobs = r.doneJobs)
      (running : (Job.running r'.held r'.ready).Perm (j.origin :: Job.running r.held r.ready))
  /-- A job that the gate has let through comes to its end. -/
  | ends {j : Job L C} (started : r'.startedJobs = r.startedJobs)
      (done : r'.doneJobs = r.doneJobs ++ [j])
      (running : (Job.running r.held r.ready).Perm (j.origin :: Job.running r'.held r'.ready))

theorem Step.jobFlow (h : Step r a r') : JobFlow r r' := by
  cases h with
  | refuse sender closed =>
    exact .rests (startedJobs_of_none rfl) (doneJobs_of_none rfl) (List.Perm.refl _)
  | release n => exact .rests rfl rfl (Job.running_release n r.held r.ready)
  | @notice panicked rest noticing results =>
    cases panicked with
    | false => exact .rests rfl rfl (List.Perm.refl _)
    | true => exact .rests (startedJobs_of_none rfl) (doneJobs_of_none rfl) (List.Perm.refl _)
  | dropUnrouted taking queue no_route =>
    exact .rests (startedJobs_of_none rfl) (doneJobs_of_none rfl) (List.Perm.refl _)
  | @dropMismatched route t draining waiting worker wrong =>
    exact .rests (startedJobs_of_none rfl) (doneJobs_of_none rfl)
      (List.Perm.of_eq (Job.running_append_new route t r.held r.ready))
  | @spawn route t draining waiting worker right =>
    exact .rests rfl rfl (List.Perm.of_eq (Job.running_append_new route t r.held r.ready))
  | @runEmpty j rest ready empty =>
    refine .rests rfl rfl (List.Perm.of_eq ?_)
    rw [ready]
    exact (Job.running_cons_of_empty empty r.held rest).symm
  | @resume j rest ready not_empty released =>
    refine .ends (startedJobs_of_none rfl) (doneJobs_done _ j) ?_
    rw [ready]
    exact Job.running_cons_of_released not_empty released r.held rest
  | @runThrough j rest ready not_empty not_released mode =>
    refine .passes (j := j) ?_ ?_ ?_ ?_
    · rw [mode]
      exact nofun
    · exact (startedJobs_of_none rfl).trans (startedJobs_started _ j)
    · exact (doneJobs_done _ j).trans (congrArg (· ++ [j]) (doneJobs_of_none rfl))
    · rw [ready]
      exact (Job.running_cons_of_not_released not_released r.held rest).symm
  | @panic j rest ready not_empty not_released mode =>
    refine .panics mode (startedJobs_started _ j) (doneJobs_of_none rfl) ?_
    rw [ready]
    exact (Job.running_cons_of_not_released not_released r.held rest).symm
  | @passGate j rest ready not_empty not_released mode gate =>
    refine .passes (j := j) ?_ ?_ ?_ ?_
    · rw [mode]
      exact nofun
    · exact (startedJobs_of_none rfl).trans (startedJobs_started _ j)
    · exact (doneJobs_done _ j).trans (congrArg (· ++ [j]) (doneJobs_of_none rfl))
    · rw [ready]
      exact (Job.running_cons_of_not_released not_released r.held rest).symm
  | @hold j rest ready not_empty not_released mode gate =>
    refine .stops (j := j) ?_ (startedJobs_started _ j) (doneJobs_of_none rfl) ?_
    · rw [mode]
      exact nofun
    · rw [ready, Job.running_cons_of_not_released not_released]
      exact Job.running_append_held not_empty r.held rest
  | _ => exact .rests rfl rfl (List.Perm.refl _)

/-- What the jobs that have started, and do not panic, were started with. -/
def toFinish (r : Router L C) : List (Route L × Ticket C) :=
  (r.startedJobs.filter fun j => decide (j.route.mode ≠ .panic)).map Job.origin

theorem toFinish_of_started {j : Job L C} (hmode : j.route.mode ≠ .panic)
    (hstarted : r'.startedJobs = r.startedJobs ++ [j]) :
    r'.toFinish = r.toFinish ++ [j.origin] := by
  rw [toFinish, hstarted, List.filter_append, List.map_append,
    List.filter_cons_of_pos (by simp [hmode])]
  rfl

theorem toFinish_of_panic {j : Job L C} (hmode : j.route.mode = .panic)
    (hstarted : r'.startedJobs = r.startedJobs ++ [j]) : r'.toFinish = r.toFinish := by
  rw [toFinish, hstarted, List.filter_append, List.filter_cons_of_neg (by simp [hmode])]
  exact congrArg (List.map Job.origin) (List.append_nil _)

/-- Each job that has started and does not panic has come to its end, once, or is running. -/
def JobsBooked (r : Router L C) : Prop :=
  r.toFinish.Perm (r.doneJobs.map Job.origin ++ Job.running r.held r.ready)

theorem JobsBooked.step (h : r.JobsBooked) (hstep : Step r a r') : r'.JobsBooked := by
  unfold JobsBooked at h ⊢
  cases hstep.jobFlow with
  | rests hstarted hdone hrunning =>
    rw [toFinish, hstarted, hdone]
    exact h.trans (hrunning.symm.append_left _)
  | @passes j hmode hstarted hdone hrunning =>
    rw [toFinish_of_started hmode hstarted, hdone, hrunning, List.map_append, List.append_assoc]
    refine (h.append_right _).trans ?_
    rw [List.append_assoc]
    exact List.perm_append_comm.append_left _
  | panics hmode hstarted hdone hrunning =>
    rw [toFinish_of_panic hmode hstarted, hdone, hrunning]
    exact h
  | @stops j hmode hstarted hdone hrunning =>
    rw [toFinish_of_started hmode hstarted, hdone]
    refine (h.append_right _).trans ?_
    rw [List.append_assoc]
    refine List.Perm.append_left _ ?_
    exact (List.perm_append_singleton _ _).trans hrunning.symm
  | @ends j hstarted hdone hrunning =>
    rw [toFinish, hstarted, hdone, List.map_append, List.append_assoc]
    exact h.trans (hrunning.append_left _)

end Router

end Switchboard
