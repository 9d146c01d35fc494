import Switchboard.Router.State

/-!
# Settling

A router that is left alone comes to rest: every move uses something up, so moves cannot go on for
ever. Settling makes them in a fixed order: the loop goes as far as it can, is told of a shutdown,
and then the jobs run in the order in which they became able to.
-/

namespace Switchboard

namespace LoopState

variable {L C : Type}

/-- What the loop still has to do. -/
def weight : LoopState L C → Nat
  | .idle => 3
  | .waiting _ _ last => if last then 7 else 8
  | .draining => 2
  | .joining => 1
  | .ended => 0

end LoopState

namespace Job

/-- What a job that can go on still has to do. -/
def weight {L C : Type} (j : Job L C) : Nat :=
  if j.released then 2 else 4

/-- What jobs that can go on still have to do. -/
def totalWeight {L C : Type} : List (Job L C) → Nat
  | [] => 0
  | j :: js => j.weight + totalWeight js

theorem totalWeight_append {L C : Type} (js ks : List (Job L C)) :
    totalWeight (js ++ ks) = totalWeight js + totalWeight ks := by
  induction js with
  | nil => simp [totalWeight]
  | cons j js ih => simp only [List.cons_append, totalWeight, ih, Nat.add_assoc]

end Job

namespace Router

variable {L C : Type}

/-- What a router still has to do by itself. -/
def weight (r : Router L C) : Nat :=
  r.loop.weight + 6 * r.queue.length + Job.totalWeight r.ready + r.held.length
    + r.results.length + 2 * r.shutdownAsked.toNat + r.notified.toNat

theorem weight_close {r r' : Router L C} (h : r.close? = some r') : r'.weight < r.weight := by
  unfold close? at h
  split at h
  · next hl =>
    split at h
    · next hn =>
      cases h
      simp only [weight, hl, hn, LoopState.weight, Bool.toNat_true, Bool.toNat_false]
      omega
    · cases h
  · cases h

theorem weight_notice {r r' : Router L C} (h : r.notice? = some r') : r'.weight < r.weight := by
  unfold notice? at h
  split at h
  · next hr =>
    cases h
    split <;> simp only [weight, record, hr, List.length_cons] <;> omega
  · cases h

theorem weight_take {r r' : Router L C} (h : r.take? = some r') : r'.weight < r.weight := by
  unfold take? at h
  split at h
  · next draining t rest ht hq =>
    unfold taking? at ht
    dsimp only at h
    split at h <;> cases h
    · simp [weight, record, hq]
    · split at ht <;> simp only [Option.some.injEq, reduceCtorEq] at ht
      · next hl => subst ht; simp [weight, hq, hl, LoopState.weight]; omega
      · next hl => subst ht; simp [weight, hq, hl, LoopState.weight]; omega
  · cases h

theorem weight_acquire {r r' : Router L C} (h : r.acquire? = some r') : r'.weight < r.weight := by
  unfold acquire? at h
  split at h
  · next route t draining hl =>
    split at h
    · cases h
    · cases h
      cases draining <;> split <;> simp [weight, record, hl, LoopState.weight, Job.totalWeight_append, Job.totalWeight,
        Job.weight] <;> omega
  · cases h

theorem weight_finishTaking {r r' : Router L C} (h : r.finishTaking? = some r') :
    r'.weight < r.weight := by
  unfold finishTaking? at h
  split at h
  · next hl =>
    split at h <;> cases h
    simp [weight, hl, LoopState.weight]
  · next hl =>
    split at h <;> cases h
    simp [weight, hl, LoopState.weight]
  · cases h

theorem weight_finish {r r' : Router L C} (h : r.finish? = some r') : r'.weight < r.weight := by
  unfold finish? at h
  split at h
  · next hl =>
    split at h <;> cases h
    simp [weight, hl, LoopState.weight]
  · cases h

theorem weight_notify {r r' : Router L C} (h : r.notify? = some r') : r'.weight < r.weight := by
  unfold notify? at h
  split at h
  · next hn =>
    cases h
    simp only [Bool.and_eq_true, Bool.not_eq_true'] at hn
    simp [weight, hn.1, hn.2]
  · cases h

theorem weight_runJob {r r' : Router L C} (h : r.runJob? = some r') : r'.weight < r.weight := by
  unfold runJob? at h
  split at h
  · cases h
  · next j rest hr =>
    dsimp only at h
    have hj : 2 ≤ j.weight := by unfold Job.weight; split <;> omega
    split at h
    · cases h
      simp [weight, endJob, hr, Job.totalWeight]
      omega
    · split at h
      · cases h
        simp [weight, endJob, record, hr, Job.totalWeight]
        omega
      · next hrel =>
        have hj : j.weight = 4 := by simp [Job.weight, hrel]
        split at h
        · cases h
          simp [weight, endJob, record, hr, Job.totalWeight]
          omega
        · cases h
          simp [weight, endJob, record, hr, Job.totalWeight]
          omega
        · split at h <;> cases h <;> simp [weight, endJob, record, hr, Job.totalWeight] <;> omega

/-- Every move uses something up. -/
theorem weight_move {r r' : Router L C} {m : Move} (h : r.move? m = some r') :
    r'.weight < r.weight := by
  cases m
  · exact weight_close h
  · exact weight_notice h
  · exact weight_take h
  · exact weight_acquire h
  · exact weight_finishTaking h
  · exact weight_finish h
  · exact weight_notify h
  · exact weight_runJob h

/-- The moves in the order in which settling tries them. -/
def Move.inOrder : List Move :=
  [.close, .notice, .take, .acquire, .finishTaking, .finish, .notify, .runJob]

/-- The first move that is possible, and the router after it. -/
def next? (r : Router L C) : Option (Router L C) :=
  Move.inOrder.findSome? r.move?

theorem weight_next {r r' : Router L C} (h : r.next? = some r') : r'.weight < r.weight := by
  obtain ⟨m, -, hm⟩ := List.exists_of_findSome?_eq_some h
  exact weight_move hm

/-- The router once it has come to rest. -/
def settle (r : Router L C) : Router L C :=
  match _h : r.next? with
  | none => r
  | some r' => r'.settle
termination_by r.weight
decreasing_by exact weight_next _h

end Router

end Switchboard
