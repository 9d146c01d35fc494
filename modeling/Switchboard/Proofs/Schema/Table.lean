import Mathlib.Data.List.Induction
import Switchboard.Payload.Binary

/-!
# Tables from their entries

Inserting the entries of a table one after the other, in their order, gives the table again. From
any entries a table has no more than there were.
-/

namespace Switchboard

open Binary (tableOf)

namespace Table

variable {K V : Type} {cmp : K → K → Ordering} [Std.TransCmp cmp]

/-- A key beyond all others is inserted at the end. -/
theorem insertEntry_of_lt {k : K} {v : V} {es : List (K × V)}
    (h : ∀ e ∈ es, cmp e.1 k = .lt) : insertEntry cmp k v es = es ++ [(k, v)] := by
  induction es with
  | nil => rfl
  | cons e es ih =>
    have hgt : cmp k e.1 = .gt := Std.OrientedCmp.gt_of_lt (h e List.mem_cons_self)
    rw [insertEntry, hgt]
    dsimp only
    rw [ih fun p hp => h p (List.mem_cons_of_mem _ hp)]
    rfl

theorem tableOf_append (es : List (K × V)) (e : K × V) :
    (tableOf (es ++ [e]) : Table cmp V) = (tableOf es).insert e.1 e.2 := by
  rw [tableOf, List.foldl_append]
  rfl

/-- Entries in increasing order of their keys are all kept. -/
theorem entries_tableOf {es : List (K × V)} (h : es.Pairwise fun a b => cmp a.1 b.1 = .lt) :
    (tableOf es : Table cmp V).entries = es := by
  induction es using List.reverseRecOn with
  | nil => rfl
  | append_singleton es e ih =>
    obtain ⟨hes, -, hlast⟩ := List.pairwise_append.mp h
    rw [tableOf_append]
    show insertEntry cmp e.1 e.2 (tableOf es).entries = es ++ [e]
    rw [ih hes]
    exact insertEntry_of_lt fun p hp => hlast p hp e List.mem_cons_self

theorem tableOf_entries (t : Table cmp V) : tableOf t.entries = t :=
  ext (entries_tableOf t.sorted)

omit [Std.TransCmp cmp] in
theorem length_insertEntry_le (k : K) (v : V) (es : List (K × V)) :
    (insertEntry cmp k v es).length ≤ es.length + 1 := by
  induction es with
  | nil => exact Nat.le_refl _
  | cons e es ih =>
    unfold insertEntry
    split
    · exact Nat.le_refl _
    · exact Nat.le_succ _
    · exact Nat.succ_le_succ ih

theorem length_tableOf_le (es : List (K × V)) :
    (tableOf es : Table cmp V).entries.length ≤ es.length := by
  induction es using List.reverseRecOn with
  | nil => exact Nat.le_refl _
  | append_singleton es e ih =>
    rw [tableOf_append, List.length_append]
    exact Nat.le_trans (length_insertEntry_le e.1 e.2 _) (Nat.succ_le_succ ih)

theorem mem_tableOf {es : List (K × V)} {p : K × V} (h : p ∈ (tableOf es : Table cmp V).entries) :
    p ∈ es := by
  induction es using List.reverseRecOn with
  | nil => cases h
  | append_singleton es e ih =>
    rw [tableOf_append] at h
    rcases mem_insertEntry h with rfl | hold
    · exact List.mem_append_right _ List.mem_cons_self
    · exact List.mem_append_left _ (ih hold)

end Table

end Switchboard
