/-!
# Tables

Finite maps as lists of entries with strictly increasing keys, so that two tables with the same
entries are equal. Inserting under a key that is present replaces its value.
-/

namespace Switchboard

/-- A finite map, its keys in increasing order of `cmp`. -/
structure Table {K : Type} (cmp : K → K → Ordering) (V : Type) where
  entries : List (K × V)
  sorted : entries.Pairwise fun a b => cmp a.1 b.1 = .lt

namespace Table

variable {K V : Type} {cmp : K → K → Ordering}

/-- The table without entries. -/
def empty : Table cmp V :=
  ⟨[], .nil⟩

theorem ext {s t : Table cmp V} (h : s.entries = t.entries) : s = t := by
  cases s; cases t; simp_all

/-- Puts an entry in front of the first one with a larger key. -/
def insertEntry (cmp : K → K → Ordering) (k : K) (v : V) : List (K × V) → List (K × V)
  | [] => [(k, v)]
  | e :: es =>
    match cmp k e.1 with
    | .lt => (k, v) :: e :: es
    | .eq => (k, v) :: es
    | .gt => e :: insertEntry cmp k v es

theorem mem_insertEntry {k : K} {v : V} {es : List (K × V)} {p : K × V}
    (h : p ∈ insertEntry cmp k v es) : p = (k, v) ∨ p ∈ es := by
  induction es with
  | nil => simpa [insertEntry] using h
  | cons e es ih =>
    unfold insertEntry at h
    split at h
    · simpa using h
    · rcases List.mem_cons.mp h with h | h
      · exact .inl h
      · exact .inr (List.mem_cons_of_mem _ h)
    · rcases List.mem_cons.mp h with h | h
      · exact .inr (h ▸ List.mem_cons_self)
      · exact (ih h).imp id (List.mem_cons_of_mem _)

theorem pairwise_insertEntry [Std.TransCmp cmp] (k : K) (v : V) {es : List (K × V)}
    (h : es.Pairwise fun a b => cmp a.1 b.1 = .lt) :
    (insertEntry cmp k v es).Pairwise fun a b => cmp a.1 b.1 = .lt := by
  induction es with
  | nil => simp [insertEntry]
  | cons e es ih =>
    obtain ⟨he, hes⟩ := List.pairwise_cons.mp h
    unfold insertEntry
    split
    · next hlt =>
      refine List.pairwise_cons.mpr ⟨fun p hp => ?_, h⟩
      rcases List.mem_cons.mp hp with rfl | hp
      · exact hlt
      · exact Std.TransCmp.lt_trans hlt (he p hp)
    · next heq =>
      exact List.pairwise_cons.mpr
        ⟨fun p hp => Std.TransCmp.lt_of_eq_of_lt heq (he p hp), hes⟩
    · next hgt =>
      refine List.pairwise_cons.mpr ⟨fun p hp => ?_, ih hes⟩
      rcases mem_insertEntry hp with rfl | hp
      · exact Std.OrientedCmp.lt_of_gt hgt
      · exact he p hp

/-- The table with one more entry, or with a new value under a key that it has. -/
def insert [Std.TransCmp cmp] (t : Table cmp V) (k : K) (v : V) : Table cmp V :=
  ⟨insertEntry cmp k v t.entries, pairwise_insertEntry k v t.sorted⟩

end Table

end Switchboard
