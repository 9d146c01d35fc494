import Switchboard.Proofs.Toml.Document

/-!
# Keys are distinct

A table under construction never gets a key twice: what adds to it looks for the key first, and what
changes a value leaves the keys alone.
-/

namespace Switchboard.Toml

/-- Whether no key is given twice. -/
def Entries.Distinct (es : Entries) : Prop :=
  (es.map Prod.fst).Nodup

namespace Entries

variable {es es' : Entries} {key : String} {n : Node}

theorem Distinct.nil : Distinct [] :=
  List.nodup_nil

theorem Distinct.add (h : es.Distinct) (hnew : es.lookup key = none) :
    Distinct (es ++ [(key, n)]) := by
  have hkey := lookup_eq_none_iff.mp hnew
  rw [Distinct, List.map_append, List.nodup_append]
  refine ⟨h, by simp, ?_⟩
  intro k hk last hlast
  obtain rfl : last = key := by simpa using hlast
  rintro rfl
  exact hkey hk

theorem Distinct.replace (h : es.Distinct) : (es.replace key n).Distinct := by
  have hkeys : (es.replace key n).map Prod.fst = es.map Prod.fst := by
    rw [Entries.replace, List.map_map]
    apply List.map_congr_left
    rintro ⟨k, m⟩ -
    by_cases hk : k = key <;> simp [hk]
  rw [Distinct, hkeys]
  exact h

/-- A table that moves behind its neighbours is not there twice. -/
theorem Distinct.move (h : es.Distinct) : Distinct (es.without key ++ [(key, n)]) := by
  have hwithout : (es.without key).Distinct := h.sublist (List.filter_sublist.map Prod.fst)
  apply hwithout.add
  rw [lookup_eq_none_iff]
  simp [without]

theorem changeAt_distinct {dots : Bool} {change : Origin → Entries → Option Entries}
    (hchange : ∀ origin es es', change origin es = some es' → es.Distinct → es'.Distinct)
    {path : List String} {origin : Origin} (h : changeAt dots change path origin es = some es')
    (hes : es.Distinct) : es'.Distinct := by
  cases path with
  | nil => exact hchange origin es es' h hes
  | cons key path =>
    rw [changeAt] at h
    split at h
    · next hnone =>
      obtain ⟨inner, -, h⟩ := Option.bind_eq_some_iff.mp h
      cases h
      exact hes.add hnone
    · cases h
    · split at h
      · cases h
      · obtain ⟨inner, -, h⟩ := Option.bind_eq_some_iff.mp h
        cases h
        exact hes.replace
    · split at h
      · cases h
      · obtain ⟨inner, -, h⟩ := Option.bind_eq_some_iff.mp h
        cases h
        exact hes.replace

theorem put_distinct {path : KeyPath} {v : Value} (h : es.put path v = some es')
    (hes : es.Distinct) : es'.Distinct := by
  refine changeAt_distinct ?_ h hes
  intro origin es es' hadd hes
  split at hadd
  · cases hadd
  · split at hadd
    · cases hadd
    · next hnone =>
      cases hadd
      exact hes.add (Option.not_isSome_iff_eq_none.mp hnone)

theorem putAll_distinct {pairs : List (KeyPath × Value)} (h : es.putAll pairs = some es')
    (hes : es.Distinct) : es'.Distinct := by
  induction pairs generalizing es with
  | nil =>
    cases h
    exact hes
  | cons p pairs ih =>
    obtain ⟨next, hput, hrest⟩ := Option.bind_eq_some_iff.mp h
    exact ih hrest (put_distinct hput hes)

theorem addSection_distinct {header : Header} {pairs : List (KeyPath × Value)}
    (h : es.addSection header pairs = some es') (hes : es.Distinct) : es'.Distinct := by
  cases header with
  | table path =>
    refine changeAt_distinct ?_ h hes
    intro origin es es' hadd hes
    split at hadd
    · next hnone =>
      obtain ⟨inner, -, hadd⟩ := Option.bind_eq_some_iff.mp hadd
      cases hadd
      exact hes.add hnone
    · obtain ⟨inner, -, hadd⟩ := Option.bind_eq_some_iff.mp hadd
      cases hadd
      exact hes.move
    · cases hadd
  | element path =>
    refine changeAt_distinct ?_ h hes
    intro origin es es' hadd hes
    split at hadd
    · next hnone =>
      obtain ⟨inner, -, hadd⟩ := Option.bind_eq_some_iff.mp hadd
      cases hadd
      exact hes.add hnone
    · obtain ⟨inner, -, hadd⟩ := Option.bind_eq_some_iff.mp hadd
      cases hadd
      exact hes.replace
    · cases hadd

end Entries

/-! ## Documents -/

theorem foldlM_addSection_distinct {ss : List (Header × List (KeyPath × Value))}
    {root es : Entries} (h : ss.foldlM (fun root s => root.addSection s.1 s.2) root = some es)
    (hroot : root.Distinct) : es.Distinct := by
  induction ss generalizing root with
  | nil =>
    cases h
    exact hroot
  | cons s ss ih =>
    obtain ⟨next, hadd, hrest⟩ := Option.bind_eq_some_iff.mp h
    exact ih hrest (Entries.addSection_distinct hadd hroot)

theorem map_fst_entriesToValues (es : Entries) :
    (entriesToValues es).map Prod.fst = es.map Prod.fst := by
  induction es with
  | nil => rfl
  | cons e es ih =>
    obtain ⟨key, n⟩ := e
    rw [entriesToValues, List.map_cons, List.map_cons, ih]

/-- A document gives no key twice. -/
theorem nodup_of_read? {s : String} {entries : List (String × Value)}
    (h : read? s = some entries) : (entries.map Prod.fst).Nodup := by
  obtain ⟨lines, -, h⟩ := Option.bind_eq_some_iff.mp h
  obtain ⟨es, hes, h⟩ := Option.bind_eq_some_iff.mp h
  obtain ⟨root, hroot, hfold⟩ := Option.bind_eq_some_iff.mp hes
  cases h
  rw [Entries.toValues, map_fst_entriesToValues]
  exact foldlM_addSection_distinct hfold (Entries.putAll_distinct hroot .nil)

end Switchboard.Toml
