import Switchboard.Host.FileTree
import Switchboard.Proofs.Payload.Basic
import Switchboard.Proofs.Text.Utf8

/-!
# What was written is found

A written file replaces one entry that is no directory. A path passes through directories only, so
it leads to the same place before and after, and there the new content is found.
-/

namespace Switchboard.FileTree

variable {t t' : FileTree} {p : FilePath} {place other : Place} {e : FileEntry}

/-! ## Entries -/

theorem get?_set_self (hworking : place ≠ .working) (houtermost : place ≠ .outermost) :
    (t.set place e).get? place = some e := by
  simp [get?, set, hworking, houtermost]

theorem lookup_filter_ne (entries : List (Place × FileEntry)) (h : other ≠ place) :
    (entries.filter fun old => old.1 ≠ place).lookup other = entries.lookup other := by
  induction entries with
  | nil => rfl
  | cons entry entries ih =>
    obtain ⟨at', e⟩ := entry
    by_cases hat : at' = place
    · subst hat
      simpa [List.lookup_cons, beq_eq_false_iff_ne.mpr h] using ih
    · by_cases hother : other = at'
      · simp [hat, hother]
      · simpa [hat, List.lookup_cons, beq_eq_false_iff_ne.mpr hother] using ih

theorem get?_set_of_ne (h : other ≠ place) : (t.set place e).get? other = t.get? other := by
  have hlookup := lookup_filter_ne t.entries h
  simp only [get?, set, List.lookup_cons, beq_eq_false_iff_ne.mpr h, hlookup]

/-! ## Paths -/

/-- Names lead to the same place also when something at the place of a file has changed. -/
theorem walk_set (hfile : t.get? place ≠ some .directory) {start found : Place}
    {names : List String} (h : t.walk start names = .ok found) :
    (t.set place e).walk start names = .ok found := by
  induction names generalizing start with
  | nil => exact h
  | cons name names ih =>
    rw [walk] at h
    split at h
    · cases h
    · cases h
    · next hdirectory =>
      -- the walk goes on from a directory, which is not the changed place
      have hne : start ≠ place := by
        rintro rfl
        exact hfile hdirectory
      rw [walk, get?_set_of_ne hne, hdirectory]
      split at h
      · next hdot => simpa [hdot] using ih h
      · next hdot =>
        split at h
        · next hup => simpa [hdot, hup] using ih h
        · next hup =>
          split at h
          · cases h
          · next hlong => simpa [hdot, hup, hlong] using ih h

theorem locate_set (hfile : t.get? place ≠ some .directory) (h : t.locate p = .ok other) :
    (t.set place e).locate p = .ok other := by
  unfold locate at h ⊢
  split at h
  · cases h
  · next hzero =>
    split at h
    · cases h
    · next hlong =>
      split at h
      · cases h
      · next hempty =>
        have hwalk := mapError_eq_ok_iff.mp h
        rw [if_neg hzero, if_neg hlong, if_neg hempty, walk_set hfile hwalk]
        rfl

/-! ## Writing and reading -/

/-- A file can be opened for writing where a path without a separator at its end leads to no
directory. -/
theorem openFile_eq_ok (h : t.openFile p = .ok place) :
    t.locate p = .ok place ∧ p.slash = false ∧ t.get? place ≠ some .directory := by
  obtain ⟨found, hlocate, hfound⟩ := bind_eq_ok_iff.mp h
  split at hfound
  · cases hfound
  · next hcan =>
    cases hfound
    simp only [Bool.or_eq_true, decide_eq_true_eq, not_or, Bool.not_eq_true] at hcan
    exact ⟨hlocate, hcan.1.1, hcan.2⟩

theorem write_eq_ok {content : Bytes} (h : t.write p content = .ok t') :
    ∃ place, t.openFile p = .ok place ∧ t' = t.set place (.file content) := by
  obtain ⟨place, hopen, hset⟩ := bind_eq_ok_iff.mp h
  cases hset
  exact ⟨place, hopen, rfl⟩

/-- A file holds what was written to it. -/
theorem find_write {content : Bytes} (h : t.write p content = .ok t') :
    t'.find p = .ok (.file content) := by
  obtain ⟨place, hopen, rfl⟩ := write_eq_ok h
  obtain ⟨hlocate, hslash, hfile⟩ := openFile_eq_ok hopen
  have hworking : place ≠ .working := by
    rintro rfl
    exact hfile (by simp [get?])
  have houtermost : place ≠ .outermost := by
    rintro rfl
    exact hfile (by simp [get?])
  have hget := get?_set_self (t := t) (e := .file content) hworking houtermost
  simp only [find, locate_set hfile hlocate, bind, Except.bind]
  simp [hget, hslash, pure, Except.pure]

theorem readText_of_find {text : String} (h : t.find p = .ok (.file (Utf8.ofString text))) :
    t.readText p = .ok text := by
  simp [readText, read, h, Utf8.toString?_ofString, bind, Except.bind, pure, Except.pure]

theorem readText_write {text : String} (h : t.write p (Utf8.ofString text) = .ok t') :
    t'.readText p = .ok text :=
  readText_of_find (find_write h)

/-- A file that is read is there. -/
theorem isPresent_of_readText {text : String} (h : t.readText p = .ok text) :
    t.isPresent p = true := by
  obtain ⟨content, hread, -⟩ := bind_eq_ok_iff.mp h
  obtain ⟨entry, hfind, -⟩ := bind_eq_ok_iff.mp hread
  rw [isPresent, hfind]
  rfl

/-- Whether a file can be written at a path once the directories around it are made. -/
def Accepts (t : FileTree) (p : FilePath) : Prop :=
  (t.makeParents p).1 = .ok () ∧ ∃ place, (t.makeParents p).2.openFile p = .ok place

end Switchboard.FileTree
