import Switchboard.Proofs.Payload.Binary
import Switchboard.Proofs.Payload.Json.Value
import Switchboard.Proofs.Payload.Json.Writable

/-!
# Payloads are read back

Both formats together. What can be written is read back as it was; what was read can be written, and
is read back again.
-/

namespace Switchboard

namespace Schema

variable {s : Schema} {v : s.Value} {payload : Bytes}

theorem write_of_json (h : s.format = .json) :
    s.write v = .ok payload ↔ s.shape.toJson? v = some payload := by
  unfold write
  rw [h]
  rcases s.shape.toJson? v with _ | bs <;> simp

theorem read_of_json (h : s.format = .json) :
    s.read payload = .ok v ↔ s.shape.ofJson payload = .ok v := by
  unfold read
  rw [h]
  exact mapError_eq_ok_iff

/-- Only a key that is no text keeps a value from being written. -/
theorem write_eq_error_iff {err : PayloadError} :
    s.write v = .error err ↔
      s.format = .json ∧ s.shape.toJson? v = none ∧ err = .jsonKey := by
  unfold write
  rcases s.format
  · simp
  · rcases s.shape.toJson? v with _ | bs
    · simp [eq_comm]
    · simp

/-- What was written is read back. -/
theorem read_of_write (hs : s.shape.isLegible = true) (hv : s.format = .binary → s.shape.Fits v)
    (h : s.write v = .ok payload) : s.read payload = .ok v := by
  rcases hformat : s.format
  · rw [write_of_binary hformat] at h
    cases h
    exact read_toBinary hformat (hv hformat)
  · exact (read_of_json hformat).mpr (Shape.ofJson_of_toJson hs ((write_of_json hformat).mp h))

/-- What was read can be written. -/
theorem exists_write_of_read (h : s.read payload = .ok v) : ∃ again, s.write v = .ok again := by
  rcases hformat : s.format
  · exact ⟨_, write_of_binary hformat v⟩
  · have hsome := Shape.isSome_toJson?_of_ofJson ((read_of_json hformat).mp h)
    obtain ⟨bs, hbs⟩ := Option.isSome_iff_exists.mp hsome
    exact ⟨bs, (write_of_json hformat).mpr hbs⟩

end Schema

namespace Samples

/-- Scores can be written if there are none. -/
theorem isSome_toJson?_scores {v : scores.Value} :
    (scores.shape.toJson? v).isSome ↔ v.1.entries = [] := by
  refine (Shape.isSome_toJson?_record.trans Fields.isSome_toJson?_cons).trans ?_
  exact (and_iff_left rfl).trans Shape.isSome_toJson?_pairs

/-- Of all values in use, only scores cannot be written, unless there are none. -/
theorem write_eq_error_iff {s : Schema} (hs : s ∈ all) {v : s.Value} {err : PayloadError} :
    s.write v = .error err ↔
      err = .jsonKey ∧ ∃ w : scores.Value, (⟨s, v⟩ : Message) = ⟨scores, w⟩ ∧ w.1.entries ≠ [] := by
  rw [Schema.write_eq_error_iff]
  constructor
  · rintro ⟨-, hnone, rfl⟩
    refine ⟨rfl, ?_⟩
    by_cases hscores : s = scores
    · subst hscores
      refine ⟨v, rfl, fun hempty => ?_⟩
      have hsome := isSome_toJson?_scores.mpr hempty
      rw [hnone] at hsome
      cases hsome
    · have hsome := s.shape.isSome_toJson?_of_hasTextKeys (hasTextKeys_of_mem hs hscores) v
      rw [hnone] at hsome
      cases hsome
  · rintro ⟨rfl, w, heq, hw⟩
    cases heq
    exact ⟨rfl, Option.not_isSome_iff_eq_none.mp (mt isSome_toJson?_scores.mp hw), rfl⟩

end Samples

end Switchboard
