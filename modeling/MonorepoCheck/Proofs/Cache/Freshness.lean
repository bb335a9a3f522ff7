import MonorepoCheck.Cache.Freshness

/-!
An entry that is fresh is older than no source: the comparison with the newest one speaks for all.
-/
namespace MonorepoCheck

namespace Instant

theorem isAfter_iff (a b : Instant) :
    a.isAfter b = true ↔ b.seconds < a.seconds ∨ a.seconds = b.seconds ∧ b.nanos < a.nanos := by
  simp [isAfter]

/-- The later of two instants comes after what one of them comes after. -/
theorem latest_isAfter (a b limit : Instant) :
    (latest a b).isAfter limit = true ↔ a.isAfter limit = true ∨ b.isAfter limit = true := by
  by_cases later : a.isAfter b = true
  · rw [latest, if_pos later]
    simp only [isAfter_iff] at later ⊢
    omega
  · rw [latest, if_neg later]
    simp only [isAfter_iff] at later ⊢
    omega

theorem foldl_latest_isAfter (times : List Instant) (start limit : Instant) :
    (times.foldl latest start).isAfter limit = true
      ↔ start.isAfter limit = true ∨ ∃ time ∈ times, time.isAfter limit = true := by
  induction times generalizing start with
  | nil => simp
  | cons time times ih =>
      rw [List.foldl_cons, ih, latest_isAfter]
      simp [or_assoc]

end Instant

namespace Cache

variable {cache : Cache} {host : Host} {unit : BuildUnit} {fingerprint : String}
  {entry : CacheEntry}

/-- An entry is fresh when it was made under the same options and no source is newer. -/
theorem isFresh_iff :
    cache.isFresh host unit fingerprint entry = true ↔ entry.fingerprint = fingerprint
      ∧ ∀ time ∈ cache.sourceTimes host unit.path, time.isAfter entry.savedAt = false := by
  rw [isFresh, Bool.and_eq_true, beq_iff_eq, newestSource]
  refine and_congr_right fun _ => ?_
  cases cache.sourceTimes host unit.path with
  | nil => simp
  | cons time times =>
      have latest := Instant.foldl_latest_isAfter times time entry.savedAt
      simp only [Bool.not_eq_true', ← Bool.not_eq_true, latest, List.mem_cons]
      constructor
      · rintro none' other (rfl | member) after
        · exact none' (.inl after)
        · exact none' (.inr ⟨other, member, after⟩)
      · rintro older (after | ⟨other, member, after⟩)
        · exact older time (.inl rfl) after
        · exact older other (.inr member) after

end Cache
end MonorepoCheck
