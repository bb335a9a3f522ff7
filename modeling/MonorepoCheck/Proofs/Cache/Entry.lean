import MonorepoCheck.Cache.Entry
import MonorepoCheck.Proofs.Instant.Text
import MonorepoCheck.Proofs.Report.Stored

/-!
Entries of the cache survive being stored: what is read where an entry was written is that entry, or
none where a number in it fits no machine word.
-/
namespace MonorepoCheck.CacheEntry

open Json

/-- Whether an entry can be read back. -/
def fits (entry : CacheEntry) : Bool := entry.report.fits

def fields (entry : CacheEntry) : List (String × Option Json) :=
  [("unitHash", some (.string entry.key)), ("unit", some (.string entry.unit)),
   ("optionsFingerprint", some (.string entry.fingerprint)),
   ("cachedReport", some entry.report.toJson), ("cachedAt", some (.string entry.savedAt.toText))]

theorem toJson_eq (entry : CacheEntry) : entry.toJson = .object (present entry.fields) := rfl

theorem ofJson?_reread (depth : Nat) (entry : CacheEntry) (shallow : depth + 6 ≤ depthLimit) :
    ofJson? (reread depth entry.toJson) = if entry.fits then some entry else none := by
  have distinct : (entry.fields.map Prod.fst).Nodup := by
    simp only [fields, List.map_cons, List.map_nil]
    decide
  have found := fields?_reread depth distinct (by omega)
  have time : instant? (reread (depth + 1) (.string entry.savedAt.toText)) = some entry.savedAt := by
    rw [instant?, text?_reread, Option.bind_eq_bind, Option.bind_some]
    exact Instant.read?_toText entry.savedAt
  rw [show entry.fields.map Prod.fst
      = ["unitHash", "unit", "optionsFingerprint", "cachedReport", "cachedAt"] from rfl,
    ← toJson_eq] at found
  rw [ofJson?, found]
  have report := UnitReport.ofJson?_reread (depth + 1) entry.report (by omega)
  simp only [fields, List.map_cons, List.map_nil, Option.map_some, Option.bind_eq_bind,
    Option.bind_some, required, text?_reread, time, report, fits]
  by_cases report : entry.report.fits <;> simp [report]

theorem literalFree_toJson (entry : CacheEntry) : entry.toJson.literalFree = true := by
  rw [toJson_eq]
  apply literalFree_present
  simp only [fields, List.mem_cons, List.not_mem_nil, or_false]
  rintro field (rfl | rfl | rfl | rfl | rfl) json written <;> simp at written
  case inr.inr.inr.inl => exact written ▸ entry.report.literalFree_toJson
  all_goals exact written ▸ rfl

/-- What is read from the text of an entry. -/
theorem read_prettyText (entry : CacheEntry) :
    (parseText? entry.toJson.prettyText).bind ofJson? = if entry.fits then some entry else none := by
  rw [parseText?_prettyText entry.literalFree_toJson, Option.bind_some]
  exact ofJson?_reread 0 entry (by decide)

end MonorepoCheck.CacheEntry
