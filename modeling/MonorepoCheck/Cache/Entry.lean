import MonorepoCheck.Instant.Text
import MonorepoCheck.Report.Stored

/-!
Reports kept between runs. An entry names the unit by a short key, and by the fingerprint the
options that the report was made under.
-/
namespace MonorepoCheck

structure CacheEntry where
  key : String
  unit : String
  fingerprint : String
  report : UnitReport
  savedAt : Instant
  deriving DecidableEq, Repr

namespace CacheEntry

def toJson (entry : CacheEntry) : Json :=
  .object
    [("unitHash", .string entry.key), ("unit", .string entry.unit),
     ("optionsFingerprint", .string entry.fingerprint),
     ("cachedReport", entry.report.toJson), ("cachedAt", .string entry.savedAt.toText)]

def instant? (json : Json) : Option Instant := do Instant.read? (← json.text?).toList

def ofJson? (json : Json) : Option CacheEntry := do
  match ← Json.fields? ["unitHash", "unit", "optionsFingerprint", "cachedReport", "cachedAt"]
      json with
  | [key, unit, fingerprint, report, savedAt] =>
    pure {
      key := ← Json.required Json.text? key
      unit := ← Json.required Json.text? unit
      fingerprint := ← Json.required Json.text? fingerprint
      report := ← Json.required UnitReport.ofJson? report
      savedAt := ← Json.required instant? savedAt }
  | _ => none

end CacheEntry
end MonorepoCheck
