import MonorepoCheck.Proofs.Cache.Entry

/-!
All that is stored or handed out as JSON is read back as it was, from its compact and from its
pretty text. The members of a report on a run stand in a document beside those of the document
itself; their names differ, and each side passes over what belongs to the other.
-/
namespace MonorepoCheck

open Json

namespace Json

section Readable

variable {depth : Nat}

theorem readableItems_eq (items : List Json) : readableItems items = items.all readable := by
  induction items with
  | nil => rfl
  | cons item items ih => rw [readableItems, ih, List.all_cons]

theorem readableMembers_eq (members : List (String × Json)) :
    readableMembers members = members.all fun member => member.2.readable := by
  induction members with
  | nil => rfl
  | cons member members ih => rw [readableMembers, ih, List.all_cons]

theorem readable_natural {n : Nat} (fits : fitsWord n = true) :
    (reread depth (natural n)).readable = true := by
  have word : n < Nat.pow 2 64 := of_decide_eq_true fits
  have inside : (integerParts n).inRange = true :=
    integerParts_inRange (Nat.lt_trans word (Nat.pow_lt_pow_right (by decide) (by decide)))
  rw [natural, reread, integerParts_value, if_pos inside]
  rfl

theorem readable_array {α : Type} {write : α → Json} {items : List α}
    (shallow : depth < depthLimit)
    (parts : ∀ item ∈ items, (reread (depth + 1) (write item)).readable = true) :
    (reread depth (.array (items.map write))).readable = true := by
  rw [reread, atDepth_shallow shallow, rereadItems_map, readable, readableItems_eq]
  simpa using parts

theorem readableMembers_present {fields : List (String × Option Json)}
    (parts : ∀ field ∈ fields, ∀ json ∈ field.2, (reread depth json).readable = true) :
    readableMembers (rereadMembers depth (present fields)) = true := by
  rw [rereadMembers_present, readableMembers_eq, List.all_eq_true]
  intro member among
  obtain ⟨field, fieldMember, found⟩ := List.mem_filterMap.mp among
  obtain ⟨written, writtenMember, rfl⟩ := List.mem_map.mp fieldMember
  obtain ⟨json, again, rfl⟩ := Option.map_eq_some_iff.mp found
  obtain ⟨value, stood, rfl⟩ := Option.map_eq_some_iff.mp again
  exact parts written writtenMember value stood

theorem readable_present {fields : List (String × Option Json)} (shallow : depth < depthLimit)
    (parts : ∀ field ∈ fields, ∀ json ∈ field.2, (reread (depth + 1) json).readable = true) :
    (reread depth (.object (present fields))).readable = true := by
  rw [reread, atDepth_shallow shallow, readable]
  exact readableMembers_present parts

theorem readable_texts (texts : List String) (shallow : depth < depthLimit) :
    (reread depth (ofTexts texts)).readable = true :=
  readable_array shallow fun _ _ => rfl

end Readable

end Json

theorem Counts.readable_fields {depth : Nat} {counts : Counts} (fits : counts.fits = true) :
    ∀ field ∈ counts.fields, ∀ json ∈ field.2, (reread depth json).readable = true := by
  obtain ⟨both, remaining⟩ := Bool.and_eq_true_iff.mp fits
  obtain ⟨total, fixed⟩ := Bool.and_eq_true_iff.mp both
  exact forall_fields (readable_natural total) (readable_natural fixed) (readable_natural remaining)

theorem Diagnostic.readable_toJson {depth : Nat} {d : Diagnostic} (fits : d.fits = true)
    (shallow : depth + 2 ≤ depthLimit) : (reread depth d.toJson).readable = true := by
  obtain ⟨line, column⟩ := Bool.and_eq_true_iff.mp fits
  rw [toJson_eq]
  apply readable_present (by omega)
  apply forall_fields
  case text => exact fun _ => rfl
  case line => exact readable_natural line
  case column => exact readable_natural column
  case texts => exact fun texts => readable_texts texts (by omega)

theorem Findings.readable_toJson {depth : Nat} {findings : Findings}
    (fits : findings.fits = true) (shallow : depth + 4 ≤ depthLimit) :
    (reread depth findings.toJson).readable = true := by
  have small : ∀ group ∈ findings.groups, ∀ d ∈ group.2, d.fits = true := by
    simpa [Findings.fits] using fits
  rw [toJson, reread, atDepth_shallow (by omega), rereadMembers_map, readable, readableMembers_eq,
    List.all_eq_true]
  intro member among
  obtain ⟨group, listed, rfl⟩ := List.mem_map.mp among
  exact readable_array (by omega) fun d found =>
    Diagnostic.readable_toJson (small group listed d found) (by omega)

namespace UnitSummary

def fields (summary : UnitSummary) : List (String × Option Json) :=
  ("unit", some (.string summary.unit)) :: summary.counts.fields
    ++ [("fromCache", some (.bool summary.fromCache))]

theorem toJson_eq (summary : UnitSummary) : summary.toJson = .object (present summary.fields) := rfl

theorem ofJson?_reread {depth : Nat} (summary : UnitSummary) (shallow : depth < depthLimit) :
    ofJson? (reread depth summary.toJson) = if summary.counts.fits then some summary else none := by
  have distinct : (summary.fields.map Prod.fst).Nodup := by
    simp only [fields, Counts.fields, List.map_cons, List.map_nil, List.cons_append, List.nil_append]
    decide
  have found := fields?_reread depth distinct shallow
  rw [show summary.fields.map Prod.fst = "unit" :: Counts.fieldNames ++ ["fromCache"] from rfl,
    ← toJson_eq] at found
  rw [ofJson?, found]
  simp only [fields, Counts.fields, List.cons_append, List.nil_append, List.map_cons, List.map_nil,
    Option.map_some, Option.bind_eq_bind, Option.bind_some]
  rw [Counts.ofFields?_reread]
  simp only [required, Option.bind_some, text?_reread, bool?_reread]
  cases summary.counts.fits <;> rfl

theorem forall_fields {summary : UnitSummary} {holds : Json → Prop}
    (text : ∀ text, holds (.string text)) (truth : ∀ value, holds (.bool value))
    (counts : ∀ field ∈ summary.counts.fields, ∀ json ∈ field.2, holds json) :
    ∀ field ∈ summary.fields, ∀ json ∈ field.2, holds json := by
  intro field member json written
  rcases List.mem_cons.mp member with rfl | later
  · exact Option.some.inj written ▸ text _
  · rcases List.mem_append.mp later with counted | last
    · exact counts field counted json written
    · rw [List.mem_singleton.mp last] at written
      exact Option.some.inj written ▸ truth _

theorem literalFree_toJson (summary : UnitSummary) : summary.toJson.literalFree = true := by
  rw [toJson_eq]
  apply literalFree_present
  exact forall_fields (fun _ => rfl) (fun _ => rfl) (Counts.forall_fields rfl rfl rfl)

theorem readable_toJson {depth : Nat} {summary : UnitSummary} (fits : summary.counts.fits = true)
    (shallow : depth < depthLimit) : (reread depth summary.toJson).readable = true := by
  rw [toJson_eq]
  apply readable_present shallow
  exact forall_fields (fun _ => rfl) (fun _ => rfl) (Counts.readable_fields fits)

end UnitSummary

namespace RunReport

def fits (run : RunReport) : Bool :=
  run.counts.fits && run.findings.fits && run.units.all fun summary => summary.counts.fits

def fields (run : RunReport) : List (String × Option Json) :=
  run.counts.fields
    ++ [("errorsByFile", some run.findings.toJson),
        ("units", some (.array (run.units.map UnitSummary.toJson))),
        ("notes", if run.notes.isEmpty then none else some (.ofTexts run.notes))]

theorem members_eq (run : RunReport) : run.members = present run.fields := by
  rw [members, fields, noteMembers]
  cases run.notes.isEmpty <;> rfl

theorem fields_distinct (run : RunReport) : (run.fields.map Prod.fst).Nodup := by
  simp only [fields, Counts.fields, List.map_append, List.map_cons, List.map_nil]
  decide

/-- A report on a run is read from among other members. -/
theorem ofJson?_among {depth : Nat} {written : List (String × Option Json)} (run : RunReport)
    (distinct : (written.map Prod.fst).Nodup) (among : ∀ field ∈ run.fields, field ∈ written)
    (shallow : depth + 5 ≤ depthLimit) :
    ofJson? (reread depth (.object (present written))) = if run.fits then some run else none := by
  have found := fields?_reread_among depth distinct among (by omega)
  rw [show run.fields.map Prod.fst = fieldNames from rfl] at found
  have notes : Json.orElse [] texts?
      ((if run.notes.isEmpty then none else some (ofTexts run.notes)).map (reread (depth + 1)))
        = some run.notes := by
    cases some' : run.notes with
    | nil => rfl
    | cons note notes => exact texts?_reread (note :: notes) (by omega)
  have units : listOf? UnitSummary.ofJson?
      (reread (depth + 1) (.array (run.units.map UnitSummary.toJson)))
        = if run.units.all fun summary => summary.counts.fits then some run.units else none := by
    rw [reread, atDepth_shallow (by omega), rereadItems_map]
    exact mapM_guarded _ UnitSummary.ofJson? (fun summary => summary.counts.fits)
      (fun summary => UnitSummary.ofJson?_reread summary (by omega)) run.units
  rw [ofJson?, found]
  simp only [fields, Counts.fields, List.cons_append, List.nil_append, List.map_cons, List.map_nil,
    Option.map_some, Option.bind_eq_bind, Option.bind_some]
  rw [notes, Counts.ofFields?_reread]
  simp only [required, Option.bind_some, units,
    Findings.ofJson?_reread (depth + 1) run.findings (by omega), fits]
  by_cases counts : run.counts.fits <;> by_cases findings : run.findings.fits <;>
    by_cases summaries : run.units.all fun summary => summary.counts.fits <;>
      simp [counts, findings, summaries]

theorem ofJson?_reread {depth : Nat} (run : RunReport) (shallow : depth + 5 ≤ depthLimit) :
    ofJson? (reread depth run.toJson) = if run.fits then some run else none := by
  rw [toJson, members_eq]
  exact ofJson?_among run run.fields_distinct (fun _ member => member) shallow

theorem forall_fields {run : RunReport} {holds : Json → Prop}
    (counts : ∀ field ∈ run.counts.fields, ∀ json ∈ field.2, holds json)
    (findings : holds run.findings.toJson) (units : holds (.array (run.units.map UnitSummary.toJson)))
    (notes : ∀ texts, holds (.ofTexts texts)) :
    ∀ field ∈ run.fields, ∀ json ∈ field.2, holds json := by
  intro field member json written
  rcases List.mem_append.mp member with counted | later
  · exact counts field counted json written
  · simp only [List.mem_cons, List.not_mem_nil, or_false] at later
    rcases later with rfl | rfl | rfl
    · exact Option.some.inj written ▸ findings
    · exact Option.some.inj written ▸ units
    · split at written
      · cases written
      · exact Option.some.inj written ▸ notes _

theorem literalFree_fields (run : RunReport) :
    ∀ field ∈ run.fields, ∀ json ∈ field.2, json.literalFree = true := by
  apply forall_fields
  case counts => exact Counts.forall_fields rfl rfl rfl
  case findings => exact run.findings.literalFree_toJson
  case units =>
    rw [literalFree, literalFreeItems_eq]
    simp [UnitSummary.literalFree_toJson]
  case notes => exact literalFree_ofTexts

theorem literalFree_toJson (run : RunReport) : run.toJson.literalFree = true := by
  rw [toJson, members_eq]
  exact literalFree_present run.literalFree_fields

theorem readable_fields {depth : Nat} {run : RunReport} (fits : run.fits = true)
    (shallow : depth + 4 ≤ depthLimit) :
    ∀ field ∈ run.fields, ∀ json ∈ field.2, (reread depth json).readable = true := by
  obtain ⟨both, units⟩ := Bool.and_eq_true_iff.mp fits
  obtain ⟨counts, findings⟩ := Bool.and_eq_true_iff.mp both
  apply forall_fields
  case counts => exact Counts.readable_fields counts
  case findings => exact Findings.readable_toJson findings shallow
  case units =>
    exact readable_array (by omega) fun summary listed =>
      UnitSummary.readable_toJson (List.all_eq_true.mp units summary listed) (by omega)
  case notes => exact fun texts => readable_texts texts (by omega)

end RunReport

namespace Circumstances

def fits (c : Circumstances) : Bool :=
  decide (c.durationMs < Nat.pow 2 128) && fitsWord c.unitsDiscovered && fitsWord c.unitsScanned
    && fitsWord c.unitsFromCache

def fields (c : Circumstances) : List (String × Option Json) :=
  [("runId", some (.string c.runId)), ("generatedAt", some (.string c.generatedAt)),
   ("version", some (.string c.version)), ("workspaceRoot", some (.string c.workspaceRoot)),
   ("durationMs", some (natural c.durationMs)), ("remediationLevel", some (.string c.remedy)),
   ("dryRun", some (.bool c.dryRun)), ("unitsDiscovered", some (natural c.unitsDiscovered)),
   ("unitsScanned", some (natural c.unitsScanned)),
   ("unitsFromCache", some (natural c.unitsFromCache)), ("cancelled", some (.bool c.cancelled))]

theorem toJson_eq (c : Circumstances) : c.toJson = .object (present c.fields) := rfl

theorem ofJson?_reread {depth : Nat} {c : Circumstances} (fits : c.fits = true)
    (shallow : depth < depthLimit) : ofJson? (reread depth c.toJson) = some c := by
  have distinct : (c.fields.map Prod.fst).Nodup := by
    simp only [fields, List.map_cons, List.map_nil]
    decide
  have found := fields?_reread depth distinct shallow
  rw [show c.fields.map Prod.fst = fieldNames from rfl, ← toJson_eq] at found
  simp only [Circumstances.fits, Bool.and_eq_true, decide_eq_true_eq] at fits
  obtain ⟨⟨⟨duration, discovered⟩, scanned⟩, cached⟩ := fits
  have time : naturalBelow? (Nat.pow 2 128) (reread (depth + 1) (natural c.durationMs))
      = some c.durationMs := by
    rw [natural, naturalBelow?_reread (Nat.le_refl _), if_pos duration]
  rw [ofJson?, found]
  simp only [fields, List.map_cons, List.map_nil, Option.map_some, Option.bind_eq_bind,
    Option.bind_some, required, text?_reread, bool?_reread, time, count?_natural, discovered,
    scanned, cached, if_true]
  rfl

theorem literalFree_toJson (c : Circumstances) : c.toJson.literalFree = true := by
  rw [toJson_eq]
  apply literalFree_present
  simp only [fields, List.mem_cons, List.not_mem_nil, or_false]
  rintro field (rfl | rfl | rfl | rfl | rfl | rfl | rfl | rfl | rfl | rfl | rfl) json written <;>
    exact Option.some.inj written ▸ rfl

end Circumstances

theorem RunStatus.ofJson?_toJson (status : RunStatus) : ofJson? status.toJson = some status := by
  cases status <;> decide

namespace Document

def fits (document : Document) : Bool := document.circumstances.fits && document.report.fits

def fields (document : Document) : List (String × Option Json) :=
  ("metadata", some document.circumstances.toJson) :: ("status", some document.status.toJson)
    :: document.report.fields

theorem toJson_eq (document : Document) : document.toJson = .object (present document.fields) := by
  rw [toJson, RunReport.members_eq]
  rfl

/-- No member of the report has the name of a member of the document itself. -/
theorem fields_distinct (document : Document) : (document.fields.map Prod.fst).Nodup := by
  simp only [fields, RunReport.fields, Counts.fields, List.map_append, List.map_cons, List.map_nil]
  decide

theorem report_names (document : Document) {member : String × Json}
    (among : member ∈ document.report.members) :
    member.1 ≠ "metadata" ∧ member.1 ≠ "status" := by
  rw [RunReport.members_eq] at among
  obtain ⟨field, listed, found⟩ := List.mem_filterMap.mp among
  obtain ⟨json, _, rfl⟩ := Option.map_eq_some_iff.mp found
  have name : field.1 ∈ document.report.fields.map Prod.fst := List.mem_map_of_mem listed
  obtain ⟨noMetadata, distinct⟩ := List.nodup_cons.mp document.fields_distinct
  obtain ⟨noStatus, _⟩ := List.nodup_cons.mp distinct
  constructor
  · intro same
    exact noMetadata (List.mem_cons_of_mem _ (same ▸ name))
  · intro same
    exact noStatus (same ▸ name)

/-- The members of a document that are not its own can be looked at. -/
theorem readable_others {document : Document} (fits : document.report.fits = true) :
    readableMembers ((rereadMembers 1 (present document.fields)).filter fun member =>
      member.1 != "metadata" && member.1 != "status") = true := by
  have parts : rereadMembers 1 (present document.fields)
      = ("metadata", reread 1 document.circumstances.toJson)
        :: ("status", reread 1 document.status.toJson)
        :: rereadMembers 1 (present document.report.fields) := rfl
  have report := readableMembers_present (RunReport.readable_fields fits (by decide : 1 + 4 ≤ depthLimit))
  rw [readableMembers_eq, List.all_eq_true] at report
  rw [parts, List.filter_cons_of_neg (by simp), List.filter_cons_of_neg (by simp),
    readableMembers_eq, List.all_eq_true]
  exact fun member among => report member (List.mem_of_mem_filter among)

theorem ofJson?_reread {document : Document} (fits : document.fits = true) :
    ofJson? (reread 0 document.toJson) = some document := by
  obtain ⟨circumstances, report⟩ := Bool.and_eq_true_iff.mp fits
  have distinct := document.fields_distinct
  have own : fields? ["metadata", "status"] (reread 0 (.object (present document.fields)))
      = some [some (reread 1 document.circumstances.toJson),
        some (reread 1 document.status.toJson)] :=
    @fields?_reread_among 0 document.fields
      [("metadata", some document.circumstances.toJson), ("status", some document.status.toJson)]
      distinct (by simp [fields]) (by decide)
  have rest : RunReport.ofJson? (reread 0 (.object (present document.fields)))
      = some document.report := by
    rw [RunReport.ofJson?_among document.report distinct (fun _ member =>
      List.mem_cons_of_mem _ (List.mem_cons_of_mem _ member)) (by decide), if_pos report]
  have whole : reread 0 (.object (present document.fields))
      = .object (rereadMembers 1 (present document.fields)) := rfl
  rw [toJson_eq]
  rw [whole] at own rest ⊢
  simp only [ofJson?, own, Option.bind_eq_bind, Option.bind_some, readable_others report, if_true,
    required, Circumstances.ofJson?_reread circumstances (by decide : 1 < depthLimit), rest]
  rw [show reread 1 document.status.toJson = document.status.toJson from rfl,
    RunStatus.ofJson?_toJson]
  rfl

theorem literalFree_toJson (document : Document) : document.toJson.literalFree = true := by
  rw [toJson_eq]
  apply literalFree_present
  intro field member json written
  rcases List.mem_cons.mp member with rfl | later
  · exact Option.some.inj written ▸ document.circumstances.literalFree_toJson
  · rcases List.mem_cons.mp later with rfl | reported
    · exact Option.some.inj written ▸ rfl
    · exact document.report.literalFree_fields field reported json written

end Document

namespace Json

/-- Whether a value is read from its compact and from its pretty text. -/
def ReadsBack {α : Type} (write : α → Json) (read : Json → Option α) (value : α) : Prop :=
  (parseText? (write value).compactText).bind read = some value
    ∧ (parseText? (write value).prettyText).bind read = some value

theorem readsBack {α : Type} {write : α → Json} {read : Json → Option α} {value : α}
    (free : (write value).literalFree = true) (reads : read (reread 0 (write value)) = some value) :
    ReadsBack write read value := by
  constructor
  · rw [parseText?_compactText free]
    exact reads
  · rw [parseText?_prettyText free]
    exact reads

end Json

/-- Every value of a stored format whose numbers are machine words, its duration two words at most, is
read back from its text. -/
theorem formats_read_back :
    (∀ d : Diagnostic, d.fits = true → ReadsBack Diagnostic.toJson Diagnostic.ofJson? d)
      ∧ (∀ report : UnitReport, report.fits = true →
        ReadsBack UnitReport.toJson UnitReport.ofJson? report)
      ∧ (∀ run : RunReport, run.fits = true → ReadsBack RunReport.toJson RunReport.ofJson? run)
      ∧ (∀ entry : CacheEntry, entry.report.fits = true →
        ReadsBack CacheEntry.toJson CacheEntry.ofJson? entry)
      ∧ (∀ document : Document, document.fits = true →
        ReadsBack Document.toJson Document.ofJson? document)
      ∧ ∀ document : Document, ∀ member ∈ document.report.members,
        member.1 ≠ "metadata" ∧ member.1 ≠ "status" := by
  refine ⟨fun d fits => ?_, fun report fits => ?_, fun run fits => ?_,
    fun entry fits => ?_, fun document fits => ?_, fun document member among => ?_⟩
  · apply readsBack d.literalFree_toJson
    rw [Diagnostic.ofJson?_reread 0 d (by decide), if_pos fits]
  · apply readsBack report.literalFree_toJson
    rw [UnitReport.ofJson?_reread 0 report (by decide), if_pos fits]
  · apply readsBack run.literalFree_toJson
    rw [RunReport.ofJson?_reread run (by decide), if_pos fits]
  · apply readsBack entry.literalFree_toJson
    have whole : entry.fits = true := fits
    rw [CacheEntry.ofJson?_reread 0 entry (by decide), if_pos whole]
  · exact readsBack document.literalFree_toJson (Document.ofJson?_reread fits)
  · exact document.report_names among

namespace Sample

def diagnostic : Diagnostic where
  file := "src/\"ü\".ts"
  line := 18446744073709551615
  column := 1
  code := "TS2339"
  message := "two\nlines"
  snippet := none
  suggestions := some []

def report : UnitReport where
  unit := "packages/a"
  counts := ⟨2, 1, 1⟩
  findings := .ofList [diagnostic]
  fromCache := true
  notes := ["a note"]

def run : RunReport := RunReport.ofUnits [report]

/-- An entry saved in a leap second, at the end of the year 2016. -/
def entry : CacheEntry where
  key := "0123456789abcdef0123456789abcdef"
  unit := "packages/a"
  fingerprint := ""
  report := report
  savedAt := ⟨1483228799, 1500000000⟩

def document : Document where
  circumstances :=
    ⟨"id", "now", "1", "/", 340282366920938463463374607431768211455, "none", true, 1, 1, 1, false⟩
  status := .diagnosticsRemaining
  report := run

end Sample

open Sample in
theorem formats_read_back_sample :
    (diagnostic.fits = true ∧ ReadsBack Diagnostic.toJson Diagnostic.ofJson? diagnostic)
      ∧ (report.fits = true ∧ ReadsBack UnitReport.toJson UnitReport.ofJson? report)
      ∧ (run.fits = true ∧ ReadsBack RunReport.toJson RunReport.ofJson? run)
      ∧ (entry.report.fits = true
        ∧ ReadsBack CacheEntry.toJson CacheEntry.ofJson? entry)
      ∧ (document.fits = true ∧ ReadsBack Document.toJson Document.ofJson? document)
      ∧ ∀ member ∈ document.report.members, member.1 ≠ "metadata" ∧ member.1 ≠ "status" := by
  obtain ⟨diagnostics, reports, runs, entries, documents, names⟩ := formats_read_back
  have small : report.fits = true := by decide
  exact ⟨⟨by decide, diagnostics diagnostic (by decide)⟩, ⟨small, reports report small⟩,
    ⟨by decide, runs run (by decide)⟩, ⟨small, entries entry small⟩,
    ⟨by decide, documents document (by decide)⟩, names document⟩

end MonorepoCheck
