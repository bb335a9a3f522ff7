import MonorepoCheck.Proofs.Json.Fields
import MonorepoCheck.Report.Stored

/-!
Reports survive being stored: what is read where a report was written is that report, provided its
numbers fit machine words, and else it is none.
-/
namespace MonorepoCheck

open Json

theorem count?_natural (depth n : Nat) :
    count? (reread depth (natural n)) = if fitsWord n then some n else none :=
  count?_reread depth n

namespace Diagnostic

def fits (d : Diagnostic) : Bool := fitsWord d.line && fitsWord d.column

/-- The fields of a stored diagnostic, those that are left out included. -/
def fields (d : Diagnostic) : List (String × Option Json) :=
  [("sourceFile", some (.string d.file)), ("line", some (natural d.line)),
   ("column", some (natural d.column)), ("code", some (.string d.code)),
   ("message", some (.string d.message)), ("codeSnippet", d.snippet.map .string),
   ("suggestions", d.suggestions.map .ofTexts)]

theorem toJson_eq (d : Diagnostic) : d.toJson = .object (present d.fields) := by
  rw [toJson, fields]
  cases d.snippet <;> cases d.suggestions <;> rfl

/-- Whether a field that was left out or not is read as it was. -/
theorem optional_texts (depth : Nat) (texts : Option (List String)) (shallow : depth < depthLimit) :
    Json.optional texts? (texts.map fun texts => reread depth (.ofTexts texts)) = some texts :=
  optional_map (fun texts => texts?_reread texts shallow)
    (fun _ => by simp [reread, ofTexts, atDepth_shallow (Nat.succ_le_of_lt shallow)]) texts

theorem optional_text (depth : Nat) (text : Option String) :
    Json.optional text? (text.map fun text => reread depth (.string text)) = some text :=
  optional_map (fun text => text?_reread depth text) (fun _ => by simp [reread]) text

theorem ofJson?_reread (depth : Nat) (d : Diagnostic) (shallow : depth + 2 ≤ depthLimit) :
    ofJson? (reread depth d.toJson) = if d.fits then some d else none := by
  have distinct : (d.fields.map Prod.fst).Nodup := by
    simp only [fields, List.map_cons, List.map_nil]
    decide
  have found := fields?_reread depth distinct (by omega)
  have suggestions := optional_texts (depth + 1) d.suggestions (by omega)
  rw [show d.fields.map Prod.fst = fieldNames from rfl, ← toJson_eq] at found
  rw [ofJson?, found]
  simp only [fields, List.map_cons, List.map_nil, Option.map_some, Option.map_map,
    Function.comp_def, required, Option.bind_some, Option.bind_eq_bind, text?_reread,
    count?_natural, optional_text, suggestions, fits]
  by_cases line : fitsWord d.line <;> by_cases column : fitsWord d.column <;> simp [line, column]

/-- What holds of every text, of both numbers and of every list of texts holds of every field. -/
theorem forall_fields {d : Diagnostic} {holds : Json → Prop} (text : ∀ text, holds (.string text))
    (line : holds (natural d.line)) (column : holds (natural d.column))
    (texts : ∀ texts, holds (.ofTexts texts)) :
    ∀ field ∈ d.fields, ∀ json ∈ field.2, holds json := by
  simp only [fields, List.mem_cons, List.not_mem_nil, or_false]
  rintro field (rfl | rfl | rfl | rfl | rfl | rfl | rfl) json written <;> simp at written
  case inr.inr.inr.inr.inr.inr =>
    obtain ⟨list, _, rfl⟩ := written
    exact texts list
  case inr.inr.inr.inr.inr.inl =>
    obtain ⟨snippet, _, rfl⟩ := written
    exact text snippet
  case inr.inl => exact written ▸ line
  case inr.inr.inl => exact written ▸ column
  all_goals exact written ▸ text _

theorem literalFree_toJson (d : Diagnostic) : d.toJson.literalFree = true := by
  rw [toJson_eq]
  apply literalFree_present
  exact forall_fields (fun _ => rfl) rfl rfl literalFree_ofTexts

end Diagnostic

namespace Findings

def fits (findings : Findings) : Bool := findings.groups.all fun group => group.2.all Diagnostic.fits

theorem ext {findings others : Findings} (same : findings.groups = others.groups) :
    findings = others := by
  cases findings
  cases others
  cases same
  rfl

theorem modifyGroups_last {file : String} {change : List Diagnostic → List Diagnostic}
    {groups : List (String × List Diagnostic)} (last : ∀ group ∈ groups, group.1 < file) :
    modifyGroups file change groups = groups ++ [(file, change [])] := by
  induction groups with
  | nil => rfl
  | cons group groups ih =>
      have before := last group List.mem_cons_self
      have different : file ≠ group.1 := by
        rintro rfl
        exact String.lt_irrefl _ before
      rw [modifyGroups, if_neg (String.lt_asymm before), if_neg different,
        ih fun group member => last group (List.mem_cons_of_mem _ member)]
      rfl

/-- Groups under rising names stay as they are. -/
theorem ofGroups_rising (findings : Findings) : ofGroups findings.groups = findings := by
  have built (groups : List (String × List Diagnostic)) (start : Findings)
      (rising : RisingKeys (start.groups ++ groups)) :
      (groups.foldl (fun findings group => findings.modify group.1 fun _ => group.2) start).groups
        = start.groups ++ groups := by
    induction groups generalizing start with
    | nil => simp
    | cons group groups ih =>
        have last : ∀ before ∈ start.groups, before.1 < group.1 := fun before member =>
          (List.pairwise_append.mp rising).2.2 before member group List.mem_cons_self
        have added : (start.modify group.1 fun _ => group.2).groups = start.groups ++ [group] :=
          modifyGroups_last last
        rw [List.foldl_cons, ih _ (by rw [added]; simpa using rising), added]
        simp
  have same := built findings.groups empty findings.rising
  exact ext same

theorem ofJson?_reread (depth : Nat) (findings : Findings) (shallow : depth + 4 ≤ depthLimit) :
    ofJson? (reread depth findings.toJson) = if findings.fits then some findings else none := by
  have found (group : String × List Diagnostic) :
      listOf? Diagnostic.ofJson? (reread (depth + 1) (.array (group.2.map Diagnostic.toJson)))
        = if group.2.all Diagnostic.fits then some group.2 else none := by
    have items := mapM_guarded (fun d => reread (depth + 2) d.toJson) Diagnostic.ofJson?
      Diagnostic.fits (fun d => Diagnostic.ofJson?_reread (depth + 2) d shallow) group.2
    rw [reread, atDepth_shallow (by omega), rereadItems_map]
    exact items
  have groups := mapM_guarded
    (fun group : String × List Diagnostic =>
      (group.1, reread (depth + 1) (.array (group.2.map Diagnostic.toJson))))
    (fun member => (listOf? Diagnostic.ofJson? member.2).map fun found => (member.1, found))
    (fun group => group.2.all Diagnostic.fits)
    (fun group => by
      rw [found]
      cases group.2.all Diagnostic.fits <;> rfl) findings.groups
  rw [toJson, reread, atDepth_shallow (by omega), rereadMembers_map, ofJson?, groups, fits]
  cases findings.groups.all fun group => group.2.all Diagnostic.fits
  · rfl
  · exact congrArg some findings.ofGroups_rising

theorem literalFree_toJson (findings : Findings) : findings.toJson.literalFree = true := by
  rw [toJson, literalFree, literalFreeMembers_eq]
  simp [literalFree, literalFreeItems_eq, Diagnostic.literalFree_toJson]

end Findings

namespace Counts

/-- The fields of stored counts. -/
def fields (counts : Counts) : List (String × Option Json) :=
  [("totalErrors", some (natural counts.total)), ("fixedErrors", some (natural counts.fixed)),
   ("remainingErrors", some (natural counts.remaining))]

theorem ofFields?_reread (counts : Counts) (depth : Nat) :
    ofFields? (some (reread depth (natural counts.total)))
        (some (reread depth (natural counts.fixed))) (some (reread depth (natural counts.remaining)))
      = if counts.fits then some counts else none := by
  simp only [ofFields?, required, Option.bind_some, Option.bind_eq_bind, count?_natural, fits]
  by_cases total : fitsWord counts.total <;> by_cases fixed : fitsWord counts.fixed <;>
    by_cases remaining : fitsWord counts.remaining <;> simp [total, fixed, remaining]

theorem forall_fields {counts : Counts} {holds : Json → Prop} (total : holds (natural counts.total))
    (fixed : holds (natural counts.fixed)) (remaining : holds (natural counts.remaining)) :
    ∀ field ∈ counts.fields, ∀ json ∈ field.2, holds json := by
  simp only [fields, List.mem_cons, List.not_mem_nil, or_false]
  rintro field (rfl | rfl | rfl) json written
  · exact Option.some.inj written ▸ total
  · exact Option.some.inj written ▸ fixed
  · exact Option.some.inj written ▸ remaining

end Counts

namespace UnitReport

def fits (report : UnitReport) : Bool := report.counts.fits && report.findings.fits

def fields (report : UnitReport) : List (String × Option Json) :=
  ("unit", some (.string report.unit)) :: report.counts.fields
    ++ [("errorsByFile", some report.findings.toJson), ("fromCache", some (.bool report.fromCache)),
        ("notes", if report.notes.isEmpty then none else some (.ofTexts report.notes))]

theorem toJson_eq (report : UnitReport) : report.toJson = .object (present report.fields) := by
  rw [toJson, fields, noteMembers]
  cases report.notes.isEmpty <;> rfl

theorem ofJson?_reread (depth : Nat) (report : UnitReport) (shallow : depth + 5 ≤ depthLimit) :
    ofJson? (reread depth report.toJson) = if report.fits then some report else none := by
  have distinct : (report.fields.map Prod.fst).Nodup := by
    simp only [fields, Counts.fields, List.map_cons, List.map_nil, List.cons_append,
      List.nil_append]
    decide
  have found := fields?_reread depth distinct (by omega)
  rw [show report.fields.map Prod.fst = fieldNames from rfl, ← toJson_eq] at found
  have notes : Json.orElse [] texts?
      ((if report.notes.isEmpty then none else some (ofTexts report.notes)).map
        (reread (depth + 1))) = some report.notes := by
    cases written : report.notes with
    | nil => rfl
    | cons note notes => exact texts?_reread (note :: notes) (by omega)
  rw [ofJson?, found]
  simp only [fields, Counts.fields, List.cons_append, List.nil_append, List.map_cons, List.map_nil,
    Option.map_some, Option.bind_eq_bind, Option.bind_some]
  rw [notes, Counts.ofFields?_reread]
  simp only [required, Option.bind_some, text?_reread, orElse, bool?_reread,
    Findings.ofJson?_reread (depth + 1) report.findings (by omega), fits]
  by_cases counts : report.counts.fits <;> by_cases findings : report.findings.fits <;>
    simp [counts, findings]

theorem literalFree_toJson (report : UnitReport) : report.toJson.literalFree = true := by
  rw [toJson_eq]
  apply literalFree_present
  simp only [fields, Counts.fields, List.cons_append, List.nil_append, List.mem_cons,
    List.not_mem_nil, or_false]
  rintro field (rfl | rfl | rfl | rfl | rfl | rfl | rfl) json written <;>
    simp [natural] at written
  case inr.inr.inr.inr.inl => exact written ▸ report.findings.literalFree_toJson
  case inr.inr.inr.inr.inr.inr => exact written.2 ▸ literalFree_ofTexts report.notes
  all_goals exact written ▸ rfl

end UnitReport

end MonorepoCheck
