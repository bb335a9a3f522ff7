import Mathlib.Data.List.Forall2
import MonorepoCheck.Advice.Enrich
import MonorepoCheck.Proofs.Diagnostic.CheckerLine
import MonorepoCheck.Proofs.Report.Stored

/-!
What asking for advice does to the report on a run. A model that keeps a list of what it was asked shows
which requests were made, and in which order; whatever it answers, suggestions are added and nothing else
is changed.
-/
namespace MonorepoCheck

namespace Text

/-- A text with something in it and without blanks around it. -/
structure Solid (text : List Char) : Prop where
  present : text ≠ []
  first : ∀ c, text.head? = some c → isBlank c = false
  last : ∀ c, text.getLast? = some c → isBlank c = false

theorem solid_trim {text : List Char} (present : trim text ≠ []) : Solid (trim text) := by
  obtain ⟨dropped, split, -, stops⟩ := dropEndWhile_spec isBlank (trimStart text)
  refine ⟨present, ?_, stops⟩
  intro c starts
  obtain ⟨rest, begins⟩ := List.head?_eq_some_iff.mp starts
  have kept := List.head?_dropWhile_not isBlank text
  rw [show text.dropWhile isBlank = trim text ++ dropped from split, begins] at kept
  simpa using kept

end Text

namespace Advice

variable {σ : Type} {settings : AdviceSettings} {model : Model σ} {d : Diagnostic}

/-- A diagnostic to which advice was added, after the suggestions that it had. -/
def Grows (before after : Diagnostic) : Prop :=
  ∃ text : String, Text.Solid text.toList
    ∧ after = { before with suggestions := some (before.suggestions.getD [] ++ [mark ++ text]) }

/-- The advice that a reply holds, if it says anything. -/
def gained? (settings : AdviceSettings) (reply : Reply) : Option String :=
  match advice settings.provider reply with
  | .ok text => if text.isEmpty then none else some text
  | .error _ => none

/-- A diagnostic after the reply to what was asked about it. -/
def answered (settings : AdviceSettings) (d : Diagnostic) (reply : Reply) : Diagnostic :=
  match gained? settings reply with
  | some text => addSuggestion d text
  | none => d

theorem addSuggestion_ne (d : Diagnostic) (text : String) : d ≠ addSuggestion d text := by
  intro same
  have longer := congrArg (fun d : Diagnostic => (d.suggestions.getD []).length) same
  simp [addSuggestion] at longer

theorem advice_trimmed {provider : Provider} {reply : Reply} {text : String}
    (gave : advice provider reply = .ok text) :
    ∃ content : List Char, text = String.ofList (Text.trim content) := by
  cases reply with
  | unreachable => cases gave
  | answered status body =>
      rw [advice] at gave
      split at gave
      · cases gave
      · split at gave
        · cases gave
        · split at gave
          · cases gave
          · split at gave
            · exact ⟨_, (Except.ok.inj gave).symm⟩
            · cases gave

theorem gained?_solid {reply : Reply} {text : String} (gained : gained? settings reply = some text) :
    Text.Solid text.toList := by
  rw [gained?] at gained
  split at gained
  · rename_i given gave
    split at gained
    · cases gained
    · rename_i present
      obtain rfl := Option.some.inj gained
      obtain ⟨content, rfl⟩ := advice_trimmed gave
      rw [String.toList_ofList]
      apply Text.solid_trim
      intro nothing
      exact present (by rw [nothing]; rfl)
  · cases gained

theorem answered_grows (d : Diagnostic) (reply : Reply) :
    answered settings d reply = d ∨ Grows d (answered settings d reply) := by
  rw [answered]
  cases gained : gained? settings reply with
  | none => exact .inl rfl
  | some text => exact .inr ⟨text, gained?_solid gained, rfl⟩

section One

variable {left number : Nat} {state : σ}

theorem enrichOne_refused {error : Error} (refused : request settings d = .error error) :
    enrichOne settings model ⟨left + 1, number, state⟩ d = (d, ⟨left, number, state⟩) := by
  simp only [enrichOne, suggest, refused]

theorem enrichOne_replied {asked : Request} (asks : request settings d = .ok asked) :
    enrichOne settings model ⟨left + 1, number, state⟩ d
      = match gained? settings (model asked state).1 with
        | some text => (addSuggestion d text, ⟨left, number + 1, (model asked state).2⟩)
        | none => (d, ⟨left, number, (model asked state).2⟩) := by
  simp only [enrichOne, suggest, asks, gained?]
  cases advice settings.provider (model asked state).1 with
  | error error => rfl
  | ok text => cases silent : text.isEmpty <;> simp [silent]

/-- A diagnostic that the model is asked about. -/
theorem enrichOne_asked {asked : Request} (asks : request settings d = .ok asked) :
    enrichOne settings model ⟨left + 1, number, state⟩ d
      = (answered settings d (model asked state).1,
          ⟨left, number + (if answered settings d (model asked state).1 = d then 0 else 1),
            (model asked state).2⟩) := by
  rw [enrichOne_replied asks]
  rcases Option.eq_none_or_eq_some (gained? settings (model asked state).1) with gained | ⟨text, gained⟩
  · simp [answered, gained]
  · simp [answered, gained, (addSuggestion_ne d text).symm]

end One

/-- A model that keeps a list of what it was asked and what it replied. -/
def recording (model : Model σ) : Model (σ × List (Request × Reply)) := fun request state =>
  let (reply, next) := model request state.1
  (reply, next, state.2 ++ [(request, reply)])

/-- The same progress with such a list. -/
def Progress.recorded (progress : Progress σ) (log : List (Request × Reply)) :
    Progress (σ × List (Request × Reply)) :=
  ⟨progress.left, progress.enriched, progress.state, log⟩

/-- How many diagnostics are not what they were. -/
def grown (before after : List Diagnostic) : Nat :=
  (before.zip after).countP fun pair => decide (pair.2 ≠ pair.1)

/-- How diagnostics are gone through, by how many the model may still be asked about and by what it was
asked and replied. -/
inductive Course (settings : AdviceSettings) :
    Nat → List Diagnostic → List Diagnostic → List (Request × Reply) → Prop where
  | finished (left : Nat) : Course settings left [] [] []
  | spent (rest : List Diagnostic) : Course settings 0 rest rest []
  | refused {left : Nat} {d : Diagnostic} {error : Error} {before after : List Diagnostic}
      {log : List (Request × Reply)} (refused : request settings d = .error error)
      (rest : Course settings left before after log) :
      Course settings (left + 1) (d :: before) (d :: after) log
  | asked {left : Nat} {d : Diagnostic} {asked : Request} {before after : List Diagnostic}
      {log : List (Request × Reply)} (asks : request settings d = .ok asked) (reply : Reply)
      (rest : Course settings left before after log) :
      Course settings (left + 1) (d :: before) (answered settings d reply :: after)
        ((asked, reply) :: log)

namespace Course

variable {left : Nat} {before after more moreAfter : List Diagnostic}
  {log moreLog : List (Request × Reply)}

theorem grows (course : Course settings left before after log) :
    List.Forall₂ (fun d later => later = d ∨ Grows d later) before after := by
  induction course with
  | finished => exact .nil
  | spent rest =>
      induction rest with
      | nil => exact .nil
      | cons d rest ih => exact .cons (.inl rfl) ih
  | refused _ _ ih => exact .cons (.inl rfl) ih
  | asked _ reply _ ih => exact .cons (answered_grows _ reply) ih

/-- Diagnostics that there is no time for are left alone. -/
theorem beyond (course : Course settings left before after log) :
    after.drop left = before.drop left := by
  induction course with
  | finished => rfl
  | spent => rfl
  | refused _ _ ih => exact ih
  | asked _ _ _ ih => exact ih

/-- Each of the first diagnostics is asked about at most once, in their order. -/
theorem requests (course : Course settings left before after log) :
    log.map Prod.fst = (before.take left).filterMap fun d => (request settings d).toOption := by
  induction course with
  | finished => simp
  | spent => simp
  | refused refused _ ih => simp [ih, refused, Except.toOption]
  | asked asks _ _ ih => simp [ih, asks, Except.toOption]

theorem append (first : Course settings left before after log)
    (second : Course settings (left - before.length) more moreAfter moreLog) :
    Course settings left (before ++ more) (after ++ moreAfter) (log ++ moreLog) := by
  induction first with
  | finished => exact second
  | spent rest =>
      rw [Nat.zero_sub] at second
      cases second with
      | finished => exact .spent _
      | spent => exact .spent _
  | refused refused _ ih =>
      rw [List.length_cons, Nat.add_sub_add_right] at second
      exact .refused refused (ih second)
  | asked asks reply _ ih =>
      rw [List.length_cons, Nat.add_sub_add_right] at second
      exact .asked asks reply (ih second)

end Course

theorem grown_append {before after : List Diagnostic} (same : before.length = after.length)
    (more moreAfter : List Diagnostic) :
    grown (before ++ more) (after ++ moreAfter) = grown before after + grown more moreAfter := by
  rw [grown, grown, grown, List.zip_append same, List.countP_append]

/-- What going through diagnostics comes to. -/
structure Follows (settings : AdviceSettings) (start : Progress σ) (before after : List Diagnostic)
    (finish : Progress σ) (log : List (Request × Reply)) : Prop where
  course : Course settings start.left before after log
  left : finish.left = start.left - before.length
  number : finish.enriched = start.enriched + grown before after

theorem Follows.append {start middle finish : Progress σ}
    {before after more moreAfter : List Diagnostic} {log moreLog : List (Request × Reply)}
    (first : Follows settings start before after middle log)
    (second : Follows settings middle more moreAfter finish moreLog) :
    Follows settings start (before ++ more) (after ++ moreAfter) finish (log ++ moreLog) := by
  have course := second.course
  rw [first.left] at course
  constructor
  case course => exact first.course.append course
  case left => rw [second.left, first.left, List.length_append, Nat.sub_sub]
  case number =>
      rw [second.number, first.number, grown_append first.course.grows.length_eq, Nat.add_assoc]

/-- One diagnostic, and what the recording model has seen of it. -/
theorem enrichOne_follows (settings : AdviceSettings) (model : Model σ) (start : Progress σ)
    (d : Diagnostic) : ∃ log,
      Follows settings start [d] [(enrichOne settings model start d).1]
          (enrichOne settings model start d).2 log
        ∧ ∀ earlier, enrichOne settings (recording model) (start.recorded earlier) d
          = ((enrichOne settings model start d).1,
              (enrichOne settings model start d).2.recorded (earlier ++ log)) := by
  obtain ⟨left, number, state⟩ := start
  cases left with
  | zero =>
      refine ⟨[], ⟨.spent [d], rfl, by simp [grown, enrichOne]⟩, ?_⟩
      intro earlier
      rw [List.append_nil]
      rfl
  | succ left =>
      cases asks : request settings d with
      | error error =>
          rw [enrichOne_refused asks]
          refine ⟨[], ⟨.refused asks (.finished left), rfl, by simp [grown]⟩, ?_⟩
          intro earlier
          rw [List.append_nil]
          exact enrichOne_refused asks
      | ok asked =>
          rw [enrichOne_asked asks]
          refine ⟨[(asked, (model asked state).1)], ⟨.asked asks _ (.finished left), rfl, ?_⟩, ?_⟩
          · by_cases same : answered settings d (model asked state).1 = d <;> simp [grown, same]
          · exact fun earlier => enrichOne_asked asks

theorem enrichList_follows (settings : AdviceSettings) (model : Model σ) (start : Progress σ)
    (before : List Diagnostic) : ∃ log,
      Follows settings start before (enrichList settings model start before).1
          (enrichList settings model start before).2 log
        ∧ ∀ earlier, enrichList settings (recording model) (start.recorded earlier) before
          = ((enrichList settings model start before).1,
              (enrichList settings model start before).2.recorded (earlier ++ log)) := by
  induction before generalizing start with
  | nil =>
      refine ⟨[], ⟨.finished _, rfl, rfl⟩, ?_⟩
      intro earlier
      rw [List.append_nil]
      rfl
  | cons d rest ih =>
      obtain ⟨here, first, firstRecorded⟩ := enrichOne_follows settings model start d
      obtain ⟨later, second, secondRecorded⟩ := ih (enrichOne settings model start d).2
      refine ⟨here ++ later, first.append second, ?_⟩
      intro earlier
      simp only [enrichList, firstRecorded, secondRecorded, List.append_assoc]

/-- The lists of one file, before and after. -/
def SameFile (group later : String × List Diagnostic) : Prop :=
  later.1 = group.1 ∧ List.Forall₂ (fun d next => next = d ∨ Grows d next) group.2 later.2

theorem enrichGroups_follows (settings : AdviceSettings) (model : Model σ) (start : Progress σ)
    (groups : List (String × List Diagnostic)) : ∃ log,
      Follows settings start (groups.flatMap Prod.snd)
          ((enrichGroups settings model start groups).1.flatMap Prod.snd)
          (enrichGroups settings model start groups).2 log
        ∧ List.Forall₂ SameFile groups (enrichGroups settings model start groups).1
        ∧ ∀ earlier, enrichGroups settings (recording model) (start.recorded earlier) groups
          = ((enrichGroups settings model start groups).1,
              (enrichGroups settings model start groups).2.recorded (earlier ++ log)) := by
  induction groups generalizing start with
  | nil =>
      refine ⟨[], ⟨.finished _, rfl, rfl⟩, .nil, ?_⟩
      intro earlier
      rw [List.append_nil]
      rfl
  | cons group rest ih =>
      obtain ⟨file, found⟩ := group
      obtain ⟨here, first, firstRecorded⟩ := enrichList_follows settings model start found
      obtain ⟨later, second, files, secondRecorded⟩ := ih (enrichList settings model start found).2
      refine ⟨here ++ later, first.append second, .cons ⟨rfl, first.course.grows⟩ files, ?_⟩
      intro earlier
      simp only [enrichGroups, firstRecorded, secondRecorded, List.append_assoc]

/-- Without a key that the provider wants, there is nothing to ask. -/
theorem request_keyless (wants : settings.provider ≠ .ollama) (keyless : settings.apiKey = none)
    (d : Diagnostic) : request settings d = .error (.keyMissing settings.provider) := by
  have missing : headers settings = .error (.keyMissing settings.provider) := by
    rw [headers, keyless]
    cases provider : settings.provider with
    | ollama => exact absurd provider wants
    | openAI => rfl
    | anthropic => rfl
  rw [request, missing]
  rfl

/-- A report to which advice was added. The log holds what the model was asked and what it replied. -/
structure Enriches (settings : AdviceSettings) (before after : RunReport) (number : Nat)
    (log : List (Request × Reply)) : Prop where
  counts : after.counts = before.counts
  units : after.units = before.units
  notes : after.notes = before.notes
  files : List.Forall₂ SameFile before.findings.groups after.findings.groups
  beyond : after.findings.toList.drop settings.maxSuggestions
    = before.findings.toList.drop settings.maxSuggestions
  course : Course settings settings.maxSuggestions before.findings.toList after.findings.toList log
  number : number = grown before.findings.toList after.findings.toList
  requests : log.map Prod.fst = (before.findings.toList.take settings.maxSuggestions).filterMap
    fun d => (request settings d).toOption
  few : log.length ≤ settings.maxSuggestions
  keyless : settings.provider ≠ .ollama → settings.apiKey = none → log = []

/-- Advice is only ever added, and a model that keeps a list of what it is asked gives the same. -/
theorem enrich_enriches (settings : AdviceSettings) (model : Model σ) (report : RunReport)
    (state : σ) : ∃ log,
      Enriches settings report (enrich settings model report state).1
          (enrich settings model report state).2.1 log
        ∧ enrich settings (recording model) report (state, [])
          = ((enrich settings model report state).1, (enrich settings model report state).2.1,
              (enrich settings model report state).2.2, log) := by
  obtain ⟨log, follows, files, recorded⟩ :=
    enrichGroups_follows settings model ⟨settings.maxSuggestions, 0, state⟩ report.findings.groups
  have course : Course settings settings.maxSuggestions report.findings.toList
      (enrich settings model report state).1.findings.toList log := follows.course
  have number := follows.number
  rw [Nat.zero_add] at number
  refine ⟨log, ?_, ?_⟩
  · constructor
    case counts => rfl
    case units => rfl
    case notes => rfl
    case files => exact files
    case beyond => exact course.beyond
    case course => exact course
    case number => exact number
    case requests => exact course.requests
    case few =>
        have asked := congrArg List.length course.requests
        rw [List.length_map] at asked
        rw [asked]
        exact Nat.le_trans (List.length_filterMap_le _ _) (List.length_take_le _ _)
    case keyless =>
        intro wants keyless
        have asked := course.requests
        simp only [request_keyless wants keyless, Except.toOption] at asked
        exact List.map_eq_nil_iff.mp (asked.trans (by simp))
  · have same := recorded []
    rw [List.nil_append] at same
    have findings : (enrich settings (recording model) report (state, [])).1
        = (enrich settings model report state).1 := by
      simp only [enrich, RunReport.mk.injEq, true_and, and_true]
      exact Findings.ext (congrArg Prod.fst same)
    have rest := congrArg (fun result => (result.2.enriched, result.2.state)) same
    exact Prod.ext findings rest

end Advice
end MonorepoCheck
