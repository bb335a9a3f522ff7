import MonorepoCheck.Advice.Request
import MonorepoCheck.Json.Reader
import MonorepoCheck.Report.Run

/-!
Advice from a language model on the diagnostics of a run. Each answer is added to the suggestions of
its diagnostic; a diagnostic without an answer stays as it is.
-/
namespace MonorepoCheck.Advice

/-- What comes back for a request. -/
inductive Reply where
  | unreachable
  | answered (status : Nat) (text : String)
  deriving DecidableEq, Repr, Inhabited

/-- Somebody who answers requests; `σ` is what answering looks at and changes. -/
abbrev Model (σ : Type) := Request → σ → Reply × σ

/-- Where a provider puts the advice. -/
def content? (provider : Provider) (answer : Json) : Option String :=
  match provider with
  | .openAI => do
    let choice ← (← answer.get? "choices").item? 0
    (← (← choice.get? "message").get? "content").text?
  | .ollama => do (← answer.get? "response").text?
  | .anthropic => do (← (← (← answer.get? "content").item? 0).get? "text").text?

/-- The advice in a reply, without blanks around it. -/
def advice (provider : Provider) : Reply → Except Error String
  | .unreachable => .error .unreachable
  | .answered status text =>
    if status < 200 ∨ 300 ≤ status then .error (.refused provider text)
    else
      match Json.parseText? text with
      | none => .error .unreadable
      | some answer =>
        if !answer.readable then .error .unreadable
        else
          match content? provider answer with
          | some content => .ok (String.ofList (Text.trim content.toList))
          | none => .error (.empty provider)

/-- Asks for advice on one diagnostic. -/
def suggest (settings : AdviceSettings) (model : Model σ) (d : Diagnostic) (state : σ) :
    Except Error String × σ :=
  match request settings d with
  | .error error => (.error error, state)
  | .ok request =>
    let (reply, state) := model request state
    (advice settings.provider reply, state)

/-- What tells the advice of a model from other suggestions. -/
def mark : String := "AI: "

def addSuggestion (d : Diagnostic) (text : String) : Diagnostic :=
  { d with suggestions := some (d.suggestions.getD [] ++ [mark ++ text]) }

/-- What enriching has done so far: how many diagnostics may still be asked about, how many got
advice, and the state of the model. -/
structure Progress (σ : Type) where
  left : Nat
  enriched : Nat
  state : σ

/-- Asks about one diagnostic while that is allowed. -/
def enrichOne (settings : AdviceSettings) (model : Model σ) (progress : Progress σ)
    (d : Diagnostic) : Diagnostic × Progress σ :=
  match progress.left with
  | 0 => (d, progress)
  | left + 1 =>
    match suggest settings model d progress.state with
    | (.ok text, state) =>
      if text.isEmpty then (d, ⟨left, progress.enriched, state⟩)
      else (addSuggestion d text, ⟨left, progress.enriched + 1, state⟩)
    | (.error _, state) => (d, ⟨left, progress.enriched, state⟩)

def enrichList (settings : AdviceSettings) (model : Model σ) :
    Progress σ → List Diagnostic → List Diagnostic × Progress σ
  | progress, [] => ([], progress)
  | progress, d :: rest =>
    let (d, progress) := enrichOne settings model progress d
    let (rest, progress) := enrichList settings model progress rest
    (d :: rest, progress)

def enrichGroups (settings : AdviceSettings) (model : Model σ) :
    Progress σ → List (String × List Diagnostic) → List (String × List Diagnostic) × Progress σ
  | progress, [] => ([], progress)
  | progress, (file, found) :: rest =>
    let (found, progress) := enrichList settings model progress found
    let (rest, progress) := enrichGroups settings model progress rest
    ((file, found) :: rest, progress)

theorem keys_enrichGroups (settings : AdviceSettings) (model : Model σ) (progress : Progress σ)
    (groups : List (String × List Diagnostic)) :
    (enrichGroups settings model progress groups).1.map Prod.fst = groups.map Prod.fst := by
  induction groups generalizing progress with
  | nil => rfl
  | cons group rest ih => simp [enrichGroups, ih]

theorem rising_enrichGroups (settings : AdviceSettings) (model : Model σ)
    (progress : Progress σ) {groups : List (String × List Diagnostic)}
    (rising : RisingKeys groups) :
    RisingKeys (enrichGroups settings model progress groups).1 := by
  have keys : (groups.map Prod.fst).Pairwise (· < ·) := List.pairwise_map.2 rising
  rw [← keys_enrichGroups settings model progress groups] at keys
  exact List.pairwise_map.1 keys

/-- Asks about the diagnostics of a run, file by file, up to as many as the settings allow. -/
def enrich (settings : AdviceSettings) (model : Model σ) (run : RunReport) (state : σ) :
    RunReport × Nat × σ :=
  let start : Progress σ := ⟨settings.maxSuggestions, 0, state⟩
  let done := enrichGroups settings model start run.findings.groups
  ({ run with
      findings := ⟨done.1, rising_enrichGroups settings model start run.findings.rising⟩ },
    done.2.enriched, done.2.state)

end MonorepoCheck.Advice
