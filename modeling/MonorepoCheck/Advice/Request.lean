import MonorepoCheck.Advice.Address
import MonorepoCheck.Decimal.Shortest
import MonorepoCheck.Diagnostic.Basic
import MonorepoCheck.Json.Printer
import MonorepoCheck.Settings.Basic

/-!
What a language model is asked about a diagnostic, and how each provider wants to be asked.
-/
namespace MonorepoCheck

/-- A number as JSON writes it: the fewest digits that name it, in scientific notation only far from
one. What is no number is null. -/
def Json.ofFloat (value : Binary.Number) : Json :=
  match Binary.double.convert value with
  | .infinite _ | .undefined _ => .null
  | .finite negative significand exponent =>
    let sign := if negative then ['-'] else []
    if significand = 0 then .decimal (sign ++ "0.0".toList)
    else
      let d := Decimal.shortest Binary.double significand exponent
      let places : Int := (Text.decimal d.digits).length + d.exponent
      .decimal (sign ++ if -5 < places ∧ places ≤ 16 then d.positional else d.scientific)

namespace Advice

/-- What the model is told about its task. -/
def task : String :=
  "You are a senior TypeScript engineer helping fix compiler diagnostics. Given one diagnostic and "
    ++ "the surrounding code, answer with a single concrete fix in one or two sentences. Do not "
    ++ "restate the error. Do not use markdown."

/-- What the model is asked. -/
def prompt (d : Diagnostic) : String :=
  "Diagnostic " ++ d.code ++ " at " ++ d.location ++ ":\n" ++ d.message ++ "\n"
    ++ match d.snippet with
      | some snippet => "\nCode:\n" ++ snippet ++ "\n"
      | none => ""

/-- Why there is no advice. -/
inductive Error where
  | keyMissing (provider : Provider)
  /-- the address or a header cannot be sent -/
  | badRequest
  | unreachable
  /-- the model refused, with this text -/
  | refused (provider : Provider) (text : String)
  /-- the reply is no JSON -/
  | unreadable
  /-- the reply holds no advice -/
  | empty (provider : Provider)
  deriving DecidableEq, Repr, Inhabited

/-- The wording of an error that has one of its own. -/
def Error.message? : Error → Option String
  | keyMissing provider => some (provider.name ++ " API key not provided")
  | refused provider text => some (provider.name ++ " API error: " ++ text)
  | empty provider => some ("Invalid response format from " ++ provider.name)
  | badRequest | unreachable | unreadable => none

structure Request where
  address : String
  /-- headers beside the one that says the body is JSON -/
  headers : List (String × String)
  body : Json
  timeoutSeconds : Nat
  deriving Repr, Inhabited

/-- Whether a text can be the value of a header: it has no control character but the tab. -/
def isHeaderValue (text : String) : Bool :=
  text.toList.all fun c => c == '\t' || (32 ≤ c.toNat && c.toNat != 127)

def Request.isValid (request : Request) : Bool :=
  Address.isWebAddress request.address && request.headers.all fun header => isHeaderValue header.2

def chatMessage (role content : String) : Json :=
  .object [("content", .string content), ("role", .string role)]

/-- What a provider is sent. Members of objects stand in the order of their names. -/
def body (settings : AdviceSettings) (prompt : String) : Json :=
  let temperature := Json.ofFloat settings.temperature
  match settings.provider with
  | .openAI =>
    .object
      [("max_completion_tokens", .integer settings.maxTokens),
       ("messages", .array [chatMessage "system" task, chatMessage "user" prompt]),
       ("model", .string settings.model), ("temperature", temperature)]
  | .ollama =>
    .object
      [("model", .string settings.model),
       ("options",
        .object [("num_predict", .integer settings.maxTokens), ("temperature", temperature)]),
       ("prompt", .string ("System: " ++ task ++ "\n\nUser: " ++ prompt)),
       ("stream", .bool false)]
  | .anthropic =>
    .object
      [("max_tokens", .integer settings.maxTokens),
       ("messages", .array [chatMessage "user" prompt]), ("model", .string settings.model),
       ("system", .string task)]

def address (settings : AdviceSettings) : String :=
  match settings.provider with
  | .openAI => "https://api.openai.com/v1/chat/completions"
  | .ollama => settings.baseUrl.getD "http://localhost:11434" ++ "/api/generate"
  | .anthropic => "https://api.anthropic.com/v1/messages"

/-- The headers that carry the key. -/
def headers (settings : AdviceSettings) : Except Error (List (String × String)) :=
  match settings.provider, settings.apiKey with
  | .openAI, some key => .ok [("authorization", "Bearer " ++ key)]
  | .anthropic, some key => .ok [("x-api-key", key), ("anthropic-version", "2023-06-01")]
  | .ollama, _ => .ok []
  | provider, none => .error (.keyMissing provider)

/-- The request for advice on a diagnostic. -/
def request (settings : AdviceSettings) (d : Diagnostic) : Except Error Request := do
  let request : Request :=
    ⟨address settings, ← headers settings, body settings (prompt d), settings.timeoutSeconds⟩
  if request.isValid then pure request else .error .badRequest

end Advice
end MonorepoCheck
