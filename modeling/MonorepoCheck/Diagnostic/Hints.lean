/-!
General advice on common diagnostic codes.
-/
namespace MonorepoCheck

/-- Hints for a code; every code has at least one. -/
def hintsFor (code : String) : List String :=
  match code with
  | "TS2304" =>
    ["Import the missing name or declare it",
     "Install the type definitions that provide it (@types/...)"]
  | "TS2305" | "TS2614" =>
    ["Check the exported names of the module",
     "Switch between default and named import as the module requires"]
  | "TS2307" =>
    ["Install the missing package or fix the import path",
     "Add type declarations for the module (@types/... or a .d.ts file)"]
  | "TS2322" =>
    ["Make the assigned value match the declared type",
     "Widen the declared type if the value is legitimately different"]
  | "TS2339" =>
    ["Add the property to the type or interface",
     "Narrow the type before accessing the property",
     "Use optional chaining if the property may be absent"]
  | "TS2345" =>
    ["Convert the argument to the parameter type",
     "Update the function signature to accept this argument type"]
  | "TS2531" | "TS2532" | "TS18047" | "TS18048" =>
    ["Guard against null or undefined before use",
     "Use optional chaining (?.) or a default value (??)"]
  | "TS2554" =>
    ["Pass the number of arguments the function expects",
     "Make extra parameters optional in the signature"]
  | "TS2741" =>
    ["Provide the missing required property", "Mark the property optional in the type"]
  | "TS2769" => ["Check which overload the call is meant to hit and match its parameter types"]
  | "TS6133" => ["Remove the unused declaration", "Prefix intentionally unused parameters with _"]
  | "TS7006" => ["Add an explicit type annotation to the parameter"]
  | "TS7016" =>
    ["Install the package's type definitions (@types/...)",
     "Add a declare module stub in a .d.ts file"]
  | _ => ["Review the diagnostic message and consult the checker documentation for this code"]

end MonorepoCheck
