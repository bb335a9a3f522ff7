import MonorepoCheck.Binary.Float

/-!
TOML values. A document is a table. How a table came about is kept with it, because it decides what
may still be added to the table further down in the document.
-/
namespace MonorepoCheck

/-- How a table came about. -/
inductive TableForm where
  /-- written between braces, complete as it stands -/
  | closed
  /-- by a header of its own -/
  | declared
  /-- by the header of a table below it -/
  | implied
  /-- by a dotted key -/
  | dotted
  deriving DecidableEq, Repr

inductive Toml where
  | string (text : String)
  | integer (value : Int)
  | float (value : Binary.Number)
  | bool (value : Bool)
  /-- a date, a time of day or both; nothing looks at its parts -/
  | moment
  | array (items : List Toml)
  | table (form : TableForm) (members : List (String × Toml))
  /-- an array of tables written by headers, one a header -/
  | tables (rows : List (List (String × Toml)))
  deriving Inhabited

namespace Toml

abbrev Members := List (String × Toml)

def lookup (key : String) (members : Members) : Option Toml :=
  (members.find? fun member => member.1 == key).map Prod.snd

/-- Exchanges the value of a key that is present. -/
def exchange (key : String) (value : Toml) (members : Members) : Members :=
  members.map fun member => if member.1 == key then (key, value) else member

end Toml
end MonorepoCheck
