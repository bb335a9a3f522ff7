import MonorepoCheck.Binary.Rounding
import MonorepoCheck.Text.Letter

/-!
How far automated fixes may go, and the share of diagnostics that a fix of each level is assumed to
resolve where nothing measures it.
-/
namespace MonorepoCheck

inductive RemedyLevel where
  | none
  | shallow
  | deep
  deriving DecidableEq, Repr, Inhabited

namespace RemedyLevel

def name : RemedyLevel → String
  | none => "none"
  | shallow => "shallow"
  | deep => "deep"

/-- The assumed share in percent. -/
def percent : RemedyLevel → Nat
  | none => 0
  | shallow => 60
  | deep => 80

/-- What the command line calls a level, aliases included. -/
def spellings : List (String × RemedyLevel) :=
  [("none", none), ("shallow", shallow), ("shallow-autofix", shallow), ("deep", deep),
   ("deep-migration", deep)]

def ofSpelling? (ignoreCase : Bool) (text : String) : Option RemedyLevel :=
  (spellings.find? fun entry =>
    if ignoreCase then Text.sameUpToCase entry.1 text else entry.1 == text).map Prod.snd

/-- The level that a stored name stands for. -/
def ofName? (text : String) : Option RemedyLevel :=
  [none, shallow, deep].find? fun level => level.name == text

/-- The share as a fraction of 2 ^ 53: the double-precision number nearest to it. -/
def ratio : RemedyLevel → Nat
  | none => 0
  | shallow => 5404319552844595
  | deep => 7205759403792794

/-- The number of diagnostics assumed fixed: the share of the count in double precision, rounded
down. Counts stay below 2 ^ 64. -/
def estimate (level : RemedyLevel) (count : Nat) : Nat :=
  Binary.roundTo 53 (Binary.roundTo 53 count * level.ratio) / Nat.pow 2 53

end RemedyLevel
end MonorepoCheck
