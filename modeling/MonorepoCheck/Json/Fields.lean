import MonorepoCheck.Json.Basic

/-!
Reading values of known shape out of JSON. A record is written as an object, or as an array of its
fields in order. Members of other names are passed over, a field written twice is refused, and so
is an array with more items than the record has fields.
-/
namespace MonorepoCheck.Json

/-- The fields of a record, in the order of `names`, as far as they are written. -/
def fields? (names : List String) : Json → Option (List (Option Json))
  | .object members =>
    names.mapM fun name =>
      match members.filter fun member => member.1 == name with
      | [] => some none
      | [member] => some (some member.2)
      | _ => none
  | .array items =>
    if names.length < items.length then none
    else some (items.map some ++ List.replicate (names.length - items.length) none)
  | _ => none

/-- A field that has to be written. -/
def required (read : Json → Option α) (field : Option Json) : Option α := field.bind read

/-- A field with a value of its own when it is not written. -/
def orElse (absent : α) (read : Json → Option α) : Option Json → Option α
  | none => some absent
  | some json => read json

/-- A field that may be left out or be null. -/
def optional (read : Json → Option α) : Option Json → Option (Option α)
  | none | some .null => some none
  | some json => (read json).map some

/-- A number below `limit`. -/
def naturalBelow? (limit : Nat) : Json → Option Nat
  | .integer value => if 0 ≤ value ∧ value < limit then some value.toNat else none
  | _ => none

/-- A count that fits a machine word. -/
def count? : Json → Option Nat := naturalBelow? (Nat.pow 2 64)

def bool? : Json → Option Bool
  | .bool value => some value
  | _ => none

def listOf? (read : Json → Option α) (json : Json) : Option (List α) := do
  (← json.array?).mapM read

def texts? : Json → Option (List String) := listOf? text?

/-- A named constant: its name, or an object with null under that name. -/
def constant? (ofName : String → Option α) : Json → Option α
  | .string name => ofName name
  | .object [(name, .null)] => ofName name
  | _ => none

end MonorepoCheck.Json
