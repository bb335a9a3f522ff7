import MonorepoCheck.Toml.Basic

/-!
Reading values of known shape out of TOML. A record is written as a table, or as an array of its
fields in order. Other keys and further items are passed over. A moment stands for a record none of
whose fields is written.
-/
namespace MonorepoCheck.Toml

/-- The items of an array, of tables or of other values. -/
def items? : Toml → Option (List Toml)
  | .array items => some items
  | .tables rows => some (rows.map (.table .declared))
  | _ => none

/-- The fields of a record, in the order of `names`, as far as they are written. -/
def fields? (names : List String) (value : Toml) : Option (List (Option Toml)) :=
  match value with
  | .table _ members => some (names.map fun name => lookup name members)
  | .moment => some (names.map fun _ => none)
  | value => value.items?.map fun items => names.zipIdx.map fun (_, index) => items[index]?

/-- A field that has to be written. -/
def required (read : Toml → Option α) (field : Option Toml) : Option α := field.bind read

/-- A field with a value of its own when it is not written. -/
def orElse (absent : α) (read : Toml → Option α) : Option Toml → Option α
  | none => some absent
  | some value => read value

/-- A field that may be left out. -/
def optional (read : Toml → Option α) : Option Toml → Option (Option α)
  | none => some none
  | some value => (read value).map some

def text? : Toml → Option String
  | .string text => some text
  | _ => none

def bool? : Toml → Option Bool
  | .bool value => some value
  | _ => none

def count? : Toml → Option Nat
  | .integer value => if 0 ≤ value then some value.toNat else none
  | _ => none

def listOf? (read : Toml → Option α) (value : Toml) : Option (List α) := do
  (← value.items?).mapM read

def texts? : Toml → Option (List String) := listOf? text?

/-- A number in single precision. -/
def single? : Toml → Option Binary.Number
  | .float value => some (Binary.single.convert value)
  | .integer value => some (Binary.single.ofInt value)
  | _ => none

def isVoid (value : Toml) : Bool :=
  match value with
  | .table _ members => members.isEmpty
  | value => (value.items?.map List.isEmpty).getD false

/-- A named constant: its name, or a table with nothing under that name. -/
def constant? (ofName : String → Option α) : Toml → Option α
  | .string name => ofName name
  | .table _ [(name, value)] => if value.isVoid then ofName name else none
  | _ => none

end MonorepoCheck.Toml
