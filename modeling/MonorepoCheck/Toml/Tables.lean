import MonorepoCheck.Toml.Basic

/-!
Building the table of a document from its statements. Each key is set once; a table is declared once
at most; dotted keys add to tables that dotted keys made and to no others.
-/
namespace MonorepoCheck.Toml

/-- One statement of a document. Keys are paths of one name or more. -/
inductive Statement where
  /-- sets a key, below the table of the last header -/
  | assign (path : List String) (value : Toml)
  /-- a header: declares a table and makes it the current one -/
  | table (path : List String)
  /-- a header in double brackets: adds a row to an array of tables, and makes it the current table -/
  | row (path : List String)

/-- What a table at the end of a path becomes, given how it came about. -/
abbrev Change := TableForm → Members → Option Members

/-- Changes the table at the end of a path. Missing tables on the way are made; of an array of
tables the last row is meant. A way of dotted keys leads through no declared table. -/
def alter (dotted : Bool) (change : Change) : List String → TableForm → Members → Option Members
  | [], form, members => change form members
  | key :: path, _, members =>
    match lookup key members with
    | none => do
      let form := if dotted then TableForm.dotted else .implied
      let inner ← alter dotted change path form []
      pure (members ++ [(key, .table form inner)])
    | some (.table form inner) =>
      if form = .closed || (dotted && form == .declared) then none
      else do
        let inner ← alter dotted change path form inner
        pure (exchange key (.table form inner) members)
    | some (.tables rows) =>
      match rows.reverse with
      | [] => none
      | last :: before => do
        let last ← alter dotted change path .declared last
        pure (exchange key (.tables (last :: before).reverse) members)
    | some _ => none

/-- Sets a new key of a table that was reached by dotted keys or not. -/
def setKey (dotted : Bool) (key : String) (value : Toml) : Change := fun form members =>
  if (form == .dotted) != dotted || (lookup key members).isSome then none
  else some (members ++ [(key, value)])

/-- Cuts a path into all but its last name and that name. -/
def cutPath (path : List String) : Option (List String × String) :=
  path.getLast?.map fun key => (path.dropLast, key)

/-- Sets the value at a path of dotted keys below a table. -/
def assign (path : List String) (value : Toml) : Change := fun form members => do
  let (way, key) ← cutPath path
  alter true (setKey (!way.isEmpty) key value) way form members

/-- Declares a table that is not there yet, or only implied. -/
def declareKey (key : String) : Change := fun _ members =>
  match lookup key members with
  | none => some (members ++ [(key, .table .declared [])])
  | some (.table .implied inner) => some (exchange key (.table .declared inner) members)
  | some _ => none

/-- Adds a row to an array of tables that may be new. -/
def addRow (key : String) : Change := fun _ members =>
  match lookup key members with
  | none => some (members ++ [(key, .tables [[]])])
  | some (.tables rows) => some (exchange key (.tables (rows ++ [[]])) members)
  | some _ => none

/-- The document so far, and the path of the current table. -/
structure Draft where
  members : Members
  current : List String

def Draft.add (draft : Draft) : Statement → Option Draft
  | .assign path value => do
    pure { draft with
      members := ← alter false (assign path value) draft.current .declared draft.members }
  | .table path => do
    let (way, key) ← cutPath path
    pure ⟨← alter false (declareKey key) way .declared draft.members, path⟩
  | .row path => do
    let (way, key) ← cutPath path
    pure ⟨← alter false (addRow key) way .declared draft.members, path⟩

/-- The table that the statements of a document build. -/
def ofStatements (statements : List Statement) : Option Toml := do
  let draft ← statements.foldlM Draft.add ⟨[], []⟩
  pure (.table .declared draft.members)

/-- The table that assignments between braces build. -/
def ofAssignments (assignments : List (List String × Toml)) : Option Toml := do
  let members ← assignments.foldlM
    (fun members assignment => assign assignment.1 assignment.2 .closed members) []
  pure (.table .closed members)

end MonorepoCheck.Toml
