import MonorepoCheck.Proofs.Json.Literals

/-!
One way of writing for both printers: a layout says which blanks stand in front of items, members
and closing brackets, and which after a colon. Reading passes over blanks.
-/
namespace MonorepoCheck.Json

structure Layout where
  gap : Nat → List Char
  afterColon : List Char
  gap_blank : ∀ level, (gap level).all isSpace = true
  afterColon_blank : afterColon.all isSpace = true

namespace Layout

/-- Everything on one line without blanks. -/
def dense : Layout where
  gap := fun _ => []
  afterColon := []
  gap_blank := fun _ => rfl
  afterColon_blank := rfl

theorem indentation_blank (level : Nat) : (indentation level).all isSpace = true := by
  rw [indentation, List.all_cons, List.all_replicate]
  split <;> rfl

/-- One item or member a line. -/
def indented : Layout where
  gap := indentation
  afterColon := [' ']
  gap_blank := indentation_blank
  afterColon_blank := rfl

end Layout

section Blanks

variable {blanks text : List Char}

theorem skipSpace_blanks (blank : blanks.all isSpace = true) :
    skipSpace (blanks ++ text) = skipSpace text :=
  List.dropWhile_append_of_pos (List.all_eq_true.mp blank)

theorem skipSpace_solid {c : Char} (solid : isSpace c = false) : skipSpace (c :: text) = c :: text := by
  simp [skipSpace, solid]

theorem readValue_blanks {depth fuel : Nat} (blank : blanks.all isSpace = true) :
    readValue depth fuel (blanks ++ text) = readValue depth fuel text := by
  cases fuel with
  | zero => simp [readValue]
  | succ fuel => rw [readValue, readValue, skipSpace_blanks blank]

end Blanks

variable (layout : Layout)

mutual

/-- A value as a layout writes it. -/
def written (level : Nat) (json : Json) : List Char :=
  match json with
  | .array [] => ['[', ']']
  | .object [] => ['{', '}']
  | .array items => '[' :: writtenItems (level + 1) items ++ layout.gap level ++ [']']
  | .object members => '{' :: writtenMembers (level + 1) members ++ layout.gap level ++ ['}']
  | .null => "null".toList
  | .bool value => if value then "true".toList else "false".toList
  | .integer value => integerText value
  | .decimal literal => literal
  | .string text => quote text
  | .unreadable => "null".toList
termination_by structural json

def writtenItems (level : Nat) (items : List Json) : List Char :=
  match items with
  | [] => []
  | [item] => layout.gap level ++ written level item
  | item :: rest => layout.gap level ++ written level item ++ ',' :: writtenItems level rest
termination_by structural items

def writtenMembers (level : Nat) (members : List (String × Json)) : List Char :=
  match members with
  | [] => []
  | [(key, value)] =>
    layout.gap level ++ quote key ++ ':' :: layout.afterColon ++ written level value
  | (key, value) :: rest =>
    layout.gap level ++ quote key ++ ':' :: layout.afterColon ++ written level value
      ++ ',' :: writtenMembers level rest
termination_by structural members

end

mutual

theorem prettyAt_eq_written (level : Nat) (json : Json) :
    prettyAt level json = written .indented level json := by
  match json with
  | .array [] | .object [] => simp [prettyAt, written]
  | .array (item :: rest) =>
    simp only [prettyAt, written, prettyItems_eq_written (level + 1) (item :: rest)]
    rfl
  | .object (member :: rest) =>
    simp only [prettyAt, written, prettyMembers_eq_written (level + 1) (member :: rest)]
    rfl
  | .null | .bool _ | .integer _ | .decimal _ | .string _ | .unreadable => rfl
termination_by structural json

theorem prettyItems_eq_written (level : Nat) (items : List Json) :
    prettyItems level items = writtenItems .indented level items := by
  match items with
  | [] => rfl
  | [item] => simp only [prettyItems, writtenItems, prettyAt_eq_written level item]; rfl
  | item :: second :: rest =>
    simp only [prettyItems, writtenItems, prettyAt_eq_written level item,
      prettyItems_eq_written level (second :: rest)]
    rfl
termination_by structural items

theorem prettyMembers_eq_written (level : Nat) (members : List (String × Json)) :
    prettyMembers level members = writtenMembers .indented level members := by
  match members with
  | [] => rfl
  | [(key, value)] =>
    simp only [prettyMembers, writtenMembers, prettyAt_eq_written level value]
    simp [Layout.indented]
  | (key, value) :: second :: rest =>
    simp only [prettyMembers, writtenMembers, prettyAt_eq_written level value,
      prettyMembers_eq_written level (second :: rest)]
    simp [Layout.indented]
termination_by structural members

end

mutual

theorem compact_eq_written (level : Nat) (json : Json) :
    json.compact = written .dense level json := by
  match json with
  | .array [] | .object [] => rfl
  | .array (item :: rest) =>
    simp only [compact, written, compactItems_eq_written (level + 1) (item :: rest)]
    simp [Layout.dense]
  | .object (member :: rest) =>
    simp only [compact, written, compactMembers_eq_written (level + 1) (member :: rest)]
    simp [Layout.dense]
  | .null | .bool _ | .integer _ | .decimal _ | .string _ | .unreadable => rfl
termination_by structural json

theorem compactItems_eq_written (level : Nat) (items : List Json) :
    compactItems items = writtenItems .dense level items := by
  match items with
  | [] => rfl
  | [item] => simp only [compactItems, writtenItems, compact_eq_written level item]; rfl
  | item :: second :: rest =>
    simp only [compactItems, writtenItems, compact_eq_written level item,
      compactItems_eq_written level (second :: rest)]
    rfl
termination_by structural items

theorem compactMembers_eq_written (level : Nat) (members : List (String × Json)) :
    compactMembers members = writtenMembers .dense level members := by
  match members with
  | [] => rfl
  | [(key, value)] =>
    simp only [compactMembers, writtenMembers, compact_eq_written level value]
    simp [Layout.dense]
  | (key, value) :: second :: rest =>
    simp only [compactMembers, writtenMembers, compact_eq_written level value,
      compactMembers_eq_written level (second :: rest)]
    simp [Layout.dense]
termination_by structural members

end

end MonorepoCheck.Json
