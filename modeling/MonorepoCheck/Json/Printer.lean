import MonorepoCheck.Json.Basic
import MonorepoCheck.Text.Digit

/-!
JSON text: `Json.compact` on one line without blanks, `Json.pretty` with two blanks of indentation
per level and one member or item a line.
-/
namespace MonorepoCheck.Json

/-- One character inside a string literal. Control characters are written as escapes, the rest as
itself. -/
def escapeChar (c : Char) : List Char :=
  if c = '"' then ['\\', '"']
  else if c = '\\' then ['\\', '\\']
  else if c = '\n' then ['\\', 'n']
  else if c = '\r' then ['\\', 'r']
  else if c = '\t' then ['\\', 't']
  else if c.toNat = 8 then ['\\', 'b']
  else if c.toNat = 12 then ['\\', 'f']
  else if c.toNat < 32 then
    ['\\', 'u', '0', '0', Text.lowerHexDigit (c.toNat / 16), Text.lowerHexDigit c.toNat]
  else [c]

def quote (text : String) : List Char := '"' :: text.toList.flatMap escapeChar ++ ['"']

def integerText (n : Int) : List Char :=
  if n < 0 then '-' :: Text.decimal n.natAbs else Text.decimal n.natAbs

mutual

def compact (json : Json) : List Char :=
  match json with
  | .null => "null".toList
  | .bool value => if value then "true".toList else "false".toList
  | .integer value => integerText value
  | .decimal literal => literal
  | .string text => quote text
  | .array items => '[' :: compactItems items ++ [']']
  | .object members => '{' :: compactMembers members ++ ['}']
  | .unreadable => "null".toList
termination_by structural json

def compactItems (items : List Json) : List Char :=
  match items with
  | [] => []
  | [item] => compact item
  | item :: rest => compact item ++ ',' :: compactItems rest
termination_by structural items

def compactMembers (members : List (String × Json)) : List Char :=
  match members with
  | [] => []
  | [(key, value)] => quote key ++ ':' :: compact value
  | (key, value) :: rest => quote key ++ ':' :: compact value ++ ',' :: compactMembers rest
termination_by structural members

end

def indentation (level : Nat) : List Char := '\n' :: List.replicate (2 * level) ' '

mutual

def prettyAt (level : Nat) (json : Json) : List Char :=
  match json with
  | .array [] => ['[', ']']
  | .object [] => ['{', '}']
  | .array items => '[' :: prettyItems (level + 1) items ++ indentation level ++ [']']
  | .object members => '{' :: prettyMembers (level + 1) members ++ indentation level ++ ['}']
  | .null => "null".toList
  | .bool value => if value then "true".toList else "false".toList
  | .integer value => integerText value
  | .decimal literal => literal
  | .string text => quote text
  | .unreadable => "null".toList
termination_by structural json

def prettyItems (level : Nat) (items : List Json) : List Char :=
  match items with
  | [] => []
  | [item] => indentation level ++ prettyAt level item
  | item :: rest => indentation level ++ prettyAt level item ++ ',' :: prettyItems level rest
termination_by structural items

def prettyMembers (level : Nat) (members : List (String × Json)) : List Char :=
  match members with
  | [] => []
  | [(key, value)] => indentation level ++ quote key ++ ':' :: ' ' :: prettyAt level value
  | (key, value) :: rest =>
    indentation level ++ quote key ++ ':' :: ' ' :: prettyAt level value
      ++ ',' :: prettyMembers level rest
termination_by structural members

end

def pretty (json : Json) : List Char := prettyAt 0 json

def compactText (json : Json) : String := String.ofList json.compact

def prettyText (json : Json) : String := String.ofList json.pretty

end MonorepoCheck.Json
