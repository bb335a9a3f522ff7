/-!
JSON values. Numbers without fraction and exponent are integers; all others, and `-0`, are kept as
a literal, with `e` for either mark of an exponent and without a plus sign. Texts may hold values
that can be skipped but not looked at: those are `unreadable`.
-/
namespace MonorepoCheck

inductive Json where
  | null
  | bool (value : Bool)
  | integer (value : Int)
  | decimal (literal : List Char)
  | string (text : String)
  | array (items : List Json)
  | object (members : List (String × Json))
  /-- well formed, but nested too deeply, out of range or with half a surrogate pair -/
  | unreadable
  deriving Inhabited, Repr, BEq

namespace Json

mutual

/-- Whether every part of the value can be looked at. -/
def readable (json : Json) : Bool :=
  match json with
  | .array items => readableItems items
  | .object members => readableMembers members
  | .unreadable => false
  | _ => true
termination_by structural json

def readableItems (items : List Json) : Bool :=
  match items with
  | [] => true
  | item :: rest => item.readable && readableItems rest
termination_by structural items

def readableMembers (members : List (String × Json)) : Bool :=
  match members with
  | [] => true
  | (_, value) :: rest => value.readable && readableMembers rest
termination_by structural members

end

/-- The value of a member of an object; of repeated members the last one counts. -/
def get? (json : Json) (key : String) : Option Json :=
  match json with
  | .object members => (members.reverse.find? fun member => member.1 == key).map Prod.snd
  | _ => none

/-- An item of an array. -/
def item? (json : Json) (index : Nat) : Option Json :=
  match json with
  | .array items => items[index]?
  | _ => none

def text? : Json → Option String
  | .string text => some text
  | _ => none

def array? : Json → Option (List Json)
  | .array items => some items
  | _ => none

def ofTexts (texts : List String) : Json := .array (texts.map .string)

end Json
end MonorepoCheck
