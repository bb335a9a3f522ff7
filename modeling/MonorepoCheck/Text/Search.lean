/-!
Searching, splitting and replacing in lists of characters. Searches run from the left, and
replaced occurrences do not overlap.
-/
namespace MonorepoCheck.Text

/-- What follows `start`, when the text begins with it. -/
def after? : List Char → List Char → Option (List Char)
  | [], text => some text
  | _ :: _, [] => none
  | c :: start, d :: text => if c = d then after? start text else none

/-- Whether `part` stands somewhere in the text. -/
def contains (part : List Char) : List Char → Bool
  | [] => part.isEmpty
  | c :: rest => part.isPrefixOf (c :: rest) || contains part rest

/-- The pieces between occurrences of a separator; always at least one. -/
def splitOn (separator : Char) : List Char → List (List Char)
  | [] => [[]]
  | c :: rest =>
    if c = separator then [] :: splitOn separator rest
    else match splitOn separator rest with
      | [] => [[c]]
      | piece :: more => (c :: piece) :: more

def join (separator : List Char) (pieces : List (List Char)) : List Char :=
  List.intercalate separator pieces

/-- Replaces occurrences of `old`, after `skip` characters that belong to the last one. -/
def replaceFrom (old new : List Char) : Nat → List Char → List Char
  | _, [] => []
  | skip + 1, _ :: rest => replaceFrom old new skip rest
  | 0, c :: rest =>
    if old.isPrefixOf (c :: rest) then new ++ replaceFrom old new (old.length - 1) rest
    else c :: replaceFrom old new 0 rest

/-- Replaces every occurrence of `old`, which is not empty. -/
def replace (old new text : List Char) : List Char := replaceFrom old new 0 text

/-- Drops every leading occurrence of `start`, which is not empty, given enough rounds. -/
def dropLeading (start : List Char) : Nat → List Char → List Char
  | 0, text => text
  | rounds + 1, text =>
    match after? start text with
    | some rest => dropLeading start rounds rest
    | none => text

def joinText (separator : String) (pieces : List String) : String :=
  String.ofList (join separator.toList (pieces.map String.toList))

def replaceText (old new text : String) : String :=
  String.ofList (replace old.toList new.toList text.toList)

def containsText (part text : String) : Bool := contains part.toList text.toList

end MonorepoCheck.Text
