import MonorepoCheck.Text.Bytes
import MonorepoCheck.Text.Digit

/-!
Shell scripts: commands with their words, and the ways in which commands are put together.
-/
namespace MonorepoCheck.Shell

open Text (Bytes)

def isNameStart (c : Char) : Bool := Text.isAsciiLetter c || c == '_'

def isNameChar (c : Char) : Bool := isNameStart c || Text.isAsciiDigit c

def isName (text : Bytes) : Bool :=
  (text.head?.map isNameStart).getD false && text.all isNameChar

/-- How the value of a parameter is used. Where a form has a word, `orEmpty` says whether a value
that is empty counts as none. -/
inductive Form where
  | plain
  | length
  /-- the word where there is no value -/
  | otherwise (orEmpty : Bool)
  /-- the same, and the word becomes the value -/
  | assigned (orEmpty : Bool)
  /-- no value is a mistake -/
  | required (orEmpty : Bool)
  /-- the word where there is a value -/
  | instead (orEmpty : Bool)
  /-- the value without what the word matches at its start -/
  | withoutStart (longest : Bool)
  /-- the value without what the word matches at its end -/
  | withoutEnd (longest : Bool)
  deriving DecidableEq, Repr

/-- A piece of a word. What is quoted is never split, and matches nothing but itself. -/
inductive Piece where
  | text (quoted : Bool) (content : Bytes)
  | parameter (quoted : Bool) (name : Bytes) (form : Form) (word : List Piece)
  | arithmetic (quoted : Bool) (expression : List Piece)
  /-- the output of a script -/
  | output (quoted : Bool) (script : Bytes)
  deriving Repr

abbrev Word := List Piece

/-- What a redirection does to a stream. -/
inductive Redirection where
  | input (stream : Nat) (file : Word)
  | write (stream : Nat) (file : Word)
  | append (stream : Nat) (file : Word)
  /-- sends a stream where another one goes -/
  | duplicate (stream : Nat) (target : Word)
  /-- lets a stream read a text -/
  | here (stream : Nat) (content : Word)
  deriving Repr

inductive Script where
  | empty
  | simple (line : Nat) (assignments : List (Bytes × Word)) (words : List Word)
      (redirections : List Redirection)
  | pipe (left right : Script)
  | both (left right : Script)
  | either (left right : Script)
  | sequence (left right : Script)
  | background (script : Script)
  | negate (script : Script)
  | branch (condition yes no : Script)
  | loop (whileTrue : Bool) (condition body : Script)
  /-- without words the parameters of the script are meant -/
  | each (name : Bytes) (words : Option (List Word)) (body : Script)
  | choice (subject : Word) (cases : List (List Word × Script))
  | subshell (body : Script)
  | redirected (body : Script) (redirections : List Redirection)
  | definition (name : Bytes) (body : Script)
  deriving Inhabited, Repr

end MonorepoCheck.Shell
