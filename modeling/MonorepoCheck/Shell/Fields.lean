import MonorepoCheck.Shell.Pattern
import MonorepoCheck.Shell.Session

/-!
The fields that words grow into. What is expanded outside of quotes ends fields at separators: blanks
among them count once, however many they are, all others each time.
-/
namespace MonorepoCheck.Shell

open Text (Bytes)

/-- The fields of a word so far. -/
structure Fields where
  /-- those that are finished, latest first -/
  done : List Marked := []
  /-- the characters of the one that is not, latest first -/
  current : Option Marked := none
  /-- whether a blank was the last thing that ended a field -/
  afterBlank : Bool := false

namespace Fields

def add (fields : Fields) (text : Marked) : Fields :=
  { fields with current := some (text.reverse ++ fields.current.getD []), afterBlank := false }

/-- Ends the field that is growing. -/
def close (fields : Fields) : Fields :=
  match fields.current with
  | some field => { fields with done := field.reverse :: fields.done, current := none }
  | none => fields

def addChar (separators : Bytes) (fields : Fields) (c : Char) : Fields :=
  if !separators.contains c then fields.add [(c, false)]
  else if isSpace c then
    { fields.close with afterBlank := fields.afterBlank || fields.current.isSome }
  else if fields.current.isNone && !fields.afterBlank then
    { fields with done := [] :: fields.done }
  else { fields.close with afterBlank := false }

/-- Adds a text that separators split. -/
def addSplit (fields : Fields) (separators text : Bytes) : Fields :=
  text.foldl (addChar separators) fields

/-- Adds texts as fields of their own; the first and the last grow together with what is around. -/
def addEach (fields : Fields) (add : Fields → Bytes → Fields) : List Bytes → Fields
  | [] => fields
  | [text] => add fields text
  | text :: rest => addEach (add fields text).close add rest

def toList (fields : Fields) : List Marked := fields.close.done.reverse

/-- All of a word as one text. -/
def text (fields : Fields) : Marked := fields.toList.flatten

end Fields

namespace Session

/-- The characters that end fields. -/
def separators (session : Session) : Bytes := (session.value? "IFS".toList).getD [' ', '\t', '\n']

/-- What joins the parameters of a script in one text: the first separator. -/
def joint (session : Session) : Bytes := session.separators.take 1

/-- The shares of a line that names take: each the characters up to a separator, the last one what is
left. -/
def shareOut (separators : Bytes) (names : List Bytes) (line : Marked) : List (Bytes × Bytes) :=
  let isSeparator (entry : Char × Bool) : Bool := !entry.2 && separators.contains entry.1
  let isBlankOne (entry : Char × Bool) : Bool := isSeparator entry && isSpace entry.1
  let line := line.dropWhile isBlankOne
  match names with
  | [] => []
  | [name] =>
    let kept := (line.reverse.dropWhile isBlankOne).reverse
    let single := kept.takeWhile fun entry => !isSeparator entry
    [(name, Marked.text (if kept.length = single.length + 1 then single else kept))]
  | name :: rest =>
    let share := line.takeWhile fun entry => !isSeparator entry
    let left := (line.drop share.length).dropWhile isBlankOne
    let left := match left with
      | entry :: more => if isSeparator entry then more else left
      | [] => []
    (name, Marked.text share) :: shareOut separators rest left

/-- The next line of a text and what follows it; whether it ended in a line feed. A backslash takes
back the meaning of the character after it, unless the line is `raw`. -/
def takeLine (raw : Bool) : Bytes → Marked × Bytes × Bool
  | [] => ([], [], false)
  | '\n' :: rest => ([], rest, true)
  | '\\' :: c :: rest =>
    if raw then
      let (line, rest, ended) := takeLine raw (c :: rest)
      (('\\', false) :: line, rest, ended)
    else
      let (line, rest, ended) := takeLine raw rest
      (if c = '\n' then line else (c, true) :: line, rest, ended)
  | c :: rest =>
    let (line, rest, ended) := takeLine raw rest
    ((c, false) :: line, rest, ended)

end Session
end MonorepoCheck.Shell
