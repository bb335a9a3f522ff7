import MonorepoCheck.Files.Tree
import MonorepoCheck.Text.Bytes

/-!
Patterns of the shell: `*` stands for any text, `?` for a character, and `[a-z]` for one of a set,
unless they are quoted.
-/
namespace MonorepoCheck.Shell

open Text (Bytes)

/-- A text in which each character is quoted or not. -/
abbrev Marked := List (Char × Bool)

def Marked.text (marked : Marked) : Bytes := marked.map Prod.fst

def marked (quoted : Bool) (text : Bytes) : Marked := text.map fun c => (c, quoted)

/-- A part of a pattern. -/
inductive Matcher where
  | char (c : Char)
  | any
  | many
  | set (inverted : Bool) (members : List (Char × Char))
  deriving DecidableEq, Repr

def Matcher.accepts (matcher : Matcher) (c : Char) : Bool :=
  match matcher with
  | .char d => c == d
  | .any | .many => true
  | .set inverted members =>
    (members.any fun (low, high) => low ≤ c && c ≤ high) != inverted

/-- The characters with these names between colons inside a set. -/
def classMembers (name : Bytes) : List (Char × Char) :=
  match String.ofList name with
  | "alpha" => [('a', 'z'), ('A', 'Z')]
  | "digit" => [('0', '9')]
  | "alnum" => [('a', 'z'), ('A', 'Z'), ('0', '9')]
  | "upper" => [('A', 'Z')]
  | "lower" => [('a', 'z')]
  | "space" => [(' ', ' '), ('\t', '\r')]
  | "blank" => [(' ', ' '), ('\t', '\t')]
  | "xdigit" => [('a', 'f'), ('A', 'F'), ('0', '9')]
  | "punct" => [('!', '/'), (':', '@'), ('[', '\x60'), ('\x7b', '~')]
  | _ => []

/-- The members of a set up to its closing bracket, which may come first. -/
def readMembers : Nat → Bool → Marked → Option (List (Char × Char) × Marked)
  | 0, _, _ => none
  | fuel + 1, isFirst, text =>
    match text with
    | [] => none
    | ('[', false) :: (':', false) :: rest =>
      let name := (rest.takeWhile fun d => d.1 != ':').map Prod.fst
      match rest.drop name.length with
      | (':', _) :: (']', _) :: rest =>
        (readMembers fuel false rest).map fun (more, rest) => (classMembers name ++ more, rest)
      | _ => none
    | (']', false) :: rest =>
      if isFirst then (readMembers fuel false rest).map fun (more, rest) => ((']', ']') :: more, rest)
      else some ([], rest)
    | (low, _) :: ('-', false) :: (high, quoted) :: rest =>
      if high = ']' && !quoted then
        (readMembers fuel false (('-', true) :: (high, quoted) :: rest)).map fun (more, rest) =>
          ((low, low) :: more, rest)
      else (readMembers fuel false rest).map fun (more, rest) => ((low, high) :: more, rest)
    | (c, _) :: rest => (readMembers fuel false rest).map fun (more, rest) => ((c, c) :: more, rest)

/-- The parts of a pattern. A bracket that is not closed stands for itself. -/
def matchers : Nat → Marked → List Matcher
  | 0, _ => []
  | fuel + 1, text =>
    match text with
    | [] => []
    | ('*', false) :: rest => .many :: matchers fuel rest
    | ('?', false) :: rest => .any :: matchers fuel rest
    | ('[', false) :: rest =>
      let (inverted, members) := match rest with
        | ('!', false) :: members | ('^', false) :: members => (true, members)
        | members => (false, members)
      match readMembers (members.length + 1) true members with
      | some (members, rest) => .set inverted members :: matchers fuel rest
      | none => .char '[' :: matchers fuel rest
    | (c, _) :: rest => .char c :: matchers fuel rest

def patternOf (text : Marked) : List Matcher := matchers (text.length + 1) text

def hasPattern (text : Marked) : Bool :=
  text.any fun (c, quoted) => !quoted && (c == '*' || c == '?' || c == '[')

/-- What is left of a text after each of its starts, from the whole text to nothing. -/
def suffixes : Bytes → List Bytes
  | [] => [[]]
  | c :: rest => (c :: rest) :: suffixes rest

/-- What may be left of a text after a part of a pattern has matched at its start. -/
def Matcher.rests (matcher : Matcher) (text : Bytes) : List Bytes :=
  match matcher with
  | .many => suffixes text
  | matcher =>
    match text with
    | c :: rest => if matcher.accepts c then [rest] else []
    | [] => []

/-- What may be left of a text after a pattern has matched at its start. -/
def restsAfter (pattern : List Matcher) (text : Bytes) : List Bytes :=
  pattern.foldl (fun rests matcher => (rests.flatMap matcher.rests).eraseDups) [text]

def matchesAll (pattern : List Matcher) (text : Bytes) : Bool :=
  (restsAfter pattern text).any List.isEmpty

/-- The text without the shortest or the longest start that a pattern matches. -/
def withoutStart (longest : Bool) (pattern : List Matcher) (text : Bytes) : Bytes :=
  let lengths := (restsAfter pattern text).map List.length
  match if longest then lengths.min? else lengths.max? with
  | some length => text.drop (text.length - length)
  | none => text

/-- The text without the shortest or the longest end that a pattern matches. -/
def withoutEnd (longest : Bool) (pattern : List Matcher) (text : Bytes) : Bytes :=
  let ends := (suffixes text).filter (matchesAll pattern)
  match if longest then ends.head? else ends.getLast? with
  | some found => text.take (text.length - found.length)
  | none => text

/-- The parts of a path between slashes. -/
def pathParts (text : Marked) : List Marked :=
  text.foldr (fun (c, quoted) parts =>
    match parts with
    | part :: more => if c = '/' then [] :: part :: more else ((c, quoted) :: part) :: more
    | [] => []) [[]]

/-- The paths that go on after `start`, as it is written, by parts that may be patterns. Names that
start with a point are meant by patterns that start with it alone. -/
def pathsMatching (files : FileTree) (here : Location) (start : Bytes) : List Marked → List Bytes
  | [] => [start]
  | part :: rest =>
    let continued (name : Bytes) : List Bytes :=
      let path := start ++ name
      if rest.isEmpty then [path] else pathsMatching files here (path ++ ['/']) rest
    if hasPattern part then
      let pattern := patternOf part
      let directory : Path := ⟨if start.isEmpty then "." else Text.decode start⟩
      match files.find here directory, files.locate here directory with
      | .ok .directory, .ok place =>
        (files.children place).flatMap fun (name, _) =>
          let name := Text.bytesOfText name
          let hidden := name.head? = some '.' && part.head?.map Prod.fst != some '.'
          if !hidden && matchesAll pattern name then continued name else []
      | _, _ => []
    else continued part.text

/-- The paths that a word means: those that exist and match it, or else the word as it stands. -/
def pathsOf (files : FileTree) (here : Location) (word : Marked) : List Bytes :=
  if !hasPattern word then [word.text]
  else
    let found := (pathsMatching files here [] (pathParts word)).filter fun path =>
      files.existsAt here ⟨Text.decode path⟩
    if found.isEmpty then [word.text] else found

end MonorepoCheck.Shell
