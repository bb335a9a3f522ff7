import MonorepoCheck.Shell.Output
import MonorepoCheck.Shell.Pattern

/-!
What programs make of texts that go through them: parts of them, their lines in another order, or
characters exchanged.
-/
namespace MonorepoCheck.Shell

open Text (Bytes)

/-- The lines of a text, with their line feeds. -/
def linesOf (text : Bytes) : List Bytes :=
  text.foldr (fun c lines =>
    match lines with
    | line :: more => if c = '\n' then ['\n'] :: line :: more else (c :: line) :: more
    | [] => [[c]]) []

/-- The numbers from the first to the last, a line each. -/
def numbers (words : List Bytes) : Bytes :=
  let (first, step, last) := match words.map fun word => (decimalInteger? word).getD 0 with
    | [last] => (1, 1, last)
    | [first, last] => (first, 1, last)
    | [first, step, last] => (first, step, last)
    | _ => (1, 1, 0)
  let count := if step = 0 then 0 else ((last - first) / step + 1).toNat
  (List.range count).flatMap fun (index : Nat) =>
    decimalBytes (first + (index : Int) * step) ++ ['\n']

/-- How much of a text `head` and `tail` show, and the files they read. -/
structure Share where
  bytes : Bool := false
  /-- counted from the start, for the end of a text -/
  fromStart : Bool := false
  count : Nat := 10
  files : List Bytes := []

def readShare : Share → List Bytes → Share
  | share, [] => share
  | share, ['-', 'n'] :: count :: rest => readShare (counted { share with bytes := false } count) rest
  | share, ['-', 'c'] :: count :: rest => readShare (counted { share with bytes := true } count) rest
  | share, word :: rest =>
    match word with
    | '-' :: 'n' :: count => readShare (counted { share with bytes := false } count) rest
    | '-' :: 'c' :: count => readShare (counted { share with bytes := true } count) rest
    | '-' :: d :: count => readShare (counted share (d :: count)) rest
    | file => readShare { share with files := share.files ++ [file] } rest
where
  counted (share : Share) (count : Bytes) : Share :=
    { share with
      fromStart := count.head? == some '+'
      count := Text.numeral (count.filter Text.isAsciiDigit) * (match count.getLast? with
        | some 'k' | some 'K' => 1024
        | some 'b' => 512
        | some 'M' => 1024 * 1024
        | _ => 1) }

def Share.first (share : Share) (text : Bytes) : Bytes :=
  if share.bytes then text.take share.count else ((linesOf text).take share.count).flatten

def Share.last (share : Share) (text : Bytes) : Bytes :=
  let pieces : List Bytes := if share.bytes then text.map fun c => [c] else linesOf text
  let skipped := if share.fromStart then share.count - 1 else pieces.length - share.count
  (pieces.drop skipped).flatten

/-- The lines of a text without their line feeds. -/
def bareLines (text : Bytes) : List Bytes :=
  (linesOf text).map fun line => if line.getLast? = some '\n' then line.dropLast else line

/-- The lines of a text after their numbers. -/
def numberedLines (text : Bytes) : Bytes :=
  ((linesOf text).zipIdx 1).flatMap fun (line, number) =>
    let digits := Text.decimal number
    List.replicate (6 - digits.length) ' ' ++ digits ++ '\t' :: line

def endLines (lines : List Bytes) : Bytes := lines.flatMap fun line => line ++ ['\n']

/-- The lines in order: as texts or by the numbers they start with. -/
def sortedLines (options : List Char) (lines : List Bytes) : List Bytes :=
  let number (line : Bytes) : Int :=
    let start := line.dropWhile isSpace
    let digits := (start.dropWhile (· == '-')).takeWhile Text.isAsciiDigit
    if start.head? = some '-' then -(Text.numeral digits : Int) else (Text.numeral digits : Int)
  let atMost (a b : Bytes) : Bool :=
    if options.contains 'n' then
      number a < number b || (number a == number b && !decide (b < a))
    else !decide (b < a)
  let sorted := lines.mergeSort fun a b => if options.contains 'r' then atMost b a else atMost a b
  if options.contains 'u' then sorted.eraseDups else sorted

/-- Runs of equal lines, each with its length. -/
def runsOf (lines : List Bytes) : List (Nat × Bytes) :=
  lines.foldr (fun line runs =>
    match runs with
    | (count, other) :: more =>
      if line = other then (count + 1, other) :: more else (1, line) :: (count, other) :: more
    | [] => [(1, line)]) []

/-- The characters from one to another. -/
def charsBetween (low high : Char) : Bytes :=
  (List.range (high.toNat + 1 - low.toNat)).map fun n => Char.ofNat (low.toNat + n)

/-- The characters of a set of `tr`, with its ranges and escapes. -/
def readSet : Nat → Bytes → Bytes
  | 0, text => text
  | fuel + 1, text =>
    match text with
    | '\\' :: rest =>
      let (bytes, rest) := readEscape true rest
      (if bytes.length = 1 then bytes else bytes.drop 1) ++ readSet fuel rest
    | '[' :: ':' :: rest =>
      let name := rest.takeWhile (· != ':')
      let inner := (classMembers name).flatMap fun (low, high) => charsBetween low high
      if inner.isEmpty then ['[', ':'] ++ readSet fuel rest
      else inner ++ readSet fuel (rest.drop (name.length + 2))
    | low :: '-' :: high :: rest => charsBetween low high ++ readSet fuel rest
    | c :: rest => c :: readSet fuel rest
    | [] => []

def translationSet (text : Bytes) : Bytes := readSet (text.length + 1) text

/-- The text with characters exchanged, or dropped. -/
def translated (options : List Char) (sets : List Bytes) (text : Bytes) : Bytes :=
  let first := translationSet (sets.head?.getD [])
  let isMeant (c : Char) : Bool :=
    first.contains c != (options.contains 'c' || options.contains 'C')
  if options.contains 'd' then text.filter fun c => !isMeant c
  else if options.contains 's' && sets.length < 2 then
    (runsOf (text.map fun c => [c])).flatMap fun (count, character) =>
      if character.any isMeant then character else (List.replicate count character).flatten
  else
    let second := translationSet ((sets[1]?).getD [])
    text.map fun c =>
      if !isMeant c then c
      else
        match second[(first.idxOf c)]? with
        | some d => d
        | none => second.getLast?.getD c

/-- The parts of a line that `cut` keeps: single numbers and ranges between commas. -/
def isKept (list : Bytes) (index : Nat) : Bool :=
  (Text.splitOn ',' list).any fun range =>
    match Text.splitOn '-' range with
    | [single] => Text.numeral single == index
    | [low, high] =>
      (low.isEmpty || Text.numeral low ≤ index) && (high.isEmpty || index ≤ Text.numeral high)
    | _ => false

/-- The value of an option of one letter, in the same word or in the next. -/
def optionValue? (letter : Char) : List Bytes → Option Bytes
  | [] => none
  | ['-', c] :: value :: rest =>
    if c = letter then some value else optionValue? letter (value :: rest)
  | ('-' :: c :: value) :: rest =>
    if c = letter && !value.isEmpty then some value else optionValue? letter rest
  | _ :: rest => optionValue? letter rest

def cutLine (words : List Bytes) (line : Bytes) : Bytes :=
  let chosen {α : Type} (list : Bytes) (pieces : List α) : List α :=
    (pieces.zipIdx 1).filterMap fun (piece, index) => if isKept list index then some piece else none
  match optionValue? 'f' words, optionValue? 'c' words with
  | some list, _ =>
    let mark := ((optionValue? 'd' words).bind List.head?).getD '\t'
    if line.contains mark then Text.join [mark] (chosen list (Text.splitOn mark line)) else line
  | none, some list => chosen list line
  | none, none => line

/-- An atom of the patterns of `grep`, once or any number of times. -/
structure Atom where
  matcher : Matcher
  repeated : Bool

/-- The atoms of a pattern; whether it is bound to the start and the end of a line. -/
def readAtoms : Nat → Bytes → List Atom
  | 0, _ => []
  | fuel + 1, text =>
    match text with
    | [] => []
    | '\\' :: c :: rest => withStar fuel (.char c) rest
    | '.' :: rest => withStar fuel .any rest
    | '[' :: rest =>
      let (inverted, members) := match rest with
        | '^' :: members => (true, members)
        | members => (false, members)
      match readMembers (members.length + 1) true (marked false members) with
      | some (members, rest) => withStar fuel (.set inverted members) rest.text
      | none => withStar fuel (.char '[') rest
    | c :: rest => withStar fuel (.char c) rest
where
  withStar (fuel : Nat) (matcher : Matcher) (rest : Bytes) : List Atom :=
    match rest with
    | '*' :: rest => ⟨matcher, true⟩ :: readAtoms fuel rest
    | rest => ⟨matcher, false⟩ :: readAtoms fuel rest

/-- What may be left of a line after atoms have matched at its start. -/
def restsAfterAtoms (atoms : List Atom) (line : Bytes) : List Bytes :=
  atoms.foldl (fun rests atom =>
    (rests.flatMap fun rest =>
      if atom.repeated then
        let run := (rest.takeWhile atom.matcher.accepts).length
        (List.range (run + 1)).map rest.drop
      else atom.matcher.rests rest).eraseDups) [line]

/-- Whether a pattern of `grep` occurs in a line. -/
def occurs (pattern line : Bytes) : Bool :=
  let (fromStart, inner) := match pattern with
    | '^' :: rest => (true, rest)
    | rest => (false, rest)
  let toEnd := inner.getLast? == some '$'
  let atoms := readAtoms (inner.length + 1) (if toEnd then inner.dropLast else inner)
  let starts := if fromStart then [line] else suffixes line
  starts.any fun start => (restsAfterAtoms atoms start).any fun rest => !toEnd || rest.isEmpty

end MonorepoCheck.Shell
