import MonorepoCheck.Binary.Float
import MonorepoCheck.Shell.Arithmetic
import MonorepoCheck.Text.Blank

/-!
What `echo` and `printf` write.
-/
namespace MonorepoCheck.Shell

open Text (Bytes)

def isOctal (c : Char) : Bool := '0' ≤ c && c ≤ '7'

/-- The byte that octal digits spell. -/
def octalByte (digits : Bytes) : Char :=
  Char.ofNat ((digits.foldl (fun value c => value * 8 + Text.digitValue c) 0) % 256)

/-- The character that a letter after a backslash stands for. -/
def escapedByte? (c : Char) : Option Char :=
  match c with
  | 'a' => some (Char.ofNat 7)
  | 'b' => some (Char.ofNat 8)
  | 'e' => some (Char.ofNat 27)
  | 'f' => some (Char.ofNat 12)
  | 'n' => some '\n'
  | 'r' => some '\r'
  | 't' => some '\t'
  | 'v' => some (Char.ofNat 11)
  | '\\' => some '\\'
  | _ => none

/-- One escape after its backslash. Octal digits may stand after a zero that does not count, except
in formats. -/
def readEscape (inFormat : Bool) (text : Bytes) : Bytes × Bytes :=
  match text with
  | [] => (['\\'], [])
  | c :: rest =>
    match escapedByte? c with
    | some byte => ([byte], rest)
    | none =>
      if isOctal c then
        let start := if c = '0' && !inFormat then rest else c :: rest
        let digits := (start.takeWhile isOctal).take 3
        ([octalByte digits], start.drop digits.length)
      else if c = '"' && inFormat then (['"'], rest)
      else (['\\', c], rest)

/-- A text with its escapes resolved, and whether one of them ends all output. -/
def unescape : Nat → Bytes → Bytes × Bool
  | 0, text => (text, false)
  | fuel + 1, text =>
    match text with
    | [] => ([], false)
    | '\\' :: 'c' :: _ => ([], true)
    | '\\' :: rest =>
      let (bytes, rest) := readEscape false rest
      let (more, stopped) := unescape fuel rest
      (bytes ++ more, stopped)
    | c :: rest =>
      let (more, stopped) := unescape fuel rest
      (c :: more, stopped)

/-- What the shell's own `echo` writes. -/
def echoed (words : List Bytes) : Bytes :=
  let (words, ending) := match words with
    | ['-', 'n'] :: rest => (rest, [])
    | words => (words, ['\n'])
  let line := Text.join [' '] words
  let (bytes, stopped) := unescape (line.length + 1) line
  if stopped then bytes else bytes ++ ending

/-- Whether a word is made of options of `echo` alone. -/
def isEchoOption (word : Bytes) : Bool :=
  match word with
  | '-' :: c :: rest => (c :: rest).all fun c => c == 'n' || c == 'e' || c == 'E'
  | _ => false

/-- What the program `echo` writes: escapes are resolved on demand. -/
def echoedPlainly (words : List Bytes) : Bytes :=
  let options := (words.takeWhile isEchoOption).flatten
  let line := Text.join [' '] (words.dropWhile isEchoOption)
  let ending := if options.contains 'n' then [] else ['\n']
  if (options.reverse.find? fun c => c == 'e' || c == 'E') == some 'e' then
    let (bytes, stopped) := unescape (line.length + 1) line
    if stopped then bytes else bytes ++ ending
  else line ++ ending

/-- How a conversion is set: at the left of its places or at the right, after blanks or zeros. -/
structure Layout where
  left : Bool
  zeros : Bool
  /-- what stands in front of numbers that are not negative -/
  sign : Bytes
  /-- whether the radix of a number is shown -/
  marked : Bool
  width : Nat
  /-- how many characters of a text are kept, or digits of a number shown -/
  precision : Option Nat

/-- A number in a layout, or a star for one that a word gives. -/
def readSize (text : Bytes) (words : List Bytes) : Option Int × Bytes × List Bytes :=
  match text with
  | '*' :: rest => (some ((words.head?.bind integer?).getD 0), rest, words.tail)
  | text =>
    let digits := text.takeWhile Text.isAsciiDigit
    (if digits.isEmpty then none else some (Text.numeral digits), text.drop digits.length, words)

/-- The flags, the width and the precision of a conversion. -/
def readLayout (format : Bytes) (words : List Bytes) : Layout × Bytes × List Bytes :=
  let flags := format.takeWhile fun c => "-0+ #".toList.contains c
  let (width, rest, words) := readSize (format.drop flags.length) words
  let layout (precision : Option Nat) : Layout :=
    { left := flags.contains '-' || (width.getD 0) < 0
      zeros := flags.contains '0'
      sign := if flags.contains '+' then ['+'] else if flags.contains ' ' then [' '] else []
      marked := flags.contains '#'
      width := (width.getD 0).natAbs
      precision := precision }
  match rest with
  | '.' :: rest =>
    let (precision, rest, words) := readSize rest words
    (layout (some (precision.getD 0).toNat), rest, words)
  | rest => (layout none, rest, words)

/-- A text in its places. -/
def Layout.pad (layout : Layout) (text : Bytes) : Bytes :=
  let missing := layout.width - text.length
  if layout.left then text ++ List.replicate missing ' ' else List.replicate missing ' ' ++ text

/-- The digits of a number after its sign, in their places. -/
def Layout.number (layout : Layout) (sign digits : Bytes) : Bytes :=
  let digits := match layout.precision with
    | some least => List.replicate (least - digits.length) '0' ++ digits
    | none =>
      if layout.zeros && !layout.left then
        List.replicate (layout.width - sign.length - digits.length) '0' ++ digits
      else digits
  layout.pad (sign ++ digits)

/-- A decimal number with a fraction, as digits and the places after the point. -/
def readDecimal (text : Bytes) : Nat × Nat :=
  let whole := text.takeWhile Text.isAsciiDigit
  match text.drop whole.length with
  | '.' :: rest =>
    let fraction := rest.takeWhile Text.isAsciiDigit
    (Text.numeral (whole ++ fraction), fraction.length)
  | _ => (Text.numeral whole, 0)

/-- A number as a quotient. -/
structure Ratio where
  numerator : Nat
  denominator : Nat

/-- The double that is nearest to a decimal number. -/
def Ratio.ofDecimal (digits scale : Nat) : Ratio :=
  match Binary.double.ofDecimal false digits (-(scale : Int)) with
  | .finite _ significand exponent =>
    if 0 ≤ exponent then ⟨significand * Nat.pow 2 exponent.toNat, 1⟩
    else ⟨significand, Nat.pow 2 (-exponent).toNat⟩
  | _ => ⟨0, 1⟩

/-- The number with its point moved to the right, rounded to an integer. -/
def Ratio.shifted (q : Ratio) (places : Int) : Nat :=
  Binary.roundQuotient (q.numerator * Nat.pow 10 places.toNat)
    (q.denominator * Nat.pow 10 (-places).toNat)

/-- A number rounded to so many places. -/
def Ratio.fixed (q : Ratio) (places : Nat) : Bytes :=
  let scaled := q.shifted places
  let whole := Text.decimal (scaled / Nat.pow 10 places)
  if places = 0 then whole
  else whole ++ '.' :: Text.paddedDecimal places (scaled % Nat.pow 10 places)

/-- The digits of a number, so many after the first one, and the place of the first. -/
def Ratio.digits (q : Ratio) (places : Nat) : Nat × Int :=
  if q.numerator = 0 then (0, 0)
  else
    let guess : Int := (Text.decimal q.numerator).length - (Text.decimal q.denominator).length
    let reached := q.denominator * Nat.pow 10 guess.toNat ≤ q.numerator * Nat.pow 10 (-guess).toNat
    let place := if reached then guess else guess - 1
    let rounded := q.shifted (places - place)
    if Nat.pow 10 (places + 1) ≤ rounded then (rounded / 10, place + 1) else (rounded, place)

/-- A number as digits after a first one, and a power of ten. -/
def Ratio.scientific (q : Ratio) (places : Nat) (trimmed : Bool) : Bytes :=
  let (digits, place) := q.digits places
  let text := Text.paddedDecimal (places + 1) digits
  let fraction := if trimmed then Text.dropEndWhile (· == '0') text.tail else text.tail
  text.take 1 ++ (if fraction.isEmpty then [] else '.' :: fraction)
    ++ ['e', if place < 0 then '-' else '+'] ++ Text.paddedDecimal 2 place.natAbs

/-- A number in the shorter of both ways, with so many digits. -/
def Ratio.general (q : Ratio) (precision : Nat) : Bytes :=
  let precision := max 1 precision
  let (_, place) := q.digits (precision - 1)
  if place < -4 || (precision : Int) ≤ place then q.scientific (precision - 1) true
  else
    let text := q.fixed ((precision : Int) - 1 - place).toNat
    if text.contains '.' then
      Text.dropEndWhile (· == '.') (Text.dropEndWhile (· == '0') text)
    else text

/-- What a run of `printf` has come to. -/
structure Printing where
  /-- what is written, latest first -/
  done : List Bytes := []
  words : List Bytes
  problems : List String := []
  /-- nothing more is written -/
  stopped : Bool := false
  /-- the format is no format -/
  refused : Bool := false

namespace Printing

def add (printing : Printing) (bytes : Bytes) : Printing :=
  { printing with done := bytes :: printing.done }

def next (printing : Printing) : Bytes × Printing :=
  (printing.words.head?.getD [], { printing with words := printing.words.tail })

def warn (printing : Printing) (word : Bytes) (text : String) : Printing :=
  { printing with problems := printing.problems ++ [Text.decode word ++ ": " ++ text] }

/-- The number that a word spells; a character after a quote is its own number. -/
def numberOf (printing : Printing) (word : Bytes) : Int × Printing :=
  match word with
  | [] => (0, printing)
  | '\'' :: c :: _ | '"' :: c :: _ => (c.toNat, printing)
  | word =>
    let start := word.dropWhile isSpace
    let longest := ((List.range (start.length + 1)).reverse.map start.take).findSome? fun text =>
      (integer? text).map fun value => (value, text.length)
    match longest with
    | none => (0, printing.warn word "expected numeric value")
    | some (value, length) =>
      if value < -(Nat.pow 2 63 : Nat) then
        (-(Nat.pow 2 63 : Nat), printing.warn word "Numerical result out of range")
      else if (Nat.pow 2 63 : Nat) ≤ value then
        ((Nat.pow 2 63 : Nat) - 1, printing.warn word "Numerical result out of range")
      else if length < start.length then (value, printing.warn word "not completely converted")
      else (value, printing)

/-- The number as one without a sign. -/
def asUnsigned (n : Int) : Nat := (n % (Nat.pow 2 64 : Nat)).toNat

/-- Carries out a conversion. -/
def convert (printing : Printing) (layout : Layout) (conversion : Char) : Printing :=
  let (word, taken) := printing.next
  let withNumber (text : Int → Bytes × Bytes) : Printing :=
    let (value, taken) := taken.numberOf word
    let (sign, digits) := text value
    taken.add (layout.number sign digits)
  let kept (text : Bytes) : Bytes := match layout.precision with
    | some precision => text.take precision
    | none => text
  match conversion with
  | 's' => taken.add (layout.pad (kept word))
  | 'c' => taken.add (layout.pad (word.take 1))
  | 'b' =>
    let (bytes, stopped) := unescape (word.length + 1) word
    { taken.add (layout.pad (kept bytes)) with stopped := stopped }
  | 'd' | 'i' =>
    withNumber fun n => (if n < 0 then ['-'] else layout.sign, Text.decimal n.natAbs)
  | 'u' => withNumber fun n => ([], Text.decimal (asUnsigned n))
  | 'x' => withNumber fun n =>
    (if layout.marked && n != 0 then ['0', 'x'] else [], Nat.toDigits 16 (asUnsigned n))
  | 'X' => withNumber fun n =>
    (if layout.marked && n != 0 then ['0', 'X'] else [],
      (Nat.toDigits 16 (asUnsigned n)).map fun c =>
        if 'a' ≤ c && c ≤ 'f' then Char.ofNat (c.toNat - 32) else c)
  | 'o' => withNumber fun n =>
    ([], (if layout.marked && n != 0 then ['0'] else []) ++ Nat.toDigits 8 (asUnsigned n))
  | 'f' | 'F' | 'e' | 'g' =>
    let isNegative := word.head? = some '-'
    let spelt := if isNegative then word.tail else word
    let (digits, scale) := readDecimal spelt
    let q := Ratio.ofDecimal digits scale
    let precision := layout.precision.getD 6
    let text := if conversion = 'e' then q.scientific precision false
      else if conversion = 'g' then q.general precision
      else q.fixed precision
    let taken := if !word.isEmpty && !(spelt.any Text.isAsciiDigit) then
        taken.warn word "expected numeric value"
      else taken
    taken.add ({ layout with precision := none }.number
      (if isNegative then ['-'] else layout.sign) text)
  | _ => { printing with refused := true }

end Printing

/-- One pass over a format; each conversion takes a word. -/
def formatOnce : Nat → Bytes → Printing → Printing
  | 0, _, printing => printing
  | fuel + 1, format, printing =>
    if printing.stopped || printing.refused then printing
    else
      match format with
      | [] => printing
      | '\\' :: rest =>
        let (bytes, rest) := readEscape true rest
        formatOnce fuel rest (printing.add bytes)
      | '%' :: '%' :: rest => formatOnce fuel rest (printing.add ['%'])
      | '%' :: rest =>
        let (layout, after, words) := readLayout rest printing.words
        match after with
        | [] => { printing with problems := printing.problems ++ ["missing format character"]
                                refused := true }
        | c :: after =>
          let converted := { printing with words := words }.convert layout c
          if converted.refused then
            let directive := rest.take (rest.length - after.length)
            { converted with problems := converted.problems
                ++ ["%" ++ Text.decode directive ++ ": invalid directive"] }
          else formatOnce fuel after converted
      | c :: rest => formatOnce fuel rest (printing.add [c])

/-- What `printf` writes: the format is used again while there are words left. `rounds` bounds how
often. -/
def formatted : Nat → Bytes → Printing → Printing
  | 0, _, printing => printing
  | rounds + 1, format, printing =>
    let before := printing.words.length
    let printing := formatOnce (format.length + 1) format printing
    if printing.stopped || printing.refused || printing.words.isEmpty
        || printing.words.length = before then printing
    else formatted rounds format printing

/-- What `printf` writes for its words, and what it complains of. -/
def printed (words : List Bytes) : Bytes × List String × Nat :=
  let isMarked := words.head? == some ['-', '-']
  match if isMarked then words.tail else words with
  | [] => ([], ["usage: printf format [arg ...]"], 2)
  | format :: words =>
    match format, isMarked with
    | '-' :: c :: _, false => ([], ["Illegal option -" ++ String.singleton c], 2)
    | format, _ =>
      let printing := formatted (words.length + 1) format { words := words }
      (printing.done.reverse.flatten, printing.problems,
        if printing.refused then 2 else if printing.problems.isEmpty then 0 else 1)

end MonorepoCheck.Shell
