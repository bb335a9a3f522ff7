import MonorepoCheck.Proofs.Diagnostic.CheckerLine
import MonorepoCheck.Proofs.Text.Lines

/-!
Output is read line by line. How its lines end makes no difference, and a line that reports nothing makes
none to the lines around it.
-/
namespace MonorepoCheck.CheckerLine

open Text (splitOn Laid LineEnd Piece)

variable {line other : List Char}

theorem read?_same (same : content line = content other) : read? line = read? other := by
  change (splitTail? (content line)).bind _ = (splitTail? (content other)).bind _
  rw [same]

theorem read?_return (line : List Char) : read? (line ++ ['\r']) = read? line := by
  apply read?_same
  simp [content, Text.dropEndWhile]

theorem read?_piece {piece : List Char} (same : Piece piece line) : read? piece = read? line := by
  rcases same with rfl | rfl
  · rfl
  · exact read?_return line

theorem filterMap_pieces {pieces lines : List (List Char)} (same : List.Forall₂ Piece pieces lines) :
    pieces.filterMap read? = lines.filterMap read? := by
  induction same with
  | nil => rfl
  | cons first _ ih => simp [List.filterMap_cons, read?_piece first, ih]

theorem filterMap_laid {lines : List (List Char)} {text : List Char} (laid : Laid lines text) :
    (splitOn '\n' text).filterMap read? = lines.filterMap read? := by
  obtain ⟨pieces, same, split⟩ := laid.pieces
  have blank : read? [] = none := rfl
  rw [← filterMap_pieces same]
  rcases split with split | split <;> simp [split, blank]

/-- Reading a text is reading each piece between its line feeds. -/
theorem readAll_eq (text : List Char) : readAll text = (splitOn '\n' text).filterMap read? :=
  (filterMap_laid (Text.lines_laid text)).symm

theorem readAll_feed (front rest : List Char) :
    readAll (front ++ '\n' :: rest) = readAll front ++ readAll rest := by
  rw [readAll_eq, readAll_eq, readAll_eq, Text.splitOn_append, List.filterMap_append]

theorem readAll_line (whole : '\n' ∉ line) : readAll line = (read? line).toList := by
  rw [readAll_eq, Text.splitOn_piece whole]
  cases found : read? line <;> simp [found]

theorem readAll_laid {lines : List (List Char)} {text : List Char} (laid : Laid lines text) :
    readAll text = lines.filterMap read? :=
  (readAll_eq text).trans (filterMap_laid laid)

/-- Whether a line reports a diagnostic. -/
def wellFormed (line : List Char) : Bool := (read? line).isSome

theorem filterMap_wellFormed (lines : List (List Char)) :
    (lines.filter wellFormed).filterMap read? = lines.filterMap read? := by
  induction lines with
  | nil => rfl
  | cons line lines ih =>
      cases found : read? line <;> simp [wellFormed, found, ← ih]

/-- Whatever lines a text is laid out of and however they end, what is read of it is what is read of
the well-formed ones, in order. Texts with the same well-formed lines are read alike, whatever else is
between them. Every text is laid out of lines. -/
theorem lines_read_apart :
    (∀ lines text, Laid lines text → readAll text = lines.filterMap read?)
    ∧ (∀ lines others text other, Laid lines text → Laid others other →
        lines.filter wellFormed = others.filter wellFormed → readAll text = readAll other)
    ∧ ∀ text, Laid (Text.lines text) text := by
  refine ⟨fun lines text laid => readAll_laid laid, ?_, Text.lines_laid⟩
  intro lines others text other laid laidOther same
  rw [readAll_laid laid, readAll_laid laidOther, ← filterMap_wellFormed lines, same,
    filterMap_wellFormed]

namespace Sample

def first : List Char := "a.ts(1,1): error TS1005: ';' expected.".toList

/-- A line with a number that does not count. -/
def zero : List Char := "b.ts(0,3): error TS2322: zero line".toList

def last : List Char := "c.ts(5,2): error TS2304: Cannot find name 'y'.".toList

def mixed : List Char :=
  first ++ (LineEnd.returnFeed.text ++ (zero ++ (LineEnd.feed.text ++ ([] ++ (LineEnd.returnFeed.text
    ++ last)))))

def plain : List Char := first ++ (LineEnd.feed.text ++ (last ++ (LineEnd.feed.text ++ [])))

theorem mixed_read : Laid [first, zero, [], last] mixed ∧ Laid [first, last] plain
    ∧ [first, zero, [], last].filter wellFormed = [first, last].filter wellFormed
    ∧ readAll mixed = readAll plain
    ∧ readAll mixed = [⟨"a.ts", 1, 1, "TS1005", "';' expected."⟩,
        ⟨"c.ts", 5, 2, "TS2304", "Cannot find name 'y'."⟩] := by
  obtain ⟨apart, alike, _⟩ := lines_read_apart
  have wholeFirst : '\n' ∉ first := by decide +kernel
  have wholeLast : '\n' ∉ last := by decide +kernel
  have laid : Laid [first, zero, [], last] mixed :=
    .ended _ wholeFirst (.ended _ (by decide +kernel) (.ended _ List.not_mem_nil (.unended wholeLast)))
  have laidPlain : Laid [first, last] plain := .ended _ wholeFirst (.ended _ wholeLast .nothing)
  have same : [first, zero, [], last].filter wellFormed = [first, last].filter wellFormed := by
    decide +kernel
  refine ⟨laid, laidPlain, same, alike _ _ _ _ laid laidPlain same, ?_⟩
  exact (apart _ _ laid).trans (by decide +kernel)

end Sample

end MonorepoCheck.CheckerLine
