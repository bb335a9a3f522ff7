import MonorepoCheck.Command.Basic
import MonorepoCheck.Proofs.Diagnostic.Lines
import MonorepoCheck.Proofs.Text.Utf8

/-!
What is read of the two streams of a command. They are kept one right after the other, so that output
whose last line has no end goes on with the first line of the errors, and the two are read as one line.
-/
namespace MonorepoCheck

namespace CheckerLine

variable {text output errors : List Char}

/-- A text up to its last line feed. -/
def ended (text : List Char) : List Char := Text.dropEndWhile (· != '\n') text

/-- What follows the last line feed of a text. -/
def unended (text : List Char) : List Char := (text.reverse.takeWhile (· != '\n')).reverse

/-- A text before its first line feed. -/
def opening (text : List Char) : List Char := text.takeWhile (· != '\n')

/-- A text from its first line feed on. -/
def following (text : List Char) : List Char := text.dropWhile (· != '\n')

theorem ended_unended (text : List Char) : ended text ++ unended text = text := by
  rw [ended, Text.dropEndWhile, unended, ← List.reverse_append, List.takeWhile_append_dropWhile,
    List.reverse_reverse]

theorem opening_following (text : List Char) : opening text ++ following text = text :=
  List.takeWhile_append_dropWhile

theorem feed_unended (text : List Char) : '\n' ∉ unended text := by
  intro member
  have other := List.mem_takeWhile_imp (List.mem_reverse.mp member)
  exact absurd other (by decide)

theorem feed_opening (text : List Char) : '\n' ∉ opening text := by
  intro member
  exact absurd (List.mem_takeWhile_imp member) (by decide)

/-- What stands before a line feed is read apart from what follows it. -/
theorem readAll_ended (text rest : List Char) :
    readAll (ended text ++ rest) = readAll (ended text) ++ readAll rest := by
  cases ends : (ended text).getLast? with
  | none =>
      rw [List.getLast?_eq_none_iff.mp ends]
      rfl
  | some last =>
      obtain ⟨_, _, _, stops⟩ := Text.dropEndWhile_spec (· != '\n') text
      obtain rfl : last = '\n' := by simpa using stops last ends
      obtain ⟨front, split⟩ := List.getLast?_eq_some_iff.mp ends
      have nothing : readAll [] = [] := rfl
      rw [split, List.append_assoc, List.singleton_append, readAll_feed, readAll_feed, nothing,
        List.append_nil]

theorem readAll_following (front text : List Char) :
    readAll (front ++ following text) = readAll front ++ readAll (following text) := by
  cases starts : following text with
  | nil => rw [List.append_nil, show readAll [] = [] from rfl, List.append_nil]
  | cons first rest =>
      have stops := List.head?_dropWhile_not (· != '\n') text
      rw [show text.dropWhile (· != '\n') = first :: rest from starts] at stops
      obtain rfl : first = '\n' := by simpa using stops
      have nothing : readAll ([] ++ '\n' :: rest) = readAll [] ++ readAll rest := readAll_feed [] rest
      rw [readAll_feed, ← List.nil_append ('\n' :: rest), nothing]
      rfl

theorem readAll_by_end (text : List Char) :
    readAll text = readAll (ended text) ++ (read? (unended text)).toList := by
  rw [← readAll_line (feed_unended text), ← readAll_ended, ended_unended]

theorem readAll_by_start (text : List Char) :
    readAll text = (read? (opening text)).toList ++ readAll (following text) := by
  rw [← readAll_line (feed_opening text), ← readAll_following, opening_following]

/-- Where two texts meet, the last line of one and the first line of the other are one line. -/
theorem readAll_append (output errors : List Char) :
    readAll (output ++ errors) = readAll (ended output)
      ++ ((read? (unended output ++ opening errors)).toList ++ readAll (following errors)) := by
  have whole : '\n' ∉ unended output ++ opening errors := by
    simp [feed_unended, feed_opening]
  calc readAll (output ++ errors)
      = readAll (ended output ++ (unended output ++ opening errors ++ following errors)) := by
        rw [List.append_assoc (unended output), opening_following, ← List.append_assoc, ended_unended]
    _ = readAll (ended output)
          ++ ((read? (unended output ++ opening errors)).toList ++ readAll (following errors)) := by
        rw [readAll_ended, readAll_following, readAll_line whole]

/-- What is read of output and errors that are kept as one text. -/
structure Captures (output errors text : List Char) : Prop where
  read : readAll text = readAll (ended output)
    ++ ((read? (unended output ++ opening errors)).toList ++ readAll (following errors))
  lossless : readAll text = readAll output ++ readAll errors ↔
    (read? (unended output ++ opening errors)).toList
      = (read? (unended output)).toList ++ (read? (opening errors)).toList
  apart : (∀ last, output.getLast? = some last → last = '\n')
    ∨ (∀ first, errors.head? = some first → first = '\n') →
      readAll text = readAll output ++ readAll errors

theorem unended_nil (ends : ∀ last, text.getLast? = some last → last = '\n') : unended text = [] := by
  rw [unended]
  cases back : text.reverse with
  | nil => rfl
  | cons last rest =>
      have last' : text.getLast? = some last := by rw [← List.head?_reverse, back]; rfl
      rw [ends last last']
      rfl

theorem opening_nil (starts : ∀ first, text.head? = some first → first = '\n') :
    opening text = [] := by
  cases text with
  | nil => rfl
  | cons first rest =>
      rw [starts first rfl]
      rfl

theorem captures_append (output errors : List Char) : Captures output errors (output ++ errors) := by
  have read := readAll_append output errors
  have lossless : readAll (output ++ errors) = readAll output ++ readAll errors ↔
      (read? (unended output ++ opening errors)).toList
        = (read? (unended output)).toList ++ (read? (opening errors)).toList := by
    rw [read, readAll_by_end output, readAll_by_start errors, List.append_assoc,
      List.append_cancel_left_eq, ← List.append_assoc, List.append_cancel_right_eq]
  have blank : read? [] = none := rfl
  constructor
  case read => exact read
  case lossless => exact lossless
  case apart =>
      rintro (ends | starts)
      · exact lossless.mpr (by rw [unended_nil ends, blank]; rfl)
      · exact lossless.mpr (by rw [opening_nil starts, blank, List.append_nil]; simp)

end CheckerLine

namespace Outcome

/-- What is read of the output of a command is what is read of its two streams, but for the line in
which they meet. -/
theorem streams_read (output errors : Text.Bytes) :
    CheckerLine.Captures (Text.decode output).toList (Text.decode errors).toList
      (captured output errors).toList := by
  rw [captured, String.toList_append]
  exact CheckerLine.captures_append _ _

namespace Sample

theorem decode_ascii {text : String} (plain : Text.isPlain text.toList = true) :
    Text.decode text.toList = text := by
  rw [Text.decode_plain plain, String.ofList_toList]

def watched : String := "a.ts(1,1): error TS1: one\nwatching"

def warned : String := "...\nb.ts(2,2): error TS2: two\n"

/-- Where the line in which the streams meet reports nothing, nothing is lost. -/
theorem watched_read : CheckerLine.readAll (captured watched.toList warned.toList).toList
    = [⟨"a.ts", 1, 1, "TS1", "one"⟩, ⟨"b.ts", 2, 2, "TS2", "two"⟩] := by
  have read := streams_read watched.toList warned.toList
  rw [decode_ascii (by decide), decode_ascii (by decide)] at read
  exact (read.lossless.mpr (by decide +kernel)).trans (by decide +kernel)

def unfinished : String := "a.ts(1,1): error TS1: one"

def reported : String := "b.ts(2,2): error TS2: two\n"

/-- A diagnostic is lost where the last line of the output has no end. -/
theorem met_line_lost : ¬ ∀ output errors : Text.Bytes,
    CheckerLine.readAll (captured output errors).toList
      = CheckerLine.readAll (Text.decode output).toList
        ++ CheckerLine.readAll (Text.decode errors).toList := by
  intro claim
  have read := claim unfinished.toList reported.toList
  rw [captured, decode_ascii (by decide), decode_ascii (by decide), String.toList_append] at read
  exact absurd read (by decide +kernel)

end Sample

end Outcome
end MonorepoCheck
