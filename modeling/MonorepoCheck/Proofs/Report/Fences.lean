import MonorepoCheck.Proofs.Diagnostic.Snippet
import MonorepoCheck.Report.Markdown
import MonorepoCheck.Text.Blank

/-!
Snippets in Markdown stay in their blocks. The marks and numbers in front of the sources keep every line
of a snippet from being taken for a fence, whatever the source says.
-/
namespace MonorepoCheck

open Text (splitOn lines unlines Piece)

namespace Markdown

/-- The first character of a line behind its blanks. -/
def firstSolid (line : List Char) : Option Char := line.find? fun c => !Text.isBlank c

/-- Whether a line may close a block: it starts with a backtick or a tilde, blanks aside. -/
def mayClose (line : List Char) : Bool := (firstSolid line).any fun c => "`~".toList.contains c

variable {line row : List Char}

theorem mayClose_piece (same : Piece row line) : mayClose row = mayClose line := by
  rcases same with rfl | rfl
  · rfl
  · have blank : Text.isBlank '\r' = true := by decide
    simp [mayClose, firstSolid, blank]

/-- A row of a snippet starts with its mark or, where that is a blank, with its number. -/
theorem mayClose_spells {width reported number : Nat} {source : List Char}
    (spells : Snippet.Spells width reported number source row) : mayClose row = false := by
  obtain ⟨blanks, _, rfl⟩ := spells
  by_cases same : number = reported
  · have solid : Text.isBlank '>' = false := by decide
    simp [Snippet.mark, same, mayClose, firstSolid, solid]
  · obtain ⟨digit, digits, written⟩ := List.exists_cons_of_ne_nil (Text.decimal_ne_nil number)
    have spelt : Text.isAsciiDigit digit = true := Text.decimal_digits (n := number) (by simp [written])
    have blank : Text.isBlank ' ' = true := by decide
    have first : firstSolid (Snippet.mark reported number :: ' ' :: (List.replicate blanks ' '
        ++ (Text.decimal number ++ (" | ".toList ++ source)))) = some digit := by
      simp [Snippet.mark, same, firstSolid, blank, written, Text.isBlank_digit spelt]
    have fence : ("`~".toList.all fun c => !Text.isAsciiDigit c) = true := by decide
    have other : digit ∉ "`~".toList := by
      intro member
      simpa [spelt] using List.all_eq_true.mp fence digit member
    rw [mayClose, first]
    simpa using other

/-- Each line of a block is a row of the snippet behind two blanks, but for a carriage return at the end
of the row. -/
def Indents (row written : List Char) : Prop := ∃ kept, Piece row kept ∧ written = ' ' :: ' ' :: kept

theorem mayClose_indents {written : List Char} (indents : Indents row written) :
    mayClose written = mayClose row := by
  obtain ⟨kept, same, rfl⟩ := indents
  rw [mayClose_piece same]
  rfl

/-- What a reader takes for the block after an opening fence. -/
def block (rest : List (List Char)) : List (List Char) := rest.takeWhile fun line => !mayClose line

section Rows

variable {first rows : List String}

theorem splitOn_unlines_cons (row : String) (rows : List String) :
    splitOn '\n' (unlines (row :: rows)).toList
      = splitOn '\n' row.toList ++ splitOn '\n' (unlines rows).toList := by
  rw [← Text.splitOn_append]
  simp [unlines, String.join_cons]

theorem splitOn_unlines_append (whole : ∀ row ∈ first, '\n' ∉ row.toList) :
    splitOn '\n' (unlines (first ++ rows)).toList
      = first.map String.toList ++ splitOn '\n' (unlines rows).toList := by
  induction first with
  | nil => rfl
  | cons row first ih =>
      obtain ⟨here, later⟩ := List.forall_mem_cons.mp whole
      rw [List.cons_append, splitOn_unlines_cons, Text.splitOn_piece here, ih later]
      rfl

end Rows

def heading (d : Diagnostic) : String :=
  "- **" ++ d.code ++ "** (" ++ count d.line ++ ":" ++ count d.column ++ "): " ++ d.message

def hintRows (d : Diagnostic) : List String := (d.suggestions.getD []).map ("  - " ++ ·)

/-- The lines of a diagnostic up to the fence that opens the block of its snippet. -/
def before (d : Diagnostic) : List (List Char) :=
  splitOn '\n' (heading d).toList ++ [[], "  ```ts".toList]

/-- The lines of a diagnostic from the fence that closes the block of its snippet on. -/
def after (d : Diagnostic) : List (List Char) :=
  "  ```".toList :: [] :: splitOn '\n' (unlines (hintRows d)).toList

theorem splitOn_diagnostic {d : Diagnostic} {shown : List Char}
    (attached : d.snippet = some (String.ofList shown)) :
    splitOn '\n' (unlines (diagnosticRows d)).toList
      = before d ++ ((lines shown).map (' ' :: ' ' :: ·) ++ after d) := by
  have parts : diagnosticRows d = heading d :: (["", "  ```ts"]
      ++ ((Text.textLines (String.ofList shown)).map ("  " ++ ·)
        ++ (["  ```", ""] ++ hintRows d))) := by
    simp [diagnosticRows, attached, snippetRows, heading, hintRows]
  have indented : ((Text.textLines (String.ofList shown)).map ("  " ++ ·)).map String.toList
      = (lines shown).map (' ' :: ' ' :: ·) := by
    simp [Text.textLines]
  have whole : ∀ row ∈ (Text.textLines (String.ofList shown)).map ("  " ++ ·), '\n' ∉ row.toList := by
    simp only [Text.textLines, String.toList_ofList, List.map_map, List.mem_map]
    rintro row ⟨line, member, rfl⟩
    simp [Text.feed_lines member]
  rw [parts, splitOn_unlines_cons, splitOn_unlines_append (by decide), splitOn_unlines_append whole,
    splitOn_unlines_append (by decide), indented]
  simp [before, after]

/-- A snippet in its block. -/
structure InBlock (d : Diagnostic) (rows inside : List (List Char)) : Prop where
  written : splitOn '\n' (unlines (diagnosticRows d)).toList = before d ++ (inside ++ after d)
  rows : List.Forall₂ Indents rows inside
  closed : ∀ line ∈ inside, mayClose line = false
  read : block (inside ++ after d) = inside

theorem block_closed (d : Diagnostic) {inside : List (List Char)}
    (closed : ∀ line ∈ inside, mayClose line = false) : block (inside ++ after d) = inside := by
  have open' : ∀ line ∈ inside, (!mayClose line) = true := by simpa using closed
  have fence : mayClose "  ```".toList = true := by decide
  rw [block, List.takeWhile_append_of_pos open', after,
    List.takeWhile_cons_of_neg (by rw [fence]; decide), List.append_nil]

/-- Whatever a source says, the lines between the fences are the rows of the snippet, one each, and none
of them can be taken for the fence that closes the block. -/
theorem snippet_stays_in_block (d : Diagnostic) (content : List Char) (line context : Nat)
    (shown : List Char) (rendered : Snippet.render? content line context = some shown)
    (attached : d.snippet = some (String.ofList shown)) :
    ∃ inside, InBlock d (splitOn '\n' shown) inside := by
  have window := Snippet.window_render? rendered
  have closed : ∀ row ∈ splitOn '\n' shown, row ≠ [] ∧ mayClose row = false := by
    intro row member
    obtain ⟨_, _, _, spells⟩ := window.spelt member
    refine ⟨?_, mayClose_spells spells⟩
    obtain ⟨_, _, rfl⟩ := spells
    exact List.cons_ne_nil _ _
  have rows : List.Forall₂ Indents (splitOn '\n' shown) ((lines shown).map (' ' :: ' ' :: ·)) := by
    rw [List.forall₂_map_right_iff]
    have pieces := Text.lines_nonempty fun row member => (closed row member).1
    exact pieces.imp fun _ kept same => ⟨kept, same, rfl⟩
  have inside : ∀ line ∈ (lines shown).map (' ' :: ' ' :: ·), mayClose line = false := by
    intro line member
    obtain ⟨row, there, indents⟩ := Text.exists_of_forall₂ rows line member
    rw [mayClose_indents indents, (closed row there).2]
  exact ⟨_, splitOn_diagnostic attached, rows, inside, block_closed d inside⟩

namespace Sample

/-- A source that closes blocks of its own. -/
def fences : List Char := "```\n~~~~\r\r\n\t```\n\n  ```".toList

def shown : List Char := "> 1 | ```\n  2 | ~~~~\r\n  3 | \t```".toList

def found : Diagnostic where
  file := "a.ts"
  line := 1
  column := 1
  code := "TS1"
  message := "one\n```"
  snippet := some (String.ofList shown)

theorem fences_in_block : Snippet.render? fences 1 2 = some shown
    ∧ found.snippet = some (String.ofList shown) ∧ ∃ inside, InBlock found (splitOn '\n' shown) inside := by
  have rendered : Snippet.render? fences 1 2 = some shown := by decide +kernel
  exact ⟨rendered, rfl, snippet_stays_in_block found fences 1 2 shown rendered rfl⟩

end Sample

end Markdown
end MonorepoCheck
