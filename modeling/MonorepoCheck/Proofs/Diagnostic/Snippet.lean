import MonorepoCheck.Binary.Word
import MonorepoCheck.Diagnostic.Snippet
import MonorepoCheck.Proofs.Text.Lines
import MonorepoCheck.Proofs.Text.Numerals

/-!
What a snippet shows: the lines around the reported one, each in a row of its own behind its number. The
sources come back when as many characters as stand before them are cut from every row.
-/
namespace MonorepoCheck.Snippet

open Text (decimal join splitOn)

/-- The mark of a line can be seen if it is the reported one. -/
def mark (line number : Nat) : Char := if number = line then '>' else ' '

/-- A row: the mark, a blank, the number at the right of so many places, a bar, and the source. -/
def Spells (width line number : Nat) (source row : List Char) : Prop :=
  ∃ blanks, blanks + (decimal number).length = width
    ∧ row = mark line number :: ' ' ::
        (List.replicate blanks ' ' ++ (decimal number ++ (" | ".toList ++ source)))

variable {width line number first : Nat} {source : List Char} {lines sources : List (List Char)}

theorem spells_row (fits : (decimal number).length ≤ width) :
    Spells width line number source (row width line number source) := by
  refine ⟨width - (decimal number).length, by omega, ?_⟩
  simp [row, padLeft, mark]

section Row

variable {row : List Char} (spells : Spells width line number source row)
include spells

theorem Spells.cut : row.drop (width + 5) = source := by
  obtain ⟨blanks, places, rfl⟩ := spells
  have front : (mark line number :: ' ' ::
      (List.replicate blanks ' ' ++ (decimal number ++ " | ".toList))).length = width + 5 := by
    simp
    omega
  simpa using List.drop_left' front

theorem Spells.whole (feed : '\n' ∉ source) : '\n' ∉ row := by
  obtain ⟨blanks, _, rfl⟩ := spells
  have mark' : '\n' ≠ mark line number := by
    by_cases same : number = line <;> simp [mark, same]
  simp [mark', Text.feed_decimal, feed]

end Row

theorem rows_eq : rows width line first sources =
    (sources.zipIdx first).map fun entry => row width line entry.2 entry.1 := by
  induction sources generalizing first with
  | nil => rfl
  | cons source more ih => rw [rows, ih, List.zipIdx_cons, List.map_cons]

/-- Rows that show the lines of a content from one number to another. -/
structure Window (lines : List (List Char)) (line first last : Nat) (rows : List (List Char)) : Prop where
  reported : first ≤ line ∧ line ≤ last
  numbered : List.Forall₂ (fun number row => ∃ source, lines[number - 1]? = some source
      ∧ Spells (decimal last).length line number source row)
    (List.range' first (last + 1 - first)) rows
  sources : rows.map (List.drop ((decimal last).length + 5))
    = (lines.drop (first - 1)).take (last + 1 - first)

section Window

variable {last : Nat} (positive : 1 ≤ first)
include positive

/-- The lines of a window, each with its number. -/
theorem mem_shown {entry : List Char × Nat}
    (member : entry ∈ ((lines.drop (first - 1)).take (last + 1 - first)).zipIdx first) :
    lines[entry.2 - 1]? = some entry.1 ∧ entry.2 ≤ last := by
  obtain ⟨from', found⟩ := List.mem_zipIdx_iff_le_and_getElem?_sub.mp member
  have place : first - 1 + (entry.2 - first) = entry.2 - 1 := by omega
  rw [List.getElem?_take, List.getElem?_drop, place] at found
  split at found
  · exact ⟨found, by omega⟩
  · cases found

theorem window_rows (present : last ≤ lines.length) (reported : first ≤ line ∧ line ≤ last) :
    Window lines line first last
      (rows (decimal last).length line first ((lines.drop (first - 1)).take (last + 1 - first))) := by
  have count : ((lines.drop (first - 1)).take (last + 1 - first)).length = last + 1 - first := by
    simp
    omega
  have spells : ∀ entry ∈ ((lines.drop (first - 1)).take (last + 1 - first)).zipIdx first,
      Spells (decimal last).length line entry.2 entry.1 (row (decimal last).length line entry.2 entry.1) :=
    fun entry member => spells_row (Text.decimal_length_mono (mem_shown positive member).2)
  constructor
  case reported => exact reported
  case numbered =>
      have numbers := List.zipIdx_map_snd first ((lines.drop (first - 1)).take (last + 1 - first))
      rw [count] at numbers
      rw [← numbers, rows_eq, List.forall₂_map_left_iff, List.forall₂_map_right_iff, List.forall₂_same]
      intro entry member
      exact ⟨entry.1, (mem_shown positive member).1, spells entry member⟩
  case sources =>
      have cut := List.map_congr_left fun entry member => (spells entry member).cut
      rw [rows_eq, List.map_map]
      exact cut.trans (List.zipIdx_map_fst first _)

end Window

namespace Window

variable {last : Nat} {shownRows : List (List Char)} (window : Window lines line first last shownRows)
include window

theorem spelt {row : List Char} (member : row ∈ shownRows) :
    ∃ number source, source ∈ lines ∧ Spells (decimal last).length line number source row := by
  obtain ⟨number, _, source, found, spells⟩ := Text.exists_of_forall₂ window.numbered row member
  exact ⟨number, source, List.mem_of_getElem? found, spells⟩

theorem nonempty : shownRows ≠ [] := by
  have count := window.numbered.length_eq
  rw [List.length_range'] at count
  have reported := window.reported
  exact List.length_pos_iff.mp (by omega)

theorem splitOn_join (whole : ∀ source ∈ lines, '\n' ∉ source) :
    splitOn '\n' (join ['\n'] shownRows) = shownRows := by
  refine Text.splitOn_join window.nonempty fun row member => ?_
  obtain ⟨_, source, inside, spells⟩ := window.spelt member
  exact spells.whole (whole source inside)

end Window

section Render

variable {content : List Char} {context : Nat}

theorem window_render? {shown : List Char} (rendered : render? content line context = some shown) :
    Window (Text.lines content) line (max 1 (line - context))
      (min (Text.lines content).length (line + context)) (splitOn '\n' shown) := by
  rw [render?] at rendered
  split at rendered
  · cases rendered
  · rename_i inside
    obtain rfl := Option.some.inj rendered
    have window := @window_rows line (max 1 (line - context)) (Text.lines content)
      (min (Text.lines content).length (line + context)) (by omega) (by omega) (by omega)
    rw [window.splitOn_join fun source => Text.feed_lines]
    exact window

end Render

/-- A snippet is there for every line that the content has and for no other one. Its rows show the lines
from `context` before the reported one to `context` after it, as far as there are any. -/
theorem snippet_window (content : List Char) (line context : Nat) :
    ((render? content line context).isSome = true ↔ 1 ≤ line ∧ line ≤ (Text.lines content).length)
    ∧ ∀ shown, render? content line context = some shown →
        Window (Text.lines content) line (max 1 (line - context))
          (min (Text.lines content).length (line + context)) (splitOn '\n' shown) := by
  constructor
  · by_cases outside : line = 0 ∨ (Text.lines content).length < line
    · rw [render?, if_pos outside]
      simp
      omega
    · rw [render?, if_neg outside]
      simp
      omega
  · exact fun shown => window_render?

/-- The sum that a snippet takes fits a machine word, if the content and the settings are such as a
machine can read. -/
theorem fitsWord_of_render? {content : List Char} {line context : Nat}
    (rendered : (render? content line context).isSome = true)
    (content_lt : content.length < Nat.pow 2 63) (context_lt : context < Nat.pow 2 63) :
    fitsWord (line + context) = true := by
  have present : line ≤ (Text.lines content).length := by
    by_contra missing
    rw [render?, if_pos (.inr (Nat.lt_of_not_le missing))] at rendered
    cases rendered
  have few := Text.length_lines_le content
  simp only [fitsWord, decide_eq_true_eq, Nat.pow_eq] at *
  omega

namespace Sample

/-- Ten lines with ends of both kinds. The ninth is a carriage return, the tenth has no end. -/
def tenLines : List Char := "a\nb\nc\nd\ne\nf\ng\r\nh h\n\r\r\n\tj".toList

def shown : List Char := "   8 | h h\n>  9 | \r\n  10 | \tj".toList

theorem tenLines_shown : render? tenLines 9 1 = some shown
    ∧ splitOn '\n' shown
        = ["   8 | h h".toList, ">  9 | \r".toList, "  10 | \tj".toList]
    ∧ Window (Text.lines tenLines) 9 8 10 (splitOn '\n' shown) := by
  have rendered : render? tenLines 9 1 = some shown := by decide +kernel
  have count : (Text.lines tenLines).length = 10 := by decide +kernel
  have window := (snippet_window tenLines 9 1).2 shown rendered
  rw [count] at window
  exact ⟨rendered, by decide +kernel, window⟩

end Sample

end MonorepoCheck.Snippet
