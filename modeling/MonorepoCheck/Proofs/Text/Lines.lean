import Mathlib.Data.List.Forall2
import MonorepoCheck.Proofs.Text.Splitting
import MonorepoCheck.Text.Lines

/-!
Lines and their ends. A text is laid out of lines in more than one way, since a carriage return before a
line feed can be taken for a part of the line; the lines of the text are the shortest ones.
-/
namespace MonorepoCheck.Text

/-- In two lists that are related entry by entry, an entry of the second has one of the first beside
it. -/
theorem exists_of_forall₂ {α β : Type} {related : α → β → Prop} {left : List α} {right : List β}
    (all : List.Forall₂ related left right) : ∀ b ∈ right, ∃ a ∈ left, related a b := by
  induction all with
  | nil => simp
  | cons first _ ih =>
      intro b member
      rcases List.mem_cons.mp member with rfl | later
      · exact ⟨_, List.mem_cons_self, first⟩
      · obtain ⟨a, inside, same⟩ := ih b later
        exact ⟨a, List.mem_cons_of_mem _ inside, same⟩

/-- A line takes at least one character, for a text does not end in an empty one. -/
theorem length_lines_le (text : List Char) : (lines text).length ≤ text.length := by
  induction text using lines.induct with
  | case1 => exact Nat.le_refl 0
  | case2 rest ih => simpa [lines] using ih
  | case3 rest ih => exact Nat.succ_le_succ (Nat.le_succ_of_le ih)
  | case4 c rest _ _ none' _ => simp_all [lines]
  | case5 c rest _ _ line more some' ih => simp_all [lines]; omega

inductive LineEnd where
  | feed
  | returnFeed
  deriving DecidableEq, Repr

def LineEnd.text : LineEnd → List Char
  | .feed => ['\n']
  | .returnFeed => ['\r', '\n']

/-- A text that consists of lines, each of them with an end of its own kind. The last one may go
without. -/
inductive Laid : List (List Char) → List Char → Prop where
  | nothing : Laid [] []
  | unended {line : List Char} (whole : '\n' ∉ line) : Laid [line] line
  | ended {line text : List Char} {lines : List (List Char)} (ending : LineEnd) (whole : '\n' ∉ line)
      (more : Laid lines text) : Laid (line :: lines) (line ++ (ending.text ++ text))

variable {text line piece : List Char}

theorem Laid.whole {lines : List (List Char)} (laid : Laid lines text) :
    ∀ line ∈ lines, '\n' ∉ line := by
  induction laid with
  | nothing => simp
  | unended whole => simpa using whole
  | ended ending whole more ih => simpa using ⟨whole, ih⟩

theorem lines_laid (text : List Char) : Laid (lines text) text := by
  induction text using lines.induct with
  | case1 => exact .nothing
  | case2 rest ih => exact .ended .feed List.not_mem_nil ih
  | case3 rest ih => exact .ended .returnFeed List.not_mem_nil ih
  | case4 c rest noFeed _ none' ih =>
      have feed : '\n' ≠ c := fun same => noFeed same.symm
      have alone : lines (c :: rest) = [[c]] := by simp_all [lines]
      rw [none'] at ih
      cases ih
      rw [alone]
      exact .unended (by simp [feed])
  | case5 c rest noFeed _ line more some' ih =>
      have feed : '\n' ≠ c := fun same => noFeed same.symm
      have longer : lines (c :: rest) = (c :: line) :: more := by simp_all [lines]
      rw [some'] at ih
      rw [longer]
      cases ih with
      | unended whole => exact .unended (by simp [feed, whole])
      | ended ending whole more => exact .ended ending (by simp [feed, whole]) more

theorem feed_lines (member : line ∈ lines text) : '\n' ∉ line := (lines_laid text).whole line member

/-- A piece of a text before a line feed, and the line that it is. -/
def Piece (piece line : List Char) : Prop := piece = line ∨ piece = line ++ ['\r']

/-- The lines that a text is laid out of are what stands between its line feeds, up to a carriage
return at the end of each. A last piece without anything in it need not be a line. -/
theorem Laid.pieces {lines : List (List Char)} (laid : Laid lines text) :
    ∃ pieces, List.Forall₂ Piece pieces lines
      ∧ (splitOn '\n' text = pieces ∨ splitOn '\n' text = pieces ++ [[]]) := by
  induction laid with
  | nothing => exact ⟨[], .nil, .inr rfl⟩
  | @unended line whole => exact ⟨[line], .cons (.inl rfl) .nil, .inl (splitOn_piece whole)⟩
  | @ended line text lines ending whole more ih =>
      obtain ⟨pieces, same, split⟩ := ih
      have cut (front : List Char) (whole : '\n' ∉ front) :
          splitOn '\n' (front ++ '\n' :: text) = front :: splitOn '\n' text := by
        rw [splitOn_append, splitOn_piece whole, List.singleton_append]
      cases ending with
      | feed =>
          refine ⟨line :: pieces, .cons (.inl rfl) same, ?_⟩
          rcases split with split | split <;> simp [LineEnd.text, cut line whole, split]
      | returnFeed =>
          have longer := cut (line ++ ['\r']) (by simp [whole])
          rw [List.append_assoc, List.singleton_append] at longer
          refine ⟨(line ++ ['\r']) :: pieces, .cons (.inr rfl) same, ?_⟩
          rcases split with split | split <;> simp [LineEnd.text, longer, split]

theorem lines_nonempty (some' : ∀ piece ∈ splitOn '\n' text, piece ≠ []) :
    List.Forall₂ Piece (splitOn '\n' text) (lines text) := by
  obtain ⟨pieces, same, split⟩ := (lines_laid text).pieces
  rcases split with split | split
  · rwa [split]
  · exact absurd rfl (some' [] (by simp [split]))

end MonorepoCheck.Text
