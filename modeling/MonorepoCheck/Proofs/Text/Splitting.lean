import MonorepoCheck.Text.Search

/-!
Splitting a text after a known start, or at a separator: pieces that do not hold the separator come back
from the text they were joined to.
-/
namespace MonorepoCheck.Text

theorem after?_iff {start text rest : List Char} :
    after? start text = some rest ↔ text = start ++ rest := by
  induction start generalizing text with
  | nil => simp [after?]
  | cons c start ih =>
      cases text with
      | nil => simp [after?]
      | cons d text =>
          by_cases same : c = d
          · subst same
            simp [after?, ih]
          · simp [after?, same, Ne.symm same]

theorem splitOn_ne_nil (separator : Char) (text : List Char) : splitOn separator text ≠ [] := by
  cases text with
  | nil => simp [splitOn]
  | cons c text =>
      rw [splitOn]
      split
      · simp
      · split <;> simp

theorem splitOn_append (separator : Char) (front rest : List Char) :
    splitOn separator (front ++ separator :: rest)
      = splitOn separator front ++ splitOn separator rest := by
  induction front with
  | nil => simp [splitOn]
  | cons c front ih =>
      rw [List.cons_append, splitOn, splitOn, ih]
      by_cases same : c = separator
      · simp [same]
      · obtain ⟨piece, more, pieces⟩ := List.exists_cons_of_ne_nil (splitOn_ne_nil separator front)
        simp [same, pieces]

theorem splitOn_piece {separator : Char} {piece : List Char} (whole : separator ∉ piece) :
    splitOn separator piece = [piece] := by
  induction piece with
  | nil => rfl
  | cons c piece ih =>
      have parts : c ≠ separator ∧ separator ∉ piece := by
        simpa [eq_comm] using whole
      rw [splitOn, if_neg parts.1, ih parts.2]

theorem noSeparator_of_splitOn {separator : Char} {text piece : List Char}
    (member : piece ∈ splitOn separator text) : separator ∉ piece := by
  induction text generalizing piece with
  | nil =>
      obtain rfl := List.mem_singleton.mp member
      exact List.not_mem_nil
  | cons c text ih =>
      rw [splitOn] at member
      obtain ⟨first, more, pieces⟩ := List.exists_cons_of_ne_nil (splitOn_ne_nil separator text)
      by_cases same : c = separator
      · rw [if_pos same] at member
        rcases List.mem_cons.mp member with rfl | later
        · exact List.not_mem_nil
        · exact ih later
      · rw [if_neg same, pieces] at member
        rw [pieces] at ih
        rcases List.mem_cons.mp member with rfl | later
        · simp [Ne.symm same, ih List.mem_cons_self]
        · exact ih (List.mem_cons_of_mem first later)

/-- The last piece of a text goes on with what is added to the text. -/
theorem splitOn_extended (separator : Char) (suffix : List Char) (whole : separator ∉ suffix)
    (front : List Char) :
    ∃ before last, splitOn separator (front ++ suffix) = before ++ [last ++ suffix] := by
  induction front with
  | nil => exact ⟨[], [], splitOn_piece whole⟩
  | cons c front ih =>
      obtain ⟨before, last, pieces⟩ := ih
      rw [List.cons_append, splitOn, pieces]
      by_cases same : c = separator
      · exact ⟨[] :: before, last, by simp [same]⟩
      · cases before with
        | nil => exact ⟨[], c :: last, by simp [same]⟩
        | cons piece before => exact ⟨(c :: piece) :: before, last, by simp [same]⟩

theorem join_cons_cons (separator first second : List Char) (pieces : List (List Char)) :
    join separator (first :: second :: pieces)
      = first ++ (separator ++ join separator (second :: pieces)) := by
  rw [join, List.intercalate_cons_cons, List.append_assoc]
  rfl

theorem mem_join {separator : List Char} {pieces : List (List Char)} {c : Char}
    (member : c ∈ join separator pieces) : c ∈ separator ∨ ∃ piece ∈ pieces, c ∈ piece := by
  induction pieces with
  | nil => simp [join] at member
  | cons first rest ih =>
      cases rest with
      | nil => exact .inr ⟨first, List.mem_cons_self, by simpa [join] using member⟩
      | cons second rest =>
          rw [join_cons_cons, List.mem_append, List.mem_append] at member
          rcases member with here | here | there
          · exact .inr ⟨first, List.mem_cons_self, here⟩
          · exact .inl here
          · rcases ih there with here | ⟨piece, member, here⟩
            · exact .inl here
            · exact .inr ⟨piece, List.mem_cons_of_mem first member, here⟩

theorem splitOn_join {separator : Char} {pieces : List (List Char)} (some' : pieces ≠ [])
    (whole : ∀ piece ∈ pieces, separator ∉ piece) :
    splitOn separator (join [separator] pieces) = pieces := by
  induction pieces with
  | nil => exact absurd rfl some'
  | cons first rest ih =>
      have own := splitOn_piece (whole first List.mem_cons_self)
      cases rest with
      | nil => simpa [join] using own
      | cons second rest =>
          have tail := ih (List.cons_ne_nil second rest)
            fun piece member => whole piece (List.mem_cons_of_mem first member)
          rw [join_cons_cons, List.singleton_append, splitOn_append, own, tail]
          rfl

theorem join_splitOn (separator : Char) (text : List Char) :
    join [separator] (splitOn separator text) = text := by
  induction text with
  | nil => rfl
  | cons c text ih =>
      obtain ⟨piece, more, pieces⟩ := List.exists_cons_of_ne_nil (splitOn_ne_nil separator text)
      rw [pieces] at ih
      rw [splitOn, pieces]
      by_cases same : c = separator
      · rw [if_pos same, join_cons_cons, ih, same]
        rfl
      · rw [if_neg same]
        cases more with
        | nil => simpa [join] using ih
        | cons second more =>
            rw [join_cons_cons] at ih ⊢
            simpa using ih

/-- Joining is undone by splitting, but for the one text that no piece and one empty piece share. -/
theorem join_inj {separator : Char} {pieces others : List (List Char)}
    (whole : ∀ piece ∈ pieces, separator ∉ piece) (wholeOthers : ∀ piece ∈ others, separator ∉ piece)
    (same : join [separator] pieces = join [separator] others) :
    pieces = others ∨ pieces = [] ∧ others = [[]] ∨ pieces = [[]] ∧ others = [] := by
  by_cases none' : pieces = []
  · subst none'
    by_cases noOther : others = []
    · exact .inl noOther.symm
    · have back := splitOn_join noOther wholeOthers
      rw [← same] at back
      exact .inr (.inl ⟨rfl, back.symm⟩)
  · have back := splitOn_join none' whole
    by_cases noOther : others = []
    · subst noOther
      rw [same] at back
      exact .inr (.inr ⟨back.symm, rfl⟩)
    · left
      rw [← back, same, splitOn_join noOther wholeOthers]

end MonorepoCheck.Text
