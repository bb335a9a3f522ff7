import MonorepoCheck.Report.Html
import MonorepoCheck.Text.Search
import Mathlib.Data.List.Infix

/-!
Escaped text. Every special character becomes an entity that starts with an ampersand, so replacing the
special characters in turn has to begin with the ampersand, and undoing it has to end with it.
-/
namespace MonorepoCheck

namespace Text

variable {old new more name piece rest : List Char} {first : Char}

theorem replaceFrom_skip (skipped rest : List Char) :
    replaceFrom old new skipped.length (skipped ++ rest) = replace old new rest := by
  induction skipped with
  | nil => rfl
  | cons c skipped ih => exact ih

/-- An occurrence is replaced, and the search goes on after it. -/
theorem replace_occurrence (present : old ≠ []) :
    replace old new (old ++ rest) = new ++ replace old new rest := by
  cases old with
  | nil => exact absurd rfl present
  | cons c more =>
      have occurs : (c :: more).isPrefixOf (c :: (more ++ rest)) = true :=
        List.isPrefixOf_iff_prefix.mpr (List.prefix_append (c :: more) rest)
      rw [List.cons_append, replace, replaceFrom, if_pos occurs]
      exact congrArg (new ++ ·) (replaceFrom_skip more rest)

theorem replace_other (other : ¬ old <+: first :: rest) :
    replace old new (first :: rest) = first :: replace old new rest := by
  rw [replace, replaceFrom, if_neg fun found => other (List.isPrefixOf_iff_prefix.mp found)]
  rfl

/-- A piece without the first character of what is replaced stays. -/
theorem replace_passes (absent : first ∉ piece) :
    replace (first :: more) new (piece ++ rest) = piece ++ replace (first :: more) new rest := by
  induction piece with
  | nil => rfl
  | cons c piece ih =>
      obtain ⟨differ, later⟩ := not_or.mp (fun here => absent (List.mem_cons.mpr here))
      have other : ¬ first :: more <+: c :: (piece ++ rest) :=
        fun found => differ (List.cons_prefix_cons.mp found).1
      rw [List.cons_append, replace_other other, ih later, List.cons_append]

/-- A piece that starts alike stays if neither text goes on as the other one. -/
theorem replace_apart (apart : ¬ first :: more <+: first :: name)
    (apart' : ¬ first :: name <+: first :: more) (absent : first ∉ name) :
    replace (first :: more) new (first :: name ++ rest)
      = first :: name ++ replace (first :: more) new rest := by
  have other : ¬ first :: more <+: first :: (name ++ rest) := by
    intro found
    rcases List.prefix_or_prefix_of_prefix found (List.prefix_append (first :: name) rest) with
      shorter | longer
    · exact apart shorter
    · exact apart' longer
  rw [List.cons_append, replace_other other, replace_passes absent, List.cons_append]

/-- Replacing in a text that is spelt character by character. -/
theorem replace_flatMap {code decoded : Char → List Char}
    (step : ∀ c rest, replace old new (code c ++ rest) = decoded c ++ replace old new rest)
    (text : List Char) : replace old new (text.flatMap code) = text.flatMap decoded := by
  induction text with
  | nil => rfl
  | cons c text ih => rw [List.flatMap_cons, step, ih, List.flatMap_cons]

end Text

namespace Html

def special : List Char := ['"', '>', '<', '&']

/-- Escapes some of the special characters. -/
def escapeOnly (chosen : List Char) (c : Char) : List Char :=
  if c ∈ chosen then escapeChar c else [c]

variable {c d : Char}

theorem escapeChar_other (other : c ∉ special) : escapeChar c = [c] := by
  simp only [special, List.mem_cons, List.not_mem_nil, or_false, not_or] at other
  obtain ⟨quote, greater, less, ampersand⟩ := other
  rw [escapeChar, if_neg ampersand, if_neg less, if_neg greater, if_neg quote]

theorem escapeOnly_special (c : Char) : escapeOnly special c = escapeChar c := by
  rw [escapeOnly]
  split
  · rfl
  · rename_i other
    exact (escapeChar_other other).symm

theorem mem_special : c ∈ special ↔ c = '"' ∨ c = '>' ∨ c = '<' ∨ c = '&' := by
  simp only [special, List.mem_cons, List.not_mem_nil, or_false]

/-- Every entity is an ampersand and a name. -/
theorem entity (member : c ∈ special) : ∃ name, escapeChar c = '&' :: name ∧ '&' ∉ name := by
  rcases mem_special.mp member with rfl | rfl | rfl | rfl
  · exact ⟨"quot;".toList, by decide, by decide⟩
  · exact ⟨"gt;".toList, by decide, by decide⟩
  · exact ⟨"lt;".toList, by decide, by decide⟩
  · exact ⟨"amp;".toList, by decide, by decide⟩

/-- No special character but the ampersand is in an entity. -/
theorem outside_entity (member : c ∈ special) (other : d ∈ special) (differ : c ≠ '&') :
    c ∉ escapeChar d := by
  rcases mem_special.mp member with rfl | rfl | rfl | rfl
  case inr.inr.inr => exact absurd rfl differ
  all_goals
    rcases mem_special.mp other with rfl | rfl | rfl | rfl
    all_goals decide

/-- No entity is the start of another one. -/
theorem entities_apart (member : c ∈ special) (other : d ∈ special) (differ : c ≠ d) :
    ¬ escapeChar c <+: escapeChar d := by
  rcases mem_special.mp member with rfl | rfl | rfl | rfl
  all_goals
    rcases mem_special.mp other with rfl | rfl | rfl | rfl
    all_goals first
      | exact absurd rfl differ
      | decide

/-- Escaping one more character. The ampersand, which is in every entity, has to be the first one. -/
theorem replace_escape (c : Char) (chosen : List Char) (fresh : c ∉ chosen) (member : c ∈ special)
    (known : chosen ⊆ special) (first : c = '&' → chosen = []) (text : List Char) :
    Text.replace [c] (escapeChar c) (text.flatMap (escapeOnly chosen))
      = text.flatMap (escapeOnly (c :: chosen)) := by
  apply Text.replace_flatMap
  intro d rest
  by_cases same : d = c
  · subst same
    rw [escapeOnly, if_neg fresh, escapeOnly, if_pos List.mem_cons_self]
    exact Text.replace_occurrence (List.cons_ne_nil d [])
  · by_cases other : d ∈ chosen
    · have later : c ≠ '&' := fun early => List.ne_nil_of_mem other (first early)
      rw [escapeOnly, if_pos other, escapeOnly, if_pos (List.mem_cons_of_mem c other)]
      exact Text.replace_passes (outside_entity member (known other) later)
    · have still : d ∉ c :: chosen := by simp [same, other]
      rw [escapeOnly, if_neg other, escapeOnly, if_neg still]
      exact Text.replace_passes (by simpa using Ne.symm same)

/-- Undoing the entity of one character, while ampersands are still escaped. -/
theorem replace_entity (c : Char) (chosen : List Char) (fresh : c ∉ chosen) (member : c ∈ special)
    (known : chosen ⊆ special) (ampersand : '&' ∈ c :: chosen) (text : List Char) :
    Text.replace (escapeChar c) [c] (text.flatMap (escapeOnly (c :: chosen)))
      = text.flatMap (escapeOnly chosen) := by
  obtain ⟨name, spelt, _⟩ := entity member
  apply Text.replace_flatMap
  intro d rest
  by_cases same : d = c
  · subst same
    rw [escapeOnly, if_pos List.mem_cons_self, escapeOnly, if_neg fresh]
    exact Text.replace_occurrence (spelt ▸ List.cons_ne_nil _ _)
  · by_cases other : d ∈ chosen
    · obtain ⟨otherName, otherSpelt, plain⟩ := entity (known other)
      have apart := entities_apart member (known other) (Ne.symm same)
      have apart' := entities_apart (known other) member same
      rw [spelt, otherSpelt] at apart apart'
      rw [escapeOnly, if_pos (List.mem_cons_of_mem c other), escapeOnly, if_pos other, spelt,
        otherSpelt]
      exact Text.replace_apart apart apart' plain
    · have still : d ∉ c :: chosen := by simp [same, other]
      have different : '&' ≠ d := by
        rintro rfl
        exact still ampersand
      rw [escapeOnly, if_neg still, escapeOnly, if_neg other, spelt]
      exact Text.replace_passes (by simpa using different)

/-- The special characters replaced in turn. -/
def escapeInTurn (text : String) : String :=
  Text.replaceText "\"" "&quot;" (Text.replaceText ">" "&gt;" (Text.replaceText "<" "&lt;"
    (Text.replaceText "&" "&amp;" text)))

/-- The entities replaced by the characters they stand for, the ampersand last. -/
def unescape (text : String) : String :=
  Text.replaceText "&amp;" "&" (Text.replaceText "&lt;" "<" (Text.replaceText "&gt;" ">"
    (Text.replaceText "&quot;" "\"" text)))

theorem flatMap_escapeOnly_nil (text : List Char) : text.flatMap (escapeOnly []) = text := by
  induction text with
  | nil => rfl
  | cons c text ih => rw [List.flatMap_cons, ih]; rfl

theorem flatMap_escapeOnly_special (text : List Char) :
    text.flatMap (escapeOnly special) = text.flatMap escapeChar := by
  rw [funext escapeOnly_special]

/-- Escaping at once does what the replacements do in turn. -/
theorem escape_eq_inTurn (text : String) : escape text = escapeInTurn text := by
  have first := replace_escape '&' [] (by decide) (by decide) (by decide) (fun _ => rfl) text.toList
  have second := replace_escape '<' ['&'] (by decide) (by decide) (by decide) nofun text.toList
  have third := replace_escape '>' ['<', '&'] (by decide) (by decide) (by decide) nofun text.toList
  have fourth := replace_escape '"' ['>', '<', '&'] (by decide) (by decide) (by decide) nofun
    text.toList
  rw [flatMap_escapeOnly_nil] at first
  simp only [escapeInTurn, Text.replaceText, String.toList_ofList]
  rw [escape, ← flatMap_escapeOnly_special, special, ← fourth, ← third, ← second, ← first]
  rfl

theorem unescape_escape (text : String) : unescape (escape text) = text := by
  have first := replace_entity '"' ['>', '<', '&'] (by decide) (by decide)
    (by decide) (by decide) text.toList
  have second := replace_entity '>' ['<', '&'] (by decide) (by decide) (by decide)
    (by decide) text.toList
  have third := replace_entity '<' ['&'] (by decide) (by decide) (by decide)
    (by decide) text.toList
  have fourth := replace_entity '&' [] (by decide) (by decide) (by decide)
    (by decide) text.toList
  rw [flatMap_escapeOnly_nil] at fourth
  have undone : Text.replace (escapeChar '&') ['&'] (Text.replace (escapeChar '<') ['<']
      (Text.replace (escapeChar '>') ['>'] (Text.replace (escapeChar '"') ['"']
        (text.toList.flatMap (escapeOnly special))))) = text.toList := by
    rw [special, first, second, third, fourth]
  simp only [unescape, Text.replaceText, escape, String.toList_ofList]
  rw [flatMap_escapeOnly_special] at undone
  exact (congrArg String.ofList undone).trans String.ofList_toList

/-- Escaped text opens no tag. -/
theorem escape_opens_none (text : String) : '<' ∉ (escape text).toList := by
  rw [escape, String.toList_ofList]
  intro opens
  obtain ⟨c, _, inside⟩ := List.mem_flatMap.mp opens
  by_cases member : c ∈ special
  · exact outside_entity (by decide) member (by decide) inside
  · rw [escapeChar_other member, List.mem_singleton] at inside
    exact member (inside ▸ (by decide))

end Html
end MonorepoCheck
