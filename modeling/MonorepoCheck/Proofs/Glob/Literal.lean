import MonorepoCheck.Glob.Expand
import MonorepoCheck.Proofs.Path.Below

/-!
Patterns that start with names without wildcards. Such names stand for themselves, and whether the
rest is well formed does not depend on them.
-/
namespace MonorepoCheck.Glob

open FileTree MonorepoCheck.Path

/-- Whether a character means something other than itself in a pattern. -/
def isWild (c : Char) : Bool := c == '*' || c == '?' || c == '['

/-- A place whose names hold no such characters. -/
def LiteralPlace (place : Location) : Prop := ∀ name ∈ place, name.toList.any isWild = false

instance (place : Location) : Decidable (LiteralPlace place) :=
  inferInstanceAs (Decidable (∀ name ∈ place, name.toList.any isWild = false))

/-- The pattern of a name that stands for itself. -/
def literalStep (name : String) : StepPattern := name.toList.map .literal

variable {before : Option Char} {tokens : List Token} {text rest : List Char} {c : Char}

theorem readTokens_literal (fuel : Nat) (plain : isWild c = false) :
    readTokens (fuel + 1) before tokens (c :: rest)
      = readTokens fuel (some c) (tokens ++ [.literal c]) rest := by
  have parts : c ≠ '*' ∧ c ≠ '?' ∧ c ≠ '[' := by simpa [isWild, and_assoc] using plain
  rw [readTokens]
  all_goals simp [parts]

theorem readTokens_literals (fuel : Nat) (plain : text.any isWild = false) :
    readTokens (fuel + text.length) before tokens (text ++ rest)
      = readTokens fuel (text.getLast?.or before) (tokens ++ text.map .literal) rest := by
  induction text generalizing before tokens with
  | nil => simp
  | cons c text ih =>
      have parts : isWild c = false ∧ text.any isWild = false := by simpa using plain
      rw [List.cons_append, List.length_cons, ← Nat.add_assoc, readTokens_literal _ parts.1,
        ih parts.2]
      simp [List.getLast?_cons]

theorem parse?_literal (plain : text.any isWild = false) :
    parse? text = some (text.map .literal) := by
  have read := @readTokens_literals none [] text [] 1 plain
  rw [List.append_nil, Nat.add_comm] at read
  rw [parse?, read]
  rfl

theorem literal?_literals (text : List Char) : literal? (text.map .literal) = some text := by
  induction text with
  | nil => rfl
  | cons c text ih => rw [List.map_cons, literal?, ih]; rfl

theorem readClass_shorter {token : Token} (read : readClass text = some (token, rest)) :
    rest.length < text.length := by
  have cut {inside more after : List Char} (cut : cutClass inside = some (more, after)) :
      after.length < inside.length := by
    rw [cutClass] at cut
    split at cut
    · cases cut
    · rename_i first ends found
      obtain ⟨_, rfl⟩ := Prod.mk.inj (Option.some.inj cut)
      have shorter := (List.dropWhile_suffix (· != ']') (l := inside)).length_le
      rw [found, List.length_cons] at shorter
      omega
  unfold readClass at read
  split at read
  · obtain ⟨⟨more, after⟩, found, read⟩ := Option.bind_eq_some_iff.mp read
    obtain ⟨_, rfl⟩ := Prod.mk.inj (Option.some.inj read)
    have shorter := cut found
    simp only [List.length_cons]
    omega
  · cases read
  · obtain ⟨⟨more, after⟩, found, read⟩ := Option.bind_eq_some_iff.mp read
    obtain ⟨_, rfl⟩ := Prod.mk.inj (Option.some.inj read)
    have shorter := cut found
    simp only [List.length_cons]
    omega
  · cases read

/-- Whether a pattern is well formed depends on what is left of it and the character before that. -/
theorem readTokens_isSome {fuel more : Nat} (enough : text.length < fuel)
    (enough' : text.length < more) (tokens others : List Token) :
    (readTokens fuel before tokens text).isSome = (readTokens more before others text).isSome := by
  induction fuel generalizing more before tokens others text with
  | zero => omega
  | succ fuel ih =>
      obtain ⟨more, rfl⟩ : ∃ k, more = k + 1 := ⟨more - 1, by omega⟩
      rw [readTokens.eq_def, readTokens.eq_def]
      dsimp only
      split
      · rfl
      · simp only [List.length_cons] at enough enough'
        exact ih (by omega) (by omega) _ _
      · rfl
      · split
        · rfl
        · simp only [List.length_cons] at enough enough'
          split
          · rfl
          · simp only [List.length_cons] at enough enough'
            exact ih (by omega) (by omega) _ _
          · rfl
      · simp only [List.length_cons] at enough enough'
        exact ih (by omega) (by omega) _ _
      · simp only [List.length_cons] at enough enough'
        split
        · rename_i found
          have shorter := readClass_shorter found
          exact ih (by omega) (by omega) _ _
        · rfl
      · simp only [List.length_cons] at enough enough'
        exact ih (by omega) (by omega) _ _

theorem parse?_isSome {front : List Char} (plain : front.any isWild = false)
    (ended : front.getLast? = some '/') (inner : List Char) :
    (parse? (front ++ inner)).isSome = (parse? ('/' :: inner)).isSome := by
  have long := @readTokens_literals none [] front inner (inner.length + 1) plain
  have short := @readTokens_literal none [] inner '/' (inner.length + 1) (by decide)
  have size : (front ++ inner).length + 1 = inner.length + 1 + front.length := by
    rw [List.length_append]
    omega
  rw [parse?, parse?, size, long, List.length_cons, short, ended]
  exact readTokens_isSome (Nat.lt_succ_self _) (Nat.lt_succ_self _) _ _

theorem mapM_literals {place : Location} (literal : LiteralPlace place) (pieces : List (List Char)) :
    (place.map String.toList ++ pieces).mapM parse?
      = (pieces.mapM parse?).map (place.map literalStep ++ ·) := by
  induction place with
  | nil => simp
  | cons name place ih =>
      have own := parse?_literal (literal name List.mem_cons_self)
      have others : LiteralPlace place := fun other member => literal other (List.mem_cons_of_mem _ member)
      rw [List.map_cons, List.cons_append, List.mapM_cons, own, ih others]
      cases pieces.mapM parse? <;> rfl

section Root

variable {root : Location}

theorem LiteralPlace.front (plain : PlainPlace root) (literal : LiteralPlace root) :
    (pathOf root).front.any isWild = false := by
  have joined : (Text.join ['/'] (root.map String.toList)).any isWild = false := by
    rw [List.any_eq_false]
    intro c member
    rcases Text.mem_join member with slash | ⟨piece, listed, inside⟩
    · obtain rfl := List.mem_singleton.mp slash
      decide
    · obtain ⟨name, named, rfl⟩ := List.mem_map.mp listed
      exact List.any_eq_false.mp (literal name named) c inside
  rw [front_pathOf plain]
  split
  · rfl
  · rw [pathOf_text, List.any_append, List.any_cons, joined]
    rfl

theorem front_ended (plain : PlainPlace root) : (pathOf root).front.getLast? = some '/' := by
  rw [front_pathOf plain]
  split
  · rfl
  · rw [List.getLast?_append]
    rfl

/-- The pieces of a pattern below a root are the names of the root and its own. -/
theorem splitOn_front (plain : PlainPlace root) (inner : List Char) :
    Text.splitOn '/' (((pathOf root).front ++ inner).drop 1)
      = root.map String.toList ++ Text.splitOn '/' inner := by
  rw [front_pathOf plain]
  split
  · rename_i none'
    subst none'
    rfl
  · rename_i some'
    rw [pathOf_text, List.cons_append, List.cons_append, List.drop_succ_cons, List.drop_zero,
      List.append_assoc, List.singleton_append, Text.splitOn_append,
      Text.splitOn_join (by simpa using some') plain.whole]

/-- The steps of a pattern below a literal root are those of the root and its own. -/
theorem steps?_root (plain : PlainPlace root) (literal : LiteralPlace root) (inner : List Char)
    (relative : isAbsolute ⟨String.ofList inner⟩ = false) :
    steps? ((pathOf root).join ⟨String.ofList inner⟩).text.toList
      = (steps? ('/' :: inner)).map (root.map literalStep ++ ·) := by
  have some' := Text.splitOn_ne_nil '/' inner
  -- an empty piece at the end, after a separator, is left out in both
  have last : (root.map String.toList ++ Text.splitOn '/' inner).getLast?
      = (Text.splitOn '/' inner).getLast? := by
    rw [List.getLast?_append, List.getLast?_eq_some_getLast some', Option.some_or]
  have cut : (if (root.map String.toList ++ Text.splitOn '/' inner).getLast? == some [] then
        (root.map String.toList ++ Text.splitOn '/' inner).dropLast
      else root.map String.toList ++ Text.splitOn '/' inner)
        = root.map String.toList ++ (if (Text.splitOn '/' inner).getLast? == some [] then
            (Text.splitOn '/' inner).dropLast
          else Text.splitOn '/' inner) := by
    rw [last]
    split
    · rw [List.dropLast_append_of_ne_nil some']
    · rfl
  have valid := parse?_isSome (literal.front plain) (front_ended plain) inner
  rw [join_text relative, String.toList_ofList, steps?, steps?]
  dsimp only
  rw [splitOn_front plain, cut, mapM_literals literal, List.drop_succ_cons, List.drop_zero]
  cases whole : parse? ((pathOf root).front ++ inner) with
  | none =>
      have own : parse? ('/' :: inner) = none := by simpa [whole] using valid
      rw [own]
      rfl
  | some tokens =>
      rw [whole] at valid
      obtain ⟨others, own⟩ := Option.isSome_iff_exists.mp valid.symm
      rw [own]
      rfl

end Root

end MonorepoCheck.Glob
