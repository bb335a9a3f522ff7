import Mathlib.Data.List.TakeWhile
import MonorepoCheck.Proofs.Json.Literals

/-!
What the readers of string literals and of numbers take is a prefix of the text, and they take the
same prefix whatever follows it, as long as that does not lengthen the literal.
-/
namespace MonorepoCheck.Json

open Text

section Strings

/-- What may stand between the quotes of a string literal: a quote or a backslash only after a
backslash. -/
inductive Enclosed : List Char → Prop where
  | nil : Enclosed []
  | plain {c : Char} {body : List Char} (notQuote : c ≠ '"') (notBackslash : c ≠ '\\')
      (inside : Enclosed body) : Enclosed (c :: body)
  | escape {c : Char} {body : List Char} (inside : Enclosed body) : Enclosed ('\\' :: c :: body)

theorem hexValue?_plain {c : Char} {digit : Nat} (hex : hexValue? c = some digit) :
    c ≠ '"' ∧ c ≠ '\\' := by
  constructor
  all_goals
    rintro rfl
    simp [hexValue?, isAsciiDigit] at hex

theorem hexUnit?_plain {a b c d : Char} {unit : Nat} (read : hexUnit? a b c d = some unit)
    {body : List Char} (inside : Enclosed body) : Enclosed (a :: b :: c :: d :: body) := by
  simp only [hexUnit?, Option.bind_eq_bind, Option.bind_eq_some_iff] at read
  obtain ⟨first, hexA, second, hexB, third, hexC, fourth, hexD, -⟩ := read
  have plainA := hexValue?_plain hexA
  have plainB := hexValue?_plain hexB
  have plainC := hexValue?_plain hexC
  have plainD := hexValue?_plain hexD
  exact .plain plainA.1 plainA.2 (.plain plainB.1 plainB.2 (.plain plainC.1 plainC.2
    (.plain plainD.1 plainD.2 inside)))

/-- A string literal is read from its body and its closing quote alone. -/
theorem readPieces_takes {text rest : List Char} {pieces : List Piece}
    (read : readPieces text = some (pieces, rest)) :
    ∃ body, text = body ++ '"' :: rest ∧ Enclosed body
      ∧ ∀ after, readPieces (body ++ '"' :: after) = some (pieces, after) := by
  -- the reader never looks behind the closing quote, so what follows it may be anything
  fun_induction readPieces text generalizing pieces with
  | case1 => simp at read
  | case2 text =>
      obtain ⟨rfl, rfl⟩ : [] = pieces ∧ text = rest := by simpa using read
      exact ⟨[], rfl, .nil, fun after => by rw [List.nil_append, readPieces]⟩
  | case3 a b c d text ih =>
      simp only [Option.bind_eq_bind, Option.bind_eq_some_iff, Option.pure_def, Option.some.injEq,
        Prod.mk.injEq] at read
      obtain ⟨unit, hex, ⟨more, tail⟩, readTail, rfl, rfl⟩ := read
      obtain ⟨body, rfl, inside, again⟩ := ih readTail
      refine ⟨'\\' :: 'u' :: a :: b :: c :: d :: body, rfl, .escape (hexUnit?_plain hex inside),
        fun after => ?_⟩
      simp [readPieces, hex, again]
  | case4 letter text notUnit ih =>
      simp only [Option.bind_eq_bind, Option.bind_eq_some_iff, Option.pure_def, Option.some.injEq,
        Prod.mk.injEq] at read
      obtain ⟨c, stands, ⟨more, tail⟩, readTail, rfl, rfl⟩ := read
      obtain ⟨body, rfl, inside, again⟩ := ih readTail
      -- the letter `u` opens four digits, and they were not there
      have notU : letter ≠ 'u' := by
        rintro rfl
        simp [escaped?] at stands
      refine ⟨'\\' :: letter :: body, rfl, .escape inside, fun after => ?_⟩
      rw [List.cons_append, List.cons_append, readPieces_letter _ stands notU, again]
      rfl
  | case5 => simp at read
  | case6 c text notQuote _ _ allowed ih =>
      simp only [Option.bind_eq_bind, Option.bind_eq_some_iff, Option.pure_def, Option.some.injEq,
        Prod.mk.injEq] at read
      obtain ⟨⟨more, tail⟩, readTail, rfl, rfl⟩ := read
      obtain ⟨body, rfl, inside, again⟩ := ih readTail
      simp only [Bool.or_eq_true, decide_eq_true_eq, not_or] at allowed
      refine ⟨c :: body, rfl, .plain notQuote allowed.2 inside, fun after => ?_⟩
      rw [List.cons_append, readPieces_plain _ notQuote allowed.2 allowed.1, again]
      rfl

end Strings

section Numbers

/-- Whether a reader takes `taken` for `value` in front of every text that may follow. -/
def Takes {α : Type} (read : List Char → Option (α × List Char)) (follows : List Char → Bool)
    (taken : List Char) (value : α) : Prop :=
  ∀ after, follows after = true → read (taken ++ after) = some (value, after)

/-- The characters that numbers are written with. -/
def inNumber (c : Char) : Bool :=
  isAsciiDigit c || c == '-' || c == '+' || c == '.' || c == 'e' || c == 'E'

/-- Whether digits may end where this text begins. -/
def endsDigits (text : List Char) : Bool := text.head?.all fun c => !isAsciiDigit c

/-- Whether a number may go on with its exponent, or end, where this text begins. -/
def endsFraction (text : List Char) : Bool := text.head?.all fun c => !isAsciiDigit c && c != '.'

theorem startsWithDigit_ends {text : List Char} (ends : endsDigits text = true) :
    startsWithDigit text = false := by
  cases text <;> simp_all [endsDigits, startsWithDigit]

theorem endsFraction_digits {text : List Char} (ends : endsFraction text = true) :
    endsDigits text = true := by
  cases text <;> simp_all [endsDigits, endsFraction]

theorem endsNumber_fraction {text : List Char} (ends : endsNumber text = true) :
    endsFraction text = true := by
  cases text <;> simp_all [endsFraction, endsNumber]

theorem readDigits_takes {text digits rest : List Char}
    (read : readDigits text = some (digits, rest)) :
    text = digits ++ rest ∧ digits ≠ [] ∧ (∀ c ∈ digits, isAsciiDigit c = true)
      ∧ Takes readDigits endsDigits digits digits := by
  have cut : text.takeWhile isAsciiDigit = digits ∧ digits ≠ []
      ∧ text.dropWhile isAsciiDigit = rest := by
    unfold readDigits at read
    split at read
    · simp at read
    · rename_i nonempty
      obtain ⟨rfl, rfl⟩ := by simpa using read
      exact ⟨rfl, nonempty, rfl⟩
  obtain ⟨rfl, nonempty, rfl⟩ := cut
  have all : ∀ c ∈ text.takeWhile isAsciiDigit, isAsciiDigit c = true :=
    fun c member => List.mem_takeWhile_imp member
  refine ⟨List.takeWhile_append_dropWhile.symm, nonempty, all, fun after ends => ?_⟩
  rw [readDigits, takeWhile_digits all (startsWithDigit_ends ends),
    dropWhile_digits all (startsWithDigit_ends ends)]
  split
  · exact absurd ‹_› nonempty
  · rfl

theorem readWhole_zero : Takes readWhole endsDigits ['0'] ['0'] := by
  intro after ends
  cases after with
  | nil => rfl
  | cons c after =>
      have notDigit : isAsciiDigit c = false := by simpa [endsDigits] using ends
      simp [readWhole, notDigit]

theorem readWhole_takes {text whole rest : List Char}
    (read : readWhole text = some (whole, rest)) :
    text = whole ++ rest ∧ whole ≠ [] ∧ (∀ c ∈ whole, isAsciiDigit c = true)
      ∧ Takes readWhole endsDigits whole whole := by
  unfold readWhole at read
  split at read
  case h_1 c rest =>
    split at read
    · simp at read
    obtain ⟨rfl, rfl⟩ := by simpa using read
    exact ⟨rfl, by simp, by simp [isAsciiDigit], readWhole_zero⟩
  case h_2 notZero =>
    obtain ⟨rfl, nonempty, all, takes⟩ := readDigits_takes read
    refine ⟨rfl, nonempty, all, ?_⟩
    obtain ⟨first, more, rfl⟩ := List.exists_cons_of_ne_nil nonempty
    by_cases zero : first = '0'
    · -- a zero is not followed by digits, so it stands alone
      subst zero
      cases more with
      | nil => exact readWhole_zero
      | cons second more => exact (notZero _ _ rfl).elim
    · intro after ends
      rw [List.cons_append,
        readWhole.eq_2 _ (fun c rest same => zero (List.cons.inj same).1)]
      exact takes after ends

theorem inNumber_digit {c : Char} (digit : isAsciiDigit c = true) : inNumber c = true := by
  simp [inNumber, digit]

/-- The characters of a part of a number. The part before it may end where they begin, if this one
may end behind them. -/
structure Part {α : Type} (read : List Char → Option (α × List Char))
    (before ends : List Char → Bool) (taken : List Char) (value : α) : Prop where
  numeric : ∀ c ∈ taken, inNumber c = true
  leads : ∀ after, ends after = true → before (taken ++ after) = true
  takes : Takes read ends taken value

theorem readFraction_part {text rest : List Char} {fraction : Option (List Char)}
    (read : readFraction text = some (fraction, rest)) :
    ∃ taken, text = taken ++ rest ∧ Part readFraction endsDigits endsFraction taken fraction := by
  unfold readFraction at read
  split at read
  case h_1 text =>
    obtain ⟨⟨digits, _⟩, readTail, same⟩ := Option.map_eq_some_iff.mp read
    obtain ⟨rfl, rfl⟩ := by simpa using same
    obtain ⟨rfl, -, all, takes⟩ := readDigits_takes readTail
    refine ⟨'.' :: digits, rfl, ?_, fun after _ => by simp [endsDigits, isAsciiDigit], ?_⟩
    · rintro c (_ | ⟨_, member⟩)
      · decide
      · exact inNumber_digit (all c member)
    · intro after ends
      simp [readFraction, takes after (endsFraction_digits ends)]
  case h_2 =>
    obtain ⟨rfl, rfl⟩ := by simpa using read
    refine ⟨[], rfl, by simp, fun after => endsFraction_digits, fun after ends => ?_⟩
    cases after with
    | nil => rfl
    | cons c after =>
        -- without a point there is no fraction, and what follows begins with none
        have notPoint : c ≠ '.' := by
          rintro rfl
          simp [endsFraction] at ends
        rw [List.nil_append, readFraction.eq_2 _ (fun rest same => notPoint (List.cons.inj same).1)]

theorem readExponent_absent : Part readExponent endsFraction endsNumber [] none :=
  ⟨by simp, fun _ => endsNumber_fraction, fun _ => readExponent_ends⟩

theorem readExponent_present {mark : Char} (marks : mark = 'e' ∨ mark = 'E')
    {sign digits : List Char} (signs : ∀ c ∈ sign, inNumber c = true)
    (all : ∀ c ∈ digits, isAsciiDigit c = true) {value : Option (Bool × List Char)}
    (takes : Takes readExponent endsNumber (mark :: (sign ++ digits)) value) :
    Part readExponent endsFraction endsNumber (mark :: (sign ++ digits)) value := by
  refine ⟨?_, fun after _ => ?_, takes⟩
  · intro c member
    rcases List.mem_cons.mp member with rfl | member
    · rcases marks with rfl | rfl <;> decide
    · rcases List.mem_append.mp member with sign | digit
      · exact signs c sign
      · exact inNumber_digit (all c digit)
  · rcases marks with rfl | rfl <;> simp [endsFraction, isAsciiDigit]

theorem readExponent_part {text rest : List Char} {exponent : Option (Bool × List Char)}
    (read : readExponent text = some (exponent, rest)) :
    ∃ taken, text = taken ++ rest ∧ Part readExponent endsFraction endsNumber taken exponent := by
  unfold readExponent at read
  split at read
  case h_2 =>
    obtain ⟨rfl, rfl⟩ := by simpa using read
    exact ⟨[], rfl, readExponent_absent⟩
  case h_1 mark text =>
  split at read
  case isFalse =>
    obtain ⟨rfl, rfl⟩ := by simpa using read
    exact ⟨[], rfl, readExponent_absent⟩
  case isTrue marks =>
  -- the mark commits the reader to digits, behind either sign or none
  split at read
  case h_1 text =>
    obtain ⟨⟨digits, _⟩, readTail, same⟩ := Option.map_eq_some_iff.mp read
    obtain ⟨rfl, rfl⟩ := by simpa using same
    obtain ⟨rfl, -, all, takes⟩ := readDigits_takes readTail
    refine ⟨mark :: (['-'] ++ digits), rfl,
      readExponent_present marks (List.forall_mem_singleton.mpr rfl) all fun after ends => ?_⟩
    simp [readExponent, marks, takes after (endsFraction_digits (endsNumber_fraction ends))]
  case h_2 text =>
    obtain ⟨⟨digits, _⟩, readTail, same⟩ := Option.map_eq_some_iff.mp read
    obtain ⟨rfl, rfl⟩ := by simpa using same
    obtain ⟨rfl, -, all, takes⟩ := readDigits_takes readTail
    refine ⟨mark :: (['+'] ++ digits), rfl,
      readExponent_present marks (List.forall_mem_singleton.mpr rfl) all fun after ends => ?_⟩
    simp [readExponent, marks, takes after (endsFraction_digits (endsNumber_fraction ends))]
  case h_3 noMinus noPlus =>
    obtain ⟨⟨digits, _⟩, readTail, same⟩ := Option.map_eq_some_iff.mp read
    obtain ⟨rfl, rfl⟩ := by simpa using same
    obtain ⟨rfl, nonempty, all, takes⟩ := readDigits_takes readTail
    refine ⟨mark :: ([] ++ digits), rfl,
      readExponent_present marks (by simp) all fun after ends => ?_⟩
    have tail := takes after (endsFraction_digits (endsNumber_fraction ends))
    obtain ⟨first, more, rfl⟩ := List.exists_cons_of_ne_nil nonempty
    have notMinus : first ≠ '-' := fun same => noMinus _ (by rw [same]; rfl)
    have notPlus : first ≠ '+' := fun same => noPlus _ (by rw [same]; rfl)
    simp only [List.nil_append, List.cons_append, readExponent, if_pos marks]
    split
    · exact absurd (List.cons.inj ‹_›).1 notMinus
    · exact absurd (List.cons.inj ‹_›).1 notPlus
    · exact Option.map_eq_some_iff.mpr ⟨_, tail, rfl⟩

/-- What is read of a number behind its sign. -/
def Unsigned (text : List Char) (parts : NumberParts) (rest : List Char) : Prop :=
  ∃ afterWhole afterFraction, readWhole text = some (parts.whole, afterWhole)
    ∧ readFraction afterWhole = some (parts.fraction, afterFraction)
    ∧ readExponent afterFraction = some (parts.exponent, rest)

theorem unsigned_takes {text rest : List Char} {parts : NumberParts}
    (read : Unsigned text parts rest) :
    ∃ first more, text = first :: more ++ rest ∧ isAsciiDigit first = true
      ∧ (∀ c ∈ first :: more, inNumber c = true)
      ∧ ∀ after, endsNumber after = true → Unsigned (first :: more ++ after) parts after := by
  obtain ⟨afterWhole, afterFraction, readsWhole, readsFraction, readsExponent⟩ := read
  obtain ⟨rfl, nonempty, digits, takesWhole⟩ := readWhole_takes readsWhole
  obtain ⟨fraction, rfl, fractionPart⟩ := readFraction_part readsFraction
  obtain ⟨exponent, rfl, exponentPart⟩ := readExponent_part readsExponent
  obtain ⟨first, more, whole⟩ := List.exists_cons_of_ne_nil nonempty
  have written (after : List Char) : first :: (more ++ fraction ++ exponent) ++ after
      = parts.whole ++ (fraction ++ (exponent ++ after)) := by simp [whole]
  refine ⟨first, more ++ fraction ++ exponent, (written rest).symm, ?_, ?_, ?_⟩
  · exact digits first (by simp [whole])
  · intro c member
    have own : c ∈ parts.whole ∨ c ∈ fraction ∨ c ∈ exponent := by
      simpa [whole, or_assoc] using member
    rcases own with member | member | member
    · exact inNumber_digit (digits c member)
    · exact fractionPart.numeric c member
    · exact exponentPart.numeric c member
  · intro after ends
    -- each part ends where the next one begins, and the last one where the text may
    have endsBeforeExponent := exponentPart.leads after ends
    have endsBeforeFraction := fractionPart.leads _ endsBeforeExponent
    rw [written]
    exact ⟨_, _, takesWhole _ endsBeforeFraction, fractionPart.takes _ endsBeforeExponent,
      exponentPart.takes after ends⟩

theorem readNumber_iff {text rest : List Char} {parts : NumberParts} :
    readNumber text = some (parts, rest) ↔
      ∃ unsigned, Unsigned unsigned parts rest
        ∧ (text = '-' :: unsigned ∧ parts.negative = true
          ∨ text = unsigned ∧ text.head? ≠ some '-' ∧ parts.negative = false) := by
  unfold readNumber
  split
  -- the sign is taken off first; the parts behind it do not depend on it
  rename_i negative unsigned signed
  simp only [Option.bind_eq_bind, Option.bind_eq_some_iff, Option.pure_def, Option.some.injEq,
    Prod.mk.injEq, Prod.exists]
  refine Iff.trans (b := Unsigned unsigned parts rest ∧ parts.negative = negative) ?_ ?_
  · constructor
    · rintro ⟨whole, afterWhole, readsWhole, fraction, afterFraction, readsFraction, exponent, _,
        readsExponent, rfl, rfl⟩
      exact ⟨⟨afterWhole, afterFraction, readsWhole, readsFraction, readsExponent⟩, rfl⟩
    · rintro ⟨⟨afterWhole, afterFraction, readsWhole, readsFraction, readsExponent⟩, rfl⟩
      exact ⟨_, afterWhole, readsWhole, _, afterFraction, readsFraction, _, rest, readsExponent,
        rfl, rfl⟩
  split at signed
  case h_1 tail =>
    obtain ⟨rfl, rfl⟩ := by simpa using signed
    constructor
    · rintro ⟨read, negative⟩
      exact ⟨tail, read, .inl ⟨rfl, negative⟩⟩
    · rintro ⟨unsigned, read, ⟨same, negative⟩ | ⟨-, notSigned, -⟩⟩
      · exact ⟨(List.cons.inj same).2 ▸ read, negative⟩
      · simp at notSigned
  case h_2 notSigned =>
    obtain ⟨rfl, rfl⟩ := by simpa using signed
    have noSign : text.head? ≠ some '-' := by
      intro starts
      obtain ⟨more, same⟩ := List.head?_eq_some_iff.mp starts
      exact notSigned more same
    constructor
    · rintro ⟨read, positive⟩
      exact ⟨text, read, .inr ⟨rfl, noSign, positive⟩⟩
    · rintro ⟨unsigned, read, ⟨rfl, -⟩ | ⟨rfl, -, positive⟩⟩
      · simp at noSign
      · exact ⟨read, positive⟩

/-- A number is read from characters of its own, in front of all that may follow a number. -/
theorem readNumber_takes {text rest : List Char} {parts : NumberParts}
    (read : readNumber text = some (parts, rest)) :
    ∃ first more, text = first :: more ++ rest ∧ (first = '-' ∨ isAsciiDigit first = true)
      ∧ (∀ c ∈ first :: more, inNumber c = true)
      ∧ Takes readNumber endsNumber (first :: more) parts := by
  obtain ⟨unsigned, behindSign, signed⟩ := readNumber_iff.mp read
  obtain ⟨first, more, rfl, digit, numeric, again⟩ := unsigned_takes behindSign
  obtain ⟨rfl, negative⟩ | ⟨rfl, notSigned, positive⟩ := signed
  · refine ⟨'-', first :: more, rfl, .inl rfl, ?_, fun after ends => ?_⟩
    · rintro c (_ | ⟨_, member⟩)
      · decide
      · exact numeric c member
    · exact readNumber_iff.mpr ⟨_, again after ends, .inl ⟨rfl, negative⟩⟩
  · exact ⟨first, more, rfl, .inr digit, numeric, fun after ends =>
      readNumber_iff.mpr ⟨_, again after ends, .inr ⟨rfl, notSigned, positive⟩⟩⟩

end Numbers

end MonorepoCheck.Json
