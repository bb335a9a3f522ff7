import MonorepoCheck.Proofs.Text.Numerals
import MonorepoCheck.Toml.Printer
import MonorepoCheck.Toml.Quoted

/-!
A text that was quoted is read back, whichever quotes were chosen for it. What follows it must not
begin with the closing quote.
-/
namespace MonorepoCheck.Toml

open Text

/-- Given a round for every character and one more, `read` takes the front of `text` for `chars`
and stops before `rest`. -/
def Reads (read : Nat → List Char → Option (List Char × List Char))
    (text chars rest : List Char) : Prop :=
  ∀ fuel, text.length < fuel → read fuel text = some (chars, rest)

section Characters

variable {c : Char}

/-- How a character may be written between double quotes. -/
inductive Escaped (c : Char) : List Char → Prop where
  | plain (notQuote : c ≠ '"') (notBackslash : c ≠ '\\') (stands : isPlain c = true) :
      Escaped c [c]
  | code (letter : Char) (more : List Char) (notBlank : isSpace letter = false)
      (notEnd : letter ≠ '\n' ∧ letter ≠ '\r')
      (reads : ∀ rest, escaped? (letter :: (more ++ rest)) = some (c, rest)) :
      Escaped c ('\\' :: letter :: more)

theorem isPlain_of_not_control (harmless : isControl c = false) : isPlain c = true := by
  simp only [isControl, Bool.or_eq_false_iff, decide_eq_false_iff_not, beq_eq_false_iff_ne]
    at harmless
  simp only [isPlain, Bool.or_eq_true, Bool.and_eq_true, decide_eq_true_eq, bne_iff_ne]
  exact .inr ⟨by omega, harmless.2⟩

theorem not_end_of_isPlain (plain : isPlain c = true) : c ≠ '\n' ∧ c ≠ '\r' := by
  constructor <;> rintro rfl <;> exact absurd plain (by decide)

theorem scalar?_toNat (c : Char) : scalar? c.toNat = some c := by
  have valid : c.toNat.isValidChar := c.valid
  rw [scalar?, dif_pos valid]
  rfl

theorem escaped?_hexadecimal (small : c.toNat < 256) (rest : List Char) :
    escaped? ('u' :: (['0', '0', upperHexDigit (c.toNat / 16), upperHexDigit c.toNat] ++ rest))
      = some (c, rest) := by
  have zero : hexValue? '0' = some 0 := by decide
  have value : c.toNat / 16 % 16 * 16 + c.toNat % 16 = c.toNat := by omega
  simp [escaped?, hexNumber?, zero, hexValue?_upperHexDigit, value, scalar?_toNat]

theorem escaped_quote : Escaped '"' ['\\', '"'] :=
  .code '"' [] (by decide) (by decide) fun _ => rfl

theorem escaped_escapeChar (notQuote : c ≠ '"') : Escaped c (escapeChar c) := by
  have named (n : Nat) (same : c.toNat = n) : Char.ofNat n = c := by
    rw [← same, Char.ofNat_toNat]
  unfold escapeChar
  split
  case isTrue same => exact .code '\\' [] (by decide) (by decide) fun _ => by rw [same]; rfl
  case isFalse notBackslash =>
  split
  case isTrue same => exact .code 't' [] (by decide) (by decide) fun _ => by rw [same]; rfl
  split
  case isTrue same => exact .code 'n' [] (by decide) (by decide) fun _ => by rw [same]; rfl
  split
  case isTrue same => exact .code 'r' [] (by decide) (by decide) fun _ => by rw [same]; rfl
  split
  case isTrue same =>
    exact .code 'b' [] (by decide) (by decide) fun _ => by rw [← named 8 same]; rfl
  split
  case isTrue same =>
    exact .code 'f' [] (by decide) (by decide) fun _ => by rw [← named 12 same]; rfl
  split
  case isTrue control =>
    have small : c.toNat < 256 := by
      simp only [isControl, Bool.or_eq_true, decide_eq_true_eq, beq_iff_eq] at control
      omega
    exact .code 'u' _ (by decide) (by decide) (escaped?_hexadecimal small)
  case isFalse harmless =>
    exact .plain notQuote notBackslash (isPlain_of_not_control (by simpa using harmless))

theorem Escaped.head {written : List Char} (escaped : Escaped c written) (notQuote : c ≠ '"')
    (rest : List Char) :
    (written ++ rest).head? ≠ some '"' ∧ (written ++ rest).head? ≠ some '\n'
      ∧ (written ++ rest).head? ≠ some '\r' := by
  cases escaped with
  | plain _ _ stands => simpa using And.intro notQuote (not_end_of_isPlain stands)
  | code letter more => simp

theorem afterLineEnd?_of_head {text : List Char} (notFeed : text.head? ≠ some '\n')
    (notReturn : text.head? ≠ some '\r') : afterLineEnd? text = none := by
  cases text with
  | nil => rfl
  | cons c text =>
      rw [afterLineEnd?.eq_3]
      · rintro rest ⟨⟩; exact notFeed rfl
      · rintro rest ⟨⟩; exact notReturn rfl

end Characters

section Spelling

variable {c : Char}

/-- One more character between double quotes on one line. -/
theorem escape_cons (run : Nat) (c : Char) (chars : List Char) :
    ∃ written, Escaped c written
      ∧ escape false run (c :: chars) = written ++ escape false 0 chars := by
  by_cases quote : c = '"'
  · subst quote
    exact ⟨_, escaped_quote, rfl⟩
  · exact ⟨_, escaped_escapeChar quote, by simp [escape, quote]⟩

/-- One more character between triple double quotes, if it is no quote. -/
theorem escape_cons_lines (run : Nat) (notQuote : c ≠ '"') (chars : List Char) :
    c = '\n' ∧ escape true run (c :: chars) = '\n' :: escape true 0 chars
      ∨ c ≠ '\n' ∧ escape true run (c :: chars) = escapeChar c ++ escape true 0 chars := by
  by_cases feed : c = '\n'
  · exact .inl ⟨feed, by simp [escape, feed]⟩
  · exact .inr ⟨feed, by simp [escape, notQuote, feed]⟩

theorem escape_quote_few {run : Nat} (few : run < 2) (chars : List Char) :
    escape true run ('"' :: chars) = '"' :: escape true (run + 1) chars := by
  simp [escape, few]

theorem escape_quote_third {run : Nat} (third : ¬run < 2) (chars : List Char) :
    escape true run ('"' :: chars) = ['\\', '"'] ++ escape true 0 chars := by
  simp [escape, third]

theorem le_longestRun (c : Char) (current : Nat) (text : List Char) :
    current ≤ longestRun c current text := by
  induction text generalizing current with
  | nil => exact Nat.le_refl _
  | cons d text ih =>
      rw [longestRun]
      split
      · exact Nat.le_of_succ_le (ih (current + 1))
      · exact Nat.le_max_left _ _

theorem not_mem_of_longestRun {c : Char} {current : Nat} {text : List Char}
    (none' : longestRun c current text = 0) : c ∉ text := by
  induction text generalizing current with
  | nil => exact List.not_mem_nil
  | cons d text ih =>
      rw [longestRun] at none'
      split at none'
      · have := le_longestRun c (current + 1) text
        omega
      case isFalse other => simp [Ne.symm other, ih (Nat.max_eq_zero_iff.mp none').2]

end Spelling

section OneLine

variable {c : Char} {text chars rest : List Char}

theorem readBasic_escaped {written : List Char} (escaped : Escaped c written)
    (reads : Reads readBasic text chars rest) :
    Reads readBasic (written ++ text) (c :: chars) rest := by
  rintro (_ | fuel) enough
  · omega
  cases escaped with
  | plain notQuote notBackslash stands =>
      have := reads fuel (by simpa using enough)
      simp [readBasic, stands, this]
  | code letter more _ _ decodes =>
      have := reads fuel (by simp at enough; omega)
      simp [readBasic, decodes, this]

theorem readBasic_escape (run : Nat) (chars rest : List Char) :
    Reads readBasic (escape false run chars ++ '"' :: rest) chars rest := by
  induction chars generalizing run with
  | nil =>
      rintro (_ | fuel) enough
      · omega
      · rfl
  | cons c chars ih =>
      obtain ⟨written, escaped, spelt⟩ := escape_cons run c chars
      rw [spelt, List.append_assoc]
      exact readBasic_escaped escaped (ih 0)

theorem readLiteral_plain (plain : ∀ c ∈ chars, c ≠ '\'' ∧ isPlain c = true) :
    readLiteral (chars ++ '\'' :: rest) = some (chars, rest) := by
  induction chars with
  | nil => rfl
  | cons c chars ih =>
      have own := plain c List.mem_cons_self
      have later := ih fun d member => plain d (List.mem_cons_of_mem c member)
      simp [readLiteral, own, later]

end OneLine

section Runs

variable {quote : Char} {read : Nat → List Char → Option (List Char × List Char)}
variable {run : Nat} {text chars rest : List Char}

/-- How a reader of several lines treats a run of quotes: one or two are characters, more end the
text. -/
def TakesRuns (quote : Char) (read : Nat → List Char → Option (List Char × List Char)) : Prop :=
  ∀ fuel text,
    let count := ((quote :: text).takeWhile (· == quote)).length
    read (fuel + 1) (quote :: text) =
      if count < 3 then
        (read fuel ((quote :: text).drop count)).map fun (more, rest) =>
          (List.replicate count quote ++ more, rest)
      else
        some (List.replicate (quotesBeforeEnd count) quote,
          (quote :: text).drop (quotesBeforeEnd count + 3))

theorem readBasicLines_runs : TakesRuns '"' readBasicLines := by
  intro fuel text
  simp only [readBasicLines]
  split
  · cases readBasicLines fuel _ <;> rfl
  · rfl

theorem readLiteralLines_runs : TakesRuns '\'' readLiteralLines := by
  intro fuel text
  simp only [readLiteralLines]
  split
  · cases readLiteralLines fuel _ <;> rfl
  · rfl

theorem length_run (run : Nat) (ends : text.head? ≠ some quote) :
    ((List.replicate run quote ++ text).takeWhile (· == quote)).length = run := by
  rw [List.takeWhile_append_of_pos (by simp)]
  cases text with
  | nil => simp
  | cons c text =>
      have other : c ≠ quote := fun same => ends (congrArg some same)
      simp [other]

/-- The reader at a run of quotes. -/
theorem TakesRuns.at_run (takes : TakesRuns quote read) (ends : text.head? ≠ some quote)
    (fuel : Nat) :
    read (fuel + 1) (List.replicate (run + 1) quote ++ text) =
      if run + 1 < 3 then
        (read fuel text).map fun (more, rest) => (List.replicate (run + 1) quote ++ more, rest)
      else
        some (List.replicate (quotesBeforeEnd (run + 1)) quote,
          (List.replicate (run + 1) quote ++ text).drop (quotesBeforeEnd (run + 1) + 3)) := by
  have count := length_run (run + 1) ends
  have left : (List.replicate (run + 1) quote ++ text).drop (run + 1) = text := by simp
  have reading := takes fuel (List.replicate run quote ++ text)
  rw [List.replicate_succ, List.cons_append] at count left ⊢
  simp only [count, left] at reading
  exact reading

theorem TakesRuns.few (takes : TakesRuns quote read) (few : run < 3)
    (ends : text.head? ≠ some quote) (reads : Reads read text chars rest) :
    Reads read (List.replicate run quote ++ text) (List.replicate run quote ++ chars) rest := by
  intro fuel enough
  match run, fuel with
  | 0, fuel => exact reads fuel (by simpa using enough)
  | run + 1, 0 => omega
  | run + 1, fuel + 1 =>
      have later := reads fuel (by simp at enough; omega)
      rw [takes.at_run ends, if_pos few, later]
      rfl

theorem TakesRuns.close (takes : TakesRuns quote read) (few : run < 3)
    (ends : rest.head? ≠ some quote) :
    Reads read (List.replicate (run + 3) quote ++ rest) (List.replicate run quote) rest := by
  rintro (_ | fuel) enough
  · omega
  · have kept : quotesBeforeEnd (run + 2 + 1) = run := by
      rw [quotesBeforeEnd]
      omega
    rw [takes.at_run ends, if_neg (by omega), kept]
    simp

end Runs

section Lines

variable {c : Char} {run : Nat} {text chars rest : List Char}

theorem readBasicLines_feed (reads : Reads readBasicLines text chars rest) :
    Reads readBasicLines ('\n' :: text) ('\n' :: chars) rest := by
  rintro (_ | fuel) enough
  · omega
  · have := reads fuel (by simpa using enough)
    simp [readBasicLines, afterLineEnd?, this]

theorem readBasicLines_escaped {written : List Char} (escaped : Escaped c written)
    (reads : Reads readBasicLines text chars rest) :
    Reads readBasicLines (written ++ text) (c :: chars) rest := by
  rintro (_ | fuel) enough
  · omega
  cases escaped with
  | plain notQuote notBackslash stands =>
      have later := reads fuel (by simpa using enough)
      have within : afterLineEnd? (c :: text) = none :=
        afterLineEnd?_of_head (by simpa using (not_end_of_isPlain stands).1)
          (by simpa using (not_end_of_isPlain stands).2)
      simp [readBasicLines, within, stands, later]
  | code letter more notBlank notEnd decodes =>
      have later := reads fuel (by simp at enough; omega)
      have within : afterLineEnd? (skipSpace (letter :: (more ++ text))) = none := by
        rw [skipSpace, List.dropWhile_cons_of_neg (by simp [notBlank])]
        exact afterLineEnd?_of_head (by simpa using notEnd.1) (by simpa using notEnd.2)
      simp [readBasicLines, within, decodes, later]

/-- The quotes that stand in front of a text are taken together with those it begins with. -/
theorem readBasicLines_escape (chars : List Char) (run : Nat) (few : run < 3)
    (ends : rest.head? ≠ some '"') :
    Reads readBasicLines
      (List.replicate run '"' ++ (escape true run chars ++ (List.replicate 3 '"' ++ rest)))
      (List.replicate run '"' ++ chars) rest := by
  have takes := readBasicLines_runs
  induction chars generalizing run with
  | nil =>
      rw [escape, List.nil_append, ← List.append_assoc, List.replicate_append_replicate,
        List.append_nil]
      exact takes.close few ends
  | cons c chars ih =>
      have fresh := ih 0 (by omega)
      by_cases quote : c = '"'
      · subst quote
        by_cases room : run < 2
        · have grown := ih (run + 1) (by omega)
          rw [List.replicate_succ', List.append_assoc, List.append_assoc] at grown
          rw [escape_quote_few room]
          exact grown
        · rw [escape_quote_third room, List.append_assoc]
          exact takes.few few (by simp) (readBasicLines_escaped escaped_quote fresh)
      · rcases escape_cons_lines run quote chars with ⟨rfl, spelt⟩ | ⟨_, spelt⟩
        · rw [spelt]
          exact takes.few few (by simp) (readBasicLines_feed fresh)
        · have escaped := escaped_escapeChar quote
          rw [spelt, List.append_assoc]
          exact takes.few few (escaped.head quote _).1 (readBasicLines_escaped escaped fresh)

theorem readLiteralLines_feed (reads : Reads readLiteralLines text chars rest) :
    Reads readLiteralLines ('\n' :: text) ('\n' :: chars) rest := by
  rintro (_ | fuel) enough
  · omega
  · have := reads fuel (by simpa using enough)
    simp [readLiteralLines, afterLineEnd?, this]

theorem readLiteralLines_plain (notQuote : c ≠ '\'') (stands : isPlain c = true)
    (reads : Reads readLiteralLines text chars rest) :
    Reads readLiteralLines (c :: text) (c :: chars) rest := by
  rintro (_ | fuel) enough
  · omega
  · have later := reads fuel (by simpa using enough)
    have within : afterLineEnd? (c :: text) = none :=
      afterLineEnd?_of_head (by simpa using (not_end_of_isPlain stands).1)
        (by simpa using (not_end_of_isPlain stands).2)
    simp [readLiteralLines, within, stands, later]

theorem readLiteralLines_raw (chars : List Char) (run : Nat) (few : longestRun '\'' run chars < 3)
    (stands : ∀ c ∈ chars, c = '\n' ∨ isPlain c = true) (ends : rest.head? ≠ some '\'') :
    Reads readLiteralLines
      (List.replicate run '\'' ++ (chars ++ (List.replicate 3 '\'' ++ rest)))
      (List.replicate run '\'' ++ chars) rest := by
  have takes := readLiteralLines_runs
  induction chars generalizing run with
  | nil =>
      rw [List.nil_append, ← List.append_assoc, List.replicate_append_replicate, List.append_nil]
      exact takes.close few ends
  | cons c chars ih =>
      have before := Nat.lt_of_le_of_lt (le_longestRun '\'' run (c :: chars)) few
      have later := fun d member => stands d (List.mem_cons_of_mem c member)
      rw [longestRun] at few
      by_cases quote : c = '\''
      · subst quote
        have grown := ih (run + 1) (by simpa using few) later
        rw [List.replicate_succ', List.append_assoc, List.append_assoc] at grown
        exact grown
      · rw [if_neg quote] at few
        have fresh := ih 0 (Nat.lt_of_le_of_lt (Nat.le_max_right _ _) few) later
        rcases stands c List.mem_cons_self with rfl | plain
        · exact takes.few before (by simp) (readLiteralLines_feed fresh)
        · exact takes.few before (by simp [quote]) (readLiteralLines_plain quote plain fresh)

end Lines

section Forms

variable {text chars rest : List Char}

theorem dropFirstLineEnd_of_head (notFeed : text.head? ≠ some '\n')
    (notReturn : text.head? ≠ some '\r') : dropFirstLineEnd text = text := by
  rw [dropFirstLineEnd, afterLineEnd?_of_head notFeed notReturn]
  rfl

/-- The line feed in front of a text of several lines is passed over; a text of one line has
none. -/
theorem Reads.started {read : Nat → List Char → Option (List Char × List Char)}
    (reads : Reads read text chars rest)
    (single : '\n' ∉ chars → text.head? ≠ some '\n' ∧ text.head? ≠ some '\r') :
    let whole := (if chars.contains '\n' then ['\n'] else []) ++ text
    read (whole.length + 1) (dropFirstLineEnd whole) = some (chars, rest) := by
  by_cases many : '\n' ∈ chars
  · simpa [many, dropFirstLineEnd, afterLineEnd?] using reads (text.length + 2) (by omega)
  · have start := dropFirstLineEnd_of_head (single many).1 (single many).2
    simpa [many, start] using reads (text.length + 1) (by omega)

theorem head_escape (oneLine : '\n' ∉ chars) (rest : List Char) :
    (escape true 0 chars ++ (List.replicate 3 '"' ++ rest)).head? ≠ some '\n'
      ∧ (escape true 0 chars ++ (List.replicate 3 '"' ++ rest)).head? ≠ some '\r' := by
  cases chars with
  | nil => simp [escape]
  | cons c chars =>
      by_cases quote : c = '"'
      · subst quote
        simp [escape_quote_few]
      · rcases escape_cons_lines 0 quote chars with ⟨rfl, _⟩ | ⟨_, spelt⟩
        · exact absurd List.mem_cons_self oneLine
        · rw [spelt, List.append_assoc]
          exact ((escaped_escapeChar quote).head quote _).2

theorem readQuoted_basic (chars : List Char) (ends : rest.head? ≠ some '"') :
    readQuoted ('"' :: escape false 0 chars ++ ['"'] ++ rest)
      = some (String.ofList chars, rest) := by
  have reading := readBasic_escape 0 chars rest _ (Nat.lt_succ_self _)
  have single : ∀ more, escape false 0 chars ++ '"' :: rest ≠ '"' :: '"' :: more := by
    cases chars with
    | nil =>
        rintro more ⟨⟩
        exact ends rfl
    | cons c chars =>
        obtain ⟨written, escaped, spelt⟩ := escape_cons 0 c chars
        rw [spelt]
        cases escaped with
        | plain notQuote => simp [notQuote]
        | code => simp
  simp only [List.cons_append, List.append_assoc, List.nil_append]
  rw [readQuoted.eq_2 _ single, reading]
  rfl

theorem readQuoted_literal (chars rest : List Char) (filled : chars ≠ [])
    (plain : ∀ c ∈ chars, c ≠ '\'' ∧ isPlain c = true) :
    readQuoted ('\'' :: chars ++ ['\''] ++ rest) = some (String.ofList chars, rest) := by
  have single : ∀ more, chars ++ '\'' :: rest ≠ '\'' :: '\'' :: more := by
    cases chars with
    | nil => exact absurd rfl filled
    | cons c chars =>
        have := (plain c List.mem_cons_self).1
        simp [this]
  simp only [List.cons_append, List.append_assoc, List.nil_append]
  rw [readQuoted.eq_4 _ single, readLiteral_plain plain]
  rfl

theorem readQuoted_basicLines (chars : List Char) (ends : rest.head? ≠ some '"') :
    readQuoted ("\"\"\"".toList ++ (if chars.contains '\n' then ['\n'] else [])
        ++ escape true 0 chars ++ "\"\"\"".toList ++ rest)
      = some (String.ofList chars, rest) := by
  have reading := (readBasicLines_escape chars 0 (by omega) ends).started
    fun oneLine => head_escape oneLine rest
  simp only [List.append_assoc]
  exact congrArg (·.map fun (text, rest) => (String.ofList text, rest)) reading

theorem readQuoted_literalLines (chars rest : List Char) (few : longestRun '\'' 0 chars < 3)
    (stands : ∀ c ∈ chars, c = '\n' ∨ isPlain c = true) (ends : rest.head? ≠ some '\'') :
    readQuoted ("'''".toList ++ (if chars.contains '\n' then ['\n'] else [])
        ++ chars ++ "'''".toList ++ rest)
      = some (String.ofList chars, rest) := by
  have single (oneLine : '\n' ∉ chars) :
      (chars ++ (List.replicate 3 '\'' ++ rest)).head? ≠ some '\n'
        ∧ (chars ++ (List.replicate 3 '\'' ++ rest)).head? ≠ some '\r' := by
    cases chars with
    | nil => simp
    | cons c chars =>
        rcases stands c List.mem_cons_self with rfl | plain
        · exact absurd List.mem_cons_self oneLine
        · simpa using not_end_of_isPlain plain
  have reading := (readLiteralLines_raw chars 0 few stands ends).started single
  simp only [List.append_assoc]
  exact congrArg (·.map fun (text, rest) => (String.ofList text, rest)) reading

theorem isPlain_of_none {c : Char}
    (harmless : (chars.any fun c => isControl c && c != '\t' && c != '\n') = false)
    (member : c ∈ chars) : c = '\n' ∨ isPlain c = true := by
  have own := List.any_eq_false.mp harmless c member
  by_cases tab : c = '\t'
  · exact .inr (by rw [tab]; decide)
  by_cases feed : c = '\n'
  · exact .inl feed
  · exact .inr (isPlain_of_not_control (by simpa [tab, feed] using own))

/-- A text that was quoted is read back, and what follows it is left. -/
theorem readQuoted_quote (text : String) (double : rest.head? ≠ some '"')
    (single : rest.head? ≠ some '\'') : readQuoted (quote text ++ rest) = some (text, rest) := by
  have oneLine := readQuoted_basic text.toList double
  have onLines := readQuoted_basicLines text.toList double
  have literal := readQuoted_literal text.toList rest
  have literalLines := readQuoted_literalLines text.toList rest
  rw [String.ofList_toList] at oneLine onLines literal literalLines
  unfold quote
  dsimp only
  -- the choice is made on the same test that says how a text of several lines starts
  generalize (if text.toList.contains '\n' then ['\n'] else []) = start at onLines literalLines ⊢
  generalize control : (text.toList.any fun c => isControl c && c != '\t' && c != '\n') = unruly
  split
  case isTrue => exact oneLine
  case isFalse notPlain =>
  split
  case isTrue conditions =>
    simp only [Bool.and_eq_true, Bool.not_eq_true', decide_eq_true_eq] at conditions
    obtain ⟨⟨rfl, noFeed⟩, noQuote⟩ := conditions
    refine literal (fun empty => ?_) fun c member => ⟨?_, ?_⟩
    · rw [empty] at notPlain
      exact notPlain (by decide)
    · rintro rfl
      exact not_mem_of_longestRun noQuote member
    · refine (isPlain_of_none control member).resolve_left ?_
      rintro rfl
      exact absurd (List.elem_eq_true_of_mem member) (by simpa using noFeed)
  split
  case isTrue => exact onLines
  split
  case isTrue conditions =>
    simp only [Bool.and_eq_true, Bool.not_eq_true', decide_eq_true_eq] at conditions
    obtain ⟨rfl, few⟩ := conditions
    exact literalLines (Nat.lt_succ_of_le few) (fun c => isPlain_of_none control) single
  split
  case isTrue => exact onLines
  case isFalse => exact oneLine

end Forms
end MonorepoCheck.Toml
