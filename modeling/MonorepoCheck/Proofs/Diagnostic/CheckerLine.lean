import MonorepoCheck.Diagnostic.CheckerLine
import MonorepoCheck.Proofs.Text.Numerals
import MonorepoCheck.Proofs.Text.Splitting
import Mathlib.Data.List.TakeWhile

/-!
The lines that report a diagnostic, as a grammar. A line may split into a file name and a tail at
several places, since file names can hold anything; reading takes the first of them, and only then looks
whether the numbers there can be read.
-/
namespace MonorepoCheck

namespace Text

theorem isDecimalDigit_of_ascii {c : Char} (digit : isAsciiDigit c = true) :
    isDecimalDigit c = true := by
  simp only [isAsciiDigit, Bool.and_eq_true, decide_eq_true_eq, Char.le_def,
    UInt32.le_iff_toNat_le] at digit
  have above : 48 ≤ c.toNat := digit.1
  have below : c.toNat ≤ 57 := digit.2
  apply List.any_eq_true.mpr
  refine ⟨0x30, List.mem_cons_self, ?_⟩
  simp only [Bool.and_eq_true, decide_eq_true_eq]
  omega

/-- Nothing is dropped from the end of a text that ends in another character. -/
theorem dropEndWhile_solid {p : Char → Bool} {text : List Char} {last : Char}
    (ends : text.getLast? = some last) (other : p last = false) : dropEndWhile p text = text := by
  obtain ⟨front, rfl⟩ := List.getLast?_eq_some_iff.mp ends
  rw [dropEndWhile, List.reverse_append, List.reverse_singleton, List.singleton_append,
    List.dropWhile_cons_of_neg (by simp [other]), List.reverse_cons, List.reverse_reverse]

/-- What is dropped from the end is a run of characters of the class, and it is dropped whole. -/
theorem dropEndWhile_spec (p : Char → Bool) (text : List Char) :
    ∃ dropped, text = dropEndWhile p text ++ dropped ∧ (∀ c ∈ dropped, p c = true)
      ∧ ∀ last, (dropEndWhile p text).getLast? = some last → p last = false := by
  refine ⟨(text.reverse.takeWhile p).reverse, ?_, ?_, ?_⟩
  · rw [dropEndWhile, ← List.reverse_append, List.takeWhile_append_dropWhile, List.reverse_reverse]
  · intro c member
    exact List.mem_takeWhile_imp (List.mem_reverse.mp member)
  · intro last ends
    rw [dropEndWhile, List.getLast?_reverse] at ends
    have kept := List.head?_dropWhile_not p text.reverse
    rw [ends] at kept
    simpa using kept

theorem mem_of_trim {c : Char} {text : List Char} (member : c ∈ trim text) : c ∈ text := by
  have inner : c ∈ trimStart text :=
    List.mem_reverse.mp ((List.dropWhile_sublist _).subset (List.mem_reverse.mp member))
  exact (List.dropWhile_sublist _).subset inner

end Text

namespace CheckerLine

section Runs

variable {p : Char → Bool} {run text rest : List Char}

theorem run?_append (rest : List Char) (present : run ≠ []) (inside : ∀ c ∈ run, p c = true)
    (stops : ∀ c, rest.head? = some c → p c = false) :
    run? p (run ++ rest) = some (run, rest) := by
  have stop : rest.takeWhile p = [] ∧ rest.dropWhile p = rest := by
    cases rest with
    | nil => exact ⟨rfl, rfl⟩
    | cons c rest =>
        have outside : ¬ p c = true := by simp [stops c rfl]
        exact ⟨List.takeWhile_cons_of_neg outside, List.dropWhile_cons_of_neg outside⟩
  rw [run?, List.takeWhile_append_of_pos inside, List.dropWhile_append_of_pos inside, stop.1, stop.2,
    List.append_nil]
  cases run with
  | nil => exact absurd rfl present
  | cons c run => rfl

theorem run?_some (found : run? p text = some (run, rest)) :
    text = run ++ rest ∧ run ≠ [] ∧ ∀ c ∈ run, p c = true := by
  rw [run?] at found
  split at found
  · cases found
  · rename_i taken nonempty
    obtain ⟨rfl, rfl⟩ := Prod.mk.inj (Option.some.inj found)
    exact ⟨List.takeWhile_append_dropWhile.symm, nonempty, fun c => List.mem_takeWhile_imp⟩

end Runs

namespace Tail

/-- A tail as a line spells it. -/
def text (tail : Tail) : List Char :=
  ['('] ++ (tail.line ++ ([','] ++ (tail.column ++ ("): error ".toList
    ++ (tail.code ++ (": ".toList ++ tail.message))))))

/-- What the parts of a tail are made of. The digits may be of any script. -/
structure Spelt (tail : Tail) : Prop where
  line_present : tail.line ≠ []
  line_digits : ∀ c ∈ tail.line, Text.isDecimalDigit c = true
  column_present : tail.column ≠ []
  column_digits : ∀ c ∈ tail.column, Text.isDecimalDigit c = true
  code_present : tail.code ≠ []
  code_chars : ∀ c ∈ tail.code, isCodeChar c = true
  one_line : '\n' ∉ tail.message

variable {tail other : Tail} {text : List Char}

theorem read?_text (spelt : tail.Spelt) : read? tail.text = some tail := by
  -- the character after each run is none of its class, so the run ends there
  have comma : Text.isDecimalDigit ',' = false := by decide
  have closing : Text.isDecimalDigit ')' = false := by decide
  have colon : isCodeChar ':' = false := by decide
  have code := run?_append (": ".toList ++ tail.message) spelt.code_present spelt.code_chars
    (by intro c first; obtain rfl := Option.some.inj first; exact colon)
  have column := run?_append ("): error ".toList ++ (tail.code ++ (": ".toList ++ tail.message)))
    spelt.column_present spelt.column_digits
    (by intro c first; obtain rfl := Option.some.inj first; exact closing)
  have line := run?_append ([','] ++ (tail.column ++ ("): error ".toList
    ++ (tail.code ++ (": ".toList ++ tail.message))))) spelt.line_present spelt.line_digits
    (by intro c first; obtain rfl := Option.some.inj first; exact comma)
  have message : tail.message.contains '\n' = false := by simpa using spelt.one_line
  simp only [read?, Tail.text, Text.after?_iff.mpr rfl, Option.bind_eq_bind, Option.bind_some, line,
    column, code, message]
  rfl

theorem read?_some (found : read? text = some tail) : text = tail.text ∧ tail.Spelt := by
  simp only [read?, Option.bind_eq_bind, Option.bind_eq_some_iff] at found
  obtain ⟨afterOpening, opening, ⟨line, afterLine⟩, lineRun, afterComma, comma, ⟨column, afterColumn⟩,
    columnRun, afterError, error, ⟨code, afterCode⟩, codeRun, message, colon, made⟩ := found
  split at made
  · cases made
  · rename_i oneLine
    obtain rfl := Option.some.inj made
    obtain ⟨lineSpelt, linePresent, lineDigits⟩ := run?_some lineRun
    obtain ⟨columnSpelt, columnPresent, columnDigits⟩ := run?_some columnRun
    obtain ⟨codeSpelt, codePresent, codeChars⟩ := run?_some codeRun
    dsimp only at comma error colon
    constructor
    · rw [Text.after?_iff.mp opening, lineSpelt, Text.after?_iff.mp comma, columnSpelt,
        Text.after?_iff.mp error, codeSpelt, Text.after?_iff.mp colon]
      rfl
    · exact ⟨linePresent, lineDigits, columnPresent, columnDigits, codePresent, codeChars,
        by simpa using oneLine⟩

theorem read?_iff : read? text = some tail ↔ text = tail.text ∧ tail.Spelt := by
  constructor
  · exact read?_some
  · rintro ⟨rfl, spelt⟩
    exact read?_text spelt

/-- The parts of a tail can be told from its text. -/
theorem text_injective (left : tail.Spelt) (right : other.Spelt) (same : tail.text = other.text) :
    tail = other :=
  Option.some.inj ((read?_text left).symm.trans (same ▸ read?_text right))

end Tail

/-- A text that is a file name and then a tail. -/
structure Splits (text file : List Char) (tail : Tail) : Prop where
  spelt : text = file ++ tail.text
  present : file ≠ []
  one_line : '\n' ∉ file
  tail_spelt : tail.Spelt

/-- The split of a text after its shortest file name. -/
structure FirstSplit (text file : List Char) (tail : Tail) : Prop extends Splits text file tail where
  shortest : ∀ shorter other, Splits text shorter other → file.length ≤ shorter.length

section Splits

variable {text file rest : List Char} {tail other : Tail} {c : Char}

theorem Splits.unique (split : Splits text file tail) (again : Splits text file other) :
    tail = other :=
  Tail.text_injective split.tail_spelt again.tail_spelt
    (List.append_cancel_left (split.spelt.symm.trans again.spelt))

/-- A text splits after its first character or later. -/
theorem splits_cons (inside : c ≠ '\n') : Splits (c :: rest) file tail ↔
    (file = [c] ∧ Tail.read? rest = some tail) ∨ ∃ more, file = c :: more ∧ Splits rest more tail := by
  constructor
  · rintro ⟨spelt, present, oneLine, tailSpelt⟩
    cases file with
    | nil => exact absurd rfl present
    | cons d more =>
        obtain ⟨rfl, rfl⟩ := List.cons.inj spelt
        cases more with
        | nil => exact .inl ⟨rfl, Tail.read?_text tailSpelt⟩
        | cons e more =>
            have inMore : '\n' ∉ e :: more := fun member => oneLine (List.mem_cons_of_mem _ member)
            exact .inr ⟨e :: more, rfl, rfl, List.cons_ne_nil _ _, inMore, tailSpelt⟩
  · rintro (⟨rfl, read⟩ | ⟨more, rfl, spelt, present, oneLine, tailSpelt⟩)
    · obtain ⟨rfl, tailSpelt⟩ := Tail.read?_some read
      exact ⟨rfl, List.cons_ne_nil _ _, by simpa using Ne.symm inside, tailSpelt⟩
    · have inWhole : '\n' ∉ c :: more := by simp [Ne.symm inside, oneLine]
      exact ⟨by rw [spelt, List.cons_append], List.cons_ne_nil _ _, inWhole, tailSpelt⟩

theorem not_splits_feed : ¬ Splits ('\n' :: rest) file tail := by
  rintro ⟨spelt, present, oneLine, _⟩
  cases file with
  | nil => exact present rfl
  | cons d more =>
      obtain ⟨rfl, _⟩ := List.cons.inj spelt
      exact oneLine List.mem_cons_self

/-- Where a tail follows the first character, the first split is there; elsewhere it is the first
split of the rest. -/
theorem firstSplit_cons (inside : c ≠ '\n') : FirstSplit (c :: rest) file tail ↔
    match Tail.read? rest with
    | some other => file = [c] ∧ tail = other
    | none => ∃ more, file = c :: more ∧ FirstSplit rest more tail := by
  cases read : Tail.read? rest with
  | some other =>
      have here : Splits (c :: rest) [c] other := (splits_cons inside).mpr (.inl ⟨rfl, read⟩)
      constructor
      · rintro ⟨split, shortest⟩
        have short : file.length ≤ 1 := shortest [c] other here
        rcases (splits_cons inside).mp split with ⟨rfl, same⟩ | ⟨more, rfl, later⟩
        · exact ⟨rfl, Option.some.inj (same.symm.trans read)⟩
        · have longer := List.length_pos_iff.mpr later.present
          simp only [List.length_cons] at short
          omega
      · rintro ⟨rfl, rfl⟩
        exact ⟨here, fun shorter _ split => List.length_pos_iff.mpr split.present⟩
  | none =>
      constructor
      · rintro ⟨split, shortest⟩
        rcases (splits_cons inside).mp split with ⟨_, some'⟩ | ⟨more, rfl, later⟩
        · exact absurd (read.symm.trans some') (Option.some_ne_none _).symm
        · refine ⟨more, rfl, later, fun shorter other split' => ?_⟩
          have longer := shortest (c :: shorter) other
            ((splits_cons inside).mpr (.inr ⟨shorter, rfl, split'⟩))
          exact Nat.le_of_succ_le_succ longer
      · rintro ⟨more, rfl, split, shortest⟩
        refine ⟨(splits_cons inside).mpr (.inr ⟨more, rfl, split⟩), fun shorter other split' => ?_⟩
        rcases (splits_cons inside).mp split' with ⟨_, some'⟩ | ⟨fewer, rfl, later⟩
        · exact absurd (read.symm.trans some') (Option.some_ne_none _).symm
        · exact Nat.succ_le_succ (shortest fewer other later)

theorem splitTail?_iff : splitTail? text = some (file, tail) ↔ FirstSplit text file tail := by
  induction text generalizing file with
  | nil =>
      constructor
      · intro none'
        cases none'
      · rintro ⟨⟨spelt, present, _⟩, _⟩
        exact absurd (List.append_eq_nil_iff.mp spelt.symm).1 present
  | cons c rest ih =>
      by_cases feed : c = '\n'
      · subst feed
        constructor
        · intro none'
          cases none'
        · exact fun first => absurd first.toSplits not_splits_feed
      · rw [firstSplit_cons feed, splitTail?, if_neg feed]
        cases read : Tail.read? rest with
        | some other =>
            simp only [Option.some.injEq, Prod.mk.injEq]
            exact and_congr eq_comm eq_comm
        | none =>
            simp only [Option.map_eq_some_iff, Prod.mk.injEq, Prod.exists]
            constructor
            · rintro ⟨more, _, found, rfl, rfl⟩
              exact ⟨more, rfl, ih.mp found⟩
            · rintro ⟨more, rfl, first⟩
              exact ⟨more, tail, ih.mpr first, rfl, rfl⟩

end Splits

/-- Digits that count from one, in ASCII, and denote a number that fits a machine word. -/
structure Denotes (digits : List Char) (n : Nat) : Prop where
  ascii : ∀ c ∈ digits, Text.isAsciiDigit c = true
  value : Text.numeral digits = n
  positive : 1 ≤ n
  fits : n ≤ 2 ^ 64 - 1

theorem position?_iff {digits : List Char} {n : Nat} :
    position? digits = some n ↔ Denotes digits n := by
  have limit : wordLimit = 2 ^ 64 := rfl
  constructor
  · intro found
    obtain ⟨m, read, bounded⟩ := Option.bind_eq_some_iff.mp found
    rw [Text.readNumeral?] at read
    split at read
    · rename_i digitsOnly
      split at bounded
      · rename_i bounds
        obtain rfl := Option.some.inj read
        obtain rfl := Option.some.inj bounded
        rw [limit] at bounds
        have ascii := (Bool.and_eq_true_iff.mp digitsOnly).2
        exact ⟨List.all_eq_true.mp ascii, rfl, bounds.1, by omega⟩
      · cases bounded
    · cases read
  · rintro ⟨ascii, rfl, positive, fits⟩
    have present : digits ≠ [] := by
      rintro rfl
      exact absurd positive (by decide)
    have digitsOnly : (!digits.isEmpty && digits.all Text.isAsciiDigit) = true := by
      simpa [present] using ascii
    have bounds : 0 < Text.numeral digits ∧ Text.numeral digits < wordLimit := by
      rw [limit]
      omega
    rw [position?, Text.readNumeral?, if_pos digitsOnly]
    exact if_pos bounds

theorem denotes_decimal {n : Nat} (positive : 1 ≤ n) (fits : n ≤ 2 ^ 64 - 1) :
    Denotes (Text.decimal n) n :=
  ⟨fun _ => Text.decimal_digits, Text.numeral_decimal n, positive, fits⟩

/-- What a line reports by its file name and tail. -/
structure Reports (file : List Char) (tail : Tail) (found : CheckerLine) : Prop where
  file_name : found.file = String.ofList file
  line : Denotes tail.line found.line
  column : Denotes tail.column found.column
  code : found.code = String.ofList tail.code
  message : found.message = String.ofList (Text.trim tail.message)

/-- A line without the carriage returns at its end. -/
def content (line : List Char) : List Char := Text.dropEndWhile (· == '\r') line

theorem read?_iff {line : List Char} {found : CheckerLine} : read? line = some found ↔
    ∃ file tail, FirstSplit (content line) file tail ∧ Reports file tail found := by
  constructor
  · intro read
    simp only [read?, Option.bind_eq_bind, Option.bind_eq_some_iff] at read
    obtain ⟨⟨file, tail⟩, split, lineNumber, first, column, second, made⟩ := read
    obtain rfl := Option.some.inj made
    have splits := splitTail?_iff.mp split
    exact ⟨file, tail, splits, rfl, position?_iff.mp first, position?_iff.mp second, rfl, rfl⟩
  · rintro ⟨file, tail, splits, fileName, line, column, code, message⟩
    have split : splitTail? (Text.dropEndWhile (· == '\r') _) = _ := splitTail?_iff.mpr splits
    have first := position?_iff.mpr line
    have second := position?_iff.mpr column
    simp only [read?, split, first, second, Option.bind_eq_bind, Option.bind_some]
    rw [← fileName, ← code, ← message]
    rfl

/-- The tail that a report is printed with. -/
def tail (found : CheckerLine) : Tail :=
  ⟨Text.decimal found.line, Text.decimal found.column, found.code.toList, found.message.toList⟩

/-- A report as a line. -/
def printed (found : CheckerLine) : List Char := found.file.toList ++ found.tail.text

section Printed

variable {found : CheckerLine}

/-- A report whose message is trimmed does not end in a carriage return. -/
theorem content_printed (trimmed : Text.trim found.message.toList = found.message.toList) :
    content found.printed = found.printed := by
  obtain ⟨_, _, _, solid⟩ := Text.dropEndWhile_spec Text.isBlank (Text.trimStart found.message.toList)
  have solid' : ∀ last, found.message.toList.getLast? = some last → Text.isBlank last = false := by
    intro last ends
    rw [← trimmed] at ends
    exact solid last ends
  have ends : found.printed.getLast? = some (found.message.toList.getLast?.getD ' ') := by
    simp only [printed, Tail.text, tail, List.getLast?_append]
    cases found.message.toList.getLast? <;> rfl
  apply Text.dropEndWhile_solid ends
  cases message : found.message.toList.getLast? with
  | none => rfl
  | some last =>
      have visible := solid' last message
      have other : last ≠ '\r' := by
        rintro rfl
        exact absurd visible (by decide)
      simpa using other

/-- If a printed report is read back, its parts are those of a tail. -/
theorem tail_spelt {file : List Char} {other : Tail} (spelt : other.Spelt)
    (reports : Reports file other found) : found.tail.Spelt := by
  obtain ⟨_, _, _, code, message⟩ := reports
  constructor
  case line_present => exact Text.decimal_ne_nil _
  case line_digits => exact fun c digit => Text.isDecimalDigit_of_ascii (Text.decimal_digits digit)
  case column_present => exact Text.decimal_ne_nil _
  case column_digits => exact fun c digit => Text.isDecimalDigit_of_ascii (Text.decimal_digits digit)
  case code_present => simpa [tail, code] using spelt.code_present
  case code_chars => simpa [tail, code] using spelt.code_chars
  case one_line =>
      intro feed
      simp only [tail, message, String.toList_ofList] at feed
      exact spelt.one_line (Text.mem_of_trim feed)

/-- A report with numbers in range and a trimmed message is read back from its line exactly if the line
splits after the file name and nowhere before. -/
theorem read?_printed (line : 1 ≤ found.line ∧ found.line ≤ 2 ^ 64 - 1)
    (column : 1 ≤ found.column ∧ found.column ≤ 2 ^ 64 - 1)
    (trimmed : Text.trim found.message.toList = found.message.toList) :
    read? found.printed = some found ↔
      FirstSplit found.printed found.file.toList found.tail := by
  rw [read?_iff, content_printed trimmed]
  constructor
  · rintro ⟨file, other, first, reports⟩
    obtain rfl : found.file.toList = file := by rw [reports.file_name, String.toList_ofList]
    have split : Splits found.printed found.file.toList found.tail :=
      ⟨rfl, first.present, first.one_line, tail_spelt first.tail_spelt reports⟩
    obtain rfl := first.toSplits.unique split
    exact first
  · intro first
    refine ⟨found.file.toList, found.tail, first, ?_⟩
    constructor
    case file_name => exact String.ofList_toList.symm
    case line => exact denotes_decimal line.1 line.2
    case column => exact denotes_decimal column.1 column.2
    case code => exact String.ofList_toList.symm
    case message => exact (congrArg String.ofList trimmed).symm ▸ String.ofList_toList.symm

end Printed

/-- A line is read exactly if it splits into a file name and a tail, and its first split has numbers in
range; the report is what that split says. A file name leaves one tail only. What is printed is read
back, as long as the line splits after the file name and nowhere before. -/
theorem reading_exact :
    (∀ line found, read? line = some found ↔
      ∃ file tail, FirstSplit (content line) file tail ∧ Reports file tail found)
    ∧ (∀ text file tail other, Splits text file tail → Splits text file other → tail = other)
    ∧ ∀ found : CheckerLine, 1 ≤ found.line ∧ found.line ≤ 2 ^ 64 - 1 →
        1 ≤ found.column ∧ found.column ≤ 2 ^ 64 - 1 →
        Text.trim found.message.toList = found.message.toList →
        (read? found.printed = some found ↔
          FirstSplit found.printed found.file.toList found.tail) := by
  refine ⟨fun line found => read?_iff, ?_, ?_⟩
  · intro text file tail other split again
    exact split.unique again
  · intro found line column trimmed
    exact read?_printed line column trimmed

/-- A report on a file whose name holds parentheses. -/
def groupPage : CheckerLine := ⟨"src/(group)/a(1,2).ts", 3, 10, "TS7006", "Parameter 'x'."⟩

theorem reading_exact_groupPage :
    read? groupPage.printed = some groupPage
      ∧ ∀ other, Splits groupPage.printed groupPage.file.toList other → other = groupPage.tail := by
  obtain ⟨_, unique, printed⟩ := reading_exact
  have first : FirstSplit groupPage.printed groupPage.file.toList groupPage.tail :=
    splitTail?_iff.mp (by decide +kernel)
  constructor
  · exact (printed groupPage (by decide) (by decide) (by decide +kernel)).mpr first
  · intro other split
    exact unique _ _ _ _ split first.toSplits

/-- The numbers of the first split count, not those of a later one. -/
example : read? "a(0,1): error A: b(1,1): error B: c".toList = none := by decide +kernel

end CheckerLine
end MonorepoCheck
