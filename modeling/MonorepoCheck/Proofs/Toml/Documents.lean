import MonorepoCheck.Proofs.Text.Splitting
import MonorepoCheck.Proofs.Toml.Tables
import MonorepoCheck.Proofs.Toml.Values

/-!
A document that was printed is read back: first the statements of its sections, then the table that
they build.
-/
namespace MonorepoCheck.Toml

open Text

section Names

variable {c : Char} {name rest : List Char}

/-- A name that is written without quotes. -/
def IsBare (name : List Char) : Prop := name ≠ [] ∧ name.all isKeyChar = true

instance : Decidable (IsBare name) := inferInstanceAs (Decidable (_ ∧ _))

theorem IsBare.keys (bare : IsBare name) : ∀ c ∈ name, isKeyChar c = true :=
  List.all_eq_true.mp bare.2

theorem isKeyChar_ne (key : isKeyChar c = true) {d : Char} (other : isKeyChar d = false) :
    c ≠ d := by
  rintro rfl
  simp [key] at other

theorem isSpace_of_isKeyChar (key : isKeyChar c = true) : isSpace c = false := by
  simp [isSpace, isKeyChar_ne key (d := ' ') (by decide), isKeyChar_ne key (d := '\t') (by decide)]

theorem IsBare.starts (bare : IsBare name) (rest : List Char) : StartsValue (name ++ rest) := by
  obtain ⟨c, more, rfl⟩ := List.exists_cons_of_ne_nil bare.1
  have key := bare.keys c List.mem_cons_self
  exact ⟨c, more ++ rest, rfl, isSpace_of_isKeyChar key, isKeyChar_ne key (by decide),
    isKeyChar_ne key (by decide), isKeyChar_ne key (by decide)⟩

theorem readName_bare (bare : IsBare name) (ends : rest.head?.any isKeyChar = false) :
    readName (name ++ rest) = some (String.ofList name, rest) := by
  have taken := takeWhile_run bare.keys ends
  have left := dropWhile_run bare.keys ends
  obtain ⟨c, more, rfl⟩ := List.exists_cons_of_ne_nil bare.1
  have key := bare.keys c List.mem_cons_self
  unfold readName
  split
  case h_1 same => exact absurd (List.cons.inj same).1 (isKeyChar_ne key (by decide))
  case h_2 same => exact absurd (List.cons.inj same).1 (isKeyChar_ne key (by decide))
  case h_3 =>
    rw [taken, left]

theorem skipSpace_bare (bare : IsBare name) (rest : List Char) :
    skipSpace (name ++ rest) = name ++ rest :=
  skipSpace_blanks (List.forall_mem_nil _) (bare.starts rest)

/-- A path of bare names with points between them, up to what follows it. -/
theorem readNames_join {names : List (List Char)} {fuel : Nat} (some' : names ≠ [])
    (bare : ∀ name ∈ names, IsBare name) (ends : rest.head?.any isKeyChar = false)
    (last : (skipSpace rest).head? ≠ some '.') (enough : names.length ≤ fuel) :
    readNames fuel (join ['.'] names ++ rest) = some (names.map String.ofList, skipSpace rest) := by
  induction names generalizing fuel with
  | nil => exact absurd rfl some'
  | cons name names ih =>
      cases fuel with
      | zero => simp at enough
      | succ fuel =>
          have own := bare name List.mem_cons_self
          cases names with
          | nil =>
              have layout : join ['.'] [name] = name := by simp [join]
              rw [layout, readNames, skipSpace_bare own, readName_bare own ends]
              simp only [Option.bind_eq_bind, Option.bind_some]
              split
              case h_1 point => exact absurd (by rw [point]; rfl) last
              case h_2 => rfl
          | cons second more =>
              have later := ih (List.cons_ne_nil second more)
                (fun name member => bare name (List.mem_cons_of_mem _ member))
                (show (second :: more).length ≤ fuel by simpa using enough)
              have point : skipSpace (['.'] ++ (join ['.'] (second :: more) ++ rest))
                  = '.' :: (join ['.'] (second :: more) ++ rest) := rfl
              rw [join_cons_cons, List.append_assoc, List.append_assoc, readNames,
                skipSpace_bare own, readName_bare own rfl]
              simp only [Option.bind_eq_bind, Option.bind_some, point, later]
              rfl

theorem length_le_join {names : List (List Char)} (bare : ∀ name ∈ names, IsBare name) :
    names.length ≤ (join ['.'] names).length := by
  induction names with
  | nil => exact Nat.zero_le _
  | cons name names ih =>
      have filled := List.length_pos_iff.mpr (bare name List.mem_cons_self).1
      cases names with
      | nil => simpa [join] using Nat.succ_le_of_lt filled
      | cons second more =>
          have later := ih fun name member => bare name (List.mem_cons_of_mem _ member)
          rw [join_cons_cons]
          simp only [List.length_cons, List.length_append] at later ⊢
          omega

theorem readKey_join {names : List (List Char)} (rest : List Char) (some' : names ≠ [])
    (bare : ∀ name ∈ names, IsBare name) (short : names.length < depthLimit)
    (ends : rest.head?.any isKeyChar = false) (last : (skipSpace rest).head? ≠ some '.') :
    readKey (join ['.'] names ++ rest) = some (names.map String.ofList, skipSpace rest) := by
  have enough : names.length ≤ (join ['.'] names ++ rest).length + 1 := by
    have := length_le_join bare
    rw [List.length_append]
    omega
  rw [readKey, readNames_join some' bare ends last enough]
  simp [short]

end Names

section Statements

variable {text rest : List Char} {more : List Statement}

/-- Given a round for every character and one more, a text is read as these statements. -/
def ReadsAs (text : List Char) (statements : List Statement) : Prop :=
  ∀ fuel, text.length < fuel → readStatements fuel text = some statements

theorem readsAs_nil : ReadsAs [] [] := by
  rintro (_ | fuel) enough
  · omega
  · rfl

theorem ReadsAs.blank (reads : ReadsAs rest more) : ReadsAs ('\n' :: rest) more := by
  rintro (_ | fuel) enough
  · omega
  · exact reads fuel (by simpa using enough)

theorem ReadsAs.statement {statement : Statement} (starts : StartsValue text)
    (read : readStatement text = some (statement, rest)) (shorter : rest.length < text.length)
    (reads : ReadsAs rest more) : ReadsAs text (statement :: more) := by
  rintro (_ | fuel) enough
  · omega
  have start : skipSpace text = text := skipSpace_blanks (List.forall_mem_nil _) starts
  have later := reads fuel (by omega)
  obtain ⟨c, tail, rfl, _, notMark, notFeed, notReturn⟩ := starts
  have noComment : skipComment (c :: tail) = c :: tail :=
    skipComment.eq_2 _ fun _ same => notMark (List.cons.inj same).1
  have within : afterLine? (c :: tail) = none := by
    rw [afterLine?, start, noComment]
    exact afterLineEnd?_of_head (by simpa using notFeed) (by simpa using notReturn)
  rw [readStatements, start]
  simp [within, read, later]

theorem afterLine?_feed (rest : List Char) : afterLine? ('\n' :: rest) = some rest := rfl

theorem Field.print_starts {field : Field} (readable : field.Readable) (rest : List Char) :
    StartsValue (field.print ++ rest) := by
  have number (n : Nat) (rest : List Char) : StartsValue (decimal n ++ rest) :=
    IsBare.starts
      ⟨decimal_ne_nil n,
        List.all_eq_true.mpr fun c member => by simp [isKeyChar, decimal_digits member]⟩ rest
  cases field with
  | text value => exact quote_starts value rest
  | texts value =>
      rw [print]
      cases value with
      | nil => exact ⟨'[', ']' :: rest, rfl, by decide⟩
      | cons first others =>
          cases others with
          | nil => exact ⟨'[', _, rfl, by decide⟩
          | cons second more => exact ⟨'[', _, rfl, by decide⟩
  | count value => exact number value rest
  | bool value => cases value <;> exact ⟨_, _, rfl, by decide⟩
  | float value =>
      obtain ⟨whole, fraction, positional⟩ := readable
      rw [print, positional.written, List.append_assoc]
      exact number whole _

/-- The line of a field. -/
def fieldLine (key : String) (field : Field) : List Char :=
  key.toList ++ " = ".toList ++ field.print ++ ['\n']

theorem readStatement_field {key : String} {field : Field} (bare : IsBare key.toList)
    (readable : field.Readable) (rest : List Char) :
    readStatement (fieldLine key field ++ rest) = some (.assign [key] field.value, rest) := by
  let value := field.print ++ '\n' :: rest
  have layout : fieldLine key field ++ rest = key.toList ++ (" = ".toList ++ value) := by
    simp [fieldLine, value]
  have path : readKey (key.toList ++ (" = ".toList ++ value))
      = some ([key], '=' :: ' ' :: value) := by
    have reading := readKey_join (" = ".toList ++ value) (List.cons_ne_nil key.toList [])
      (by simpa using bare) (by simp [depthLimit]) rfl (show some '=' ≠ some '.' by decide)
    simp only [join, List.intercalate_singleton, List.map_cons, List.map_nil,
      String.ofList_toList] at reading
    exact reading
  have start : skipSpace (' ' :: value) = value :=
    skipSpace_blanks (List.forall_mem_singleton.mpr (rfl : isSpace ' ' = true)) (field.print_starts readable _)
  have read : readValue 0 (2 * value.length + 2) value = some (field.value, '\n' :: rest) :=
    field.readValue_print readable rest (by simp only [value, List.length_append]; omega)
  obtain ⟨c, more, written⟩ := List.exists_cons_of_ne_nil bare.1
  have notHeader : c ≠ '[' := isKeyChar_ne (bare.keys c (written ▸ List.mem_cons_self)) (by decide)
  rw [layout, readStatement.eq_3]
  · simp only [path, Option.bind_eq_bind, Option.bind_some, after?, if_true, start, read,
      afterLine?_feed]
    rfl
  · rw [written]
    exact fun _ same => notHeader (List.cons.inj same).1
  · rw [written]
    exact fun _ same => notHeader (List.cons.inj same).1

theorem head_join {names : List (List Char)} (some' : names ≠ [])
    (bare : ∀ name ∈ names, IsBare name) :
    ∃ c more, join ['.'] names = c :: more ∧ isKeyChar c = true := by
  obtain ⟨name, names, rfl⟩ := List.exists_cons_of_ne_nil some'
  have own := bare name List.mem_cons_self
  obtain ⟨c, more, rfl⟩ := List.exists_cons_of_ne_nil own.1
  have key := own.keys c List.mem_cons_self
  cases names with
  | nil => exact ⟨c, more, by simp [join], key⟩
  | cons second others => exact ⟨c, _, by rw [join_cons_cons, List.cons_append], key⟩

theorem readStatement_header {names : List (List Char)} (some' : names ≠ [])
    (bare : ∀ name ∈ names, IsBare name) (short : names.length < depthLimit) (rest : List Char) :
    readStatement ('[' :: (join ['.'] names ++ ']' :: '\n' :: rest))
      = some (.table (names.map String.ofList), rest) := by
  have path := readKey_join (']' :: '\n' :: rest) some' bare short rfl
    (show some ']' ≠ some '.' by decide)
  have closed : after? [']'] (skipSpace (']' :: '\n' :: rest)) = some ('\n' :: rest) := rfl
  obtain ⟨c, more, written, key⟩ := head_join some' bare
  rw [readStatement.eq_2]
  · simp [path, closed, afterLine?_feed]
  · rw [written]
    exact fun _ same => isKeyChar_ne key (by decide) (List.cons.inj same).1

end Statements

section Sections

variable {part : Section} {parts : List Section} {rest : List Char} {more : List Statement}

/-- The names in the header of a section. -/
def Section.names (part : Section) : List (List Char) :=
  match part.header with
  | none => []
  | some name => splitOn '.' name.toList

def Section.path (part : Section) : List String := part.names.map String.ofList

/-- What the table of a section holds. -/
def Section.values (part : Section) : Members :=
  part.fields.map fun (key, field) => (key, field.value)

/-- What a section says. -/
def Section.statements (part : Section) : List Statement :=
  (part.header.toList.map fun _ => .table part.path)
    ++ part.values.map fun (key, value) => .assign [key] value

/-- Whether a section can be read back. -/
structure Section.Readable (part : Section) : Prop where
  names : ∀ name ∈ part.names, IsBare name
  short : part.names.length < depthLimit
  keys : ∀ entry ∈ part.fields, IsBare entry.1.toList
  distinct : (part.fields.map Prod.fst).Nodup
  fields : ∀ entry ∈ part.fields, entry.2.Readable

theorem readsAs_fields {fields : List (String × Field)}
    (keys : ∀ entry ∈ fields, IsBare entry.1.toList)
    (readable : ∀ entry ∈ fields, entry.2.Readable) (reads : ReadsAs rest more) :
    ReadsAs (fields.flatMap (fun (key, field) => fieldLine key field) ++ rest)
      (fields.map (fun (key, field) => .assign [key] field.value) ++ more) := by
  induction fields with
  | nil => exact reads
  | cons entry fields ih =>
      obtain ⟨key, field⟩ := entry
      have bare := keys (key, field) List.mem_cons_self
      have own := readable (key, field) List.mem_cons_self
      have later := ih (fun entry member => keys entry (List.mem_cons_of_mem _ member))
        (fun entry member => readable entry (List.mem_cons_of_mem _ member))
      rw [List.flatMap_cons, List.append_assoc]
      refine .statement ?_ (readStatement_field bare own _) ?_ later
      · simpa only [fieldLine, List.append_assoc] using bare.starts _
      · simp only [fieldLine, List.length_append, List.length_cons]
        omega

theorem Section.reads_print (readable : part.Readable) (reads : ReadsAs rest more) :
    ReadsAs (part.print ++ rest) (part.statements ++ more) := by
  have fields := readsAs_fields readable.keys readable.fields reads
  have bare := readable.names
  have short := readable.short
  rw [Section.print, Section.statements, Section.values, Section.path, List.map_map]
  rw [Section.names] at bare short
  cases header : part.header with
  | none => simpa [fieldLine, Function.comp_def] using fields
  | some name =>
      rw [header] at bare short
      have line := readStatement_header (splitOn_ne_nil '.' name.toList) bare short
        (part.fields.flatMap (fun (key, field) => fieldLine key field) ++ rest)
      rw [join_splitOn] at line
      have whole := ReadsAs.statement ⟨'[', _, rfl, by decide⟩ line
        (by simp only [List.length_cons, List.length_append]; omega) fields
      simpa [Section.names, header, fieldLine, Function.comp_def] using whole

/-- A document is read as what its sections say, one after another. -/
theorem readsAs_print (readable : ∀ part ∈ parts, part.Readable) :
    ReadsAs (print parts) (parts.flatMap Section.statements) := by
  induction parts with
  | nil => exact readsAs_nil
  | cons part parts ih =>
      have own := readable part List.mem_cons_self
      have later := ih fun part member => readable part (List.mem_cons_of_mem _ member)
      cases parts with
      | nil => simpa [print, join] using part.reads_print own readsAs_nil
      | cons second others =>
          have layout : print (part :: second :: others)
              = part.print ++ '\n' :: print (second :: others) := join_cons_cons ['\n'] _ _ _
          rw [layout, List.flatMap_cons]
          exact part.reads_print own later.blank

/-- The table of a printed document is the one that its sections build. -/
theorem parse?_print (readable : ∀ part ∈ parts, part.Readable)
    (noMark : (print parts).head? ≠ some '\ufeff') :
    parse? (print parts) = ofStatements (parts.flatMap Section.statements) := by
  have whole : dropMark (print parts) = print parts :=
    dropMark.eq_2 _ fun _ same => noMark (by rw [same]; rfl)
  rw [parse?, whole, readsAs_print readable _ (Nat.lt_succ_self _)]
  rfl

variable {document : Members → Members} {way : List String} {name : String}
variable {members : Members}

/-- A section under a header adds its table to the one that its header leads to. -/
theorem Section.build (current : List String) {title : String} (around : Around document way)
    (header : part.header = some title) (name : String)
    (spelt : (splitOn '.' title.toList).map String.ofList = way ++ [name])
    (absent : lookup name members = none) (readable : part.Readable) :
    part.statements.foldlM Draft.add ⟨document members, current⟩
      = some ⟨document (members ++ [(name, .table .declared part.values)]), way ++ [name]⟩ := by
  have path : part.path = way ++ [name] := by
    rw [Section.path, Section.names, header]
    exact spelt
  have filled := (around.inside absent).assigns [] part.values
    (by simpa [Section.values, Function.comp_def] using readable.distinct)
  rw [Section.statements, header, path, Option.toList_some, List.map_singleton,
    List.singleton_append, List.foldlM_cons, around.header absent]
  simpa using filled

/-- A section without a header is the start of the document. -/
theorem Section.build_root (header : part.header = none) (readable : part.Readable) :
    part.statements.foldlM Draft.add ⟨[], []⟩ = some ⟨part.values, []⟩ := by
  have filled := around_root.assigns [] part.values
    (by simpa [Section.values, Function.comp_def] using readable.distinct)
  rw [Section.statements, header]
  simpa using filled

/-- What is said from one section to the next turns one draft into another. -/
def Builds (parts : List Section) (before after : Draft) : Prop :=
  (parts.flatMap Section.statements).foldlM Draft.add before = some after

variable {before between after : Draft}

theorem Builds.none : Builds [] after after := rfl

theorem Builds.cons (first : part.statements.foldlM Draft.add before = some between)
    (rest : Builds parts between after) : Builds (part :: parts) before after := by
  rw [Builds, List.flatMap_cons, List.foldlM_append, first]
  exact rest

end Sections
end MonorepoCheck.Toml
