import MonorepoCheck.Proofs.Json.Layout

/-!
What is written is read back, in every layout. A number past the range of double precision and what
is nested past the limit come back as values that cannot be looked at; all else comes back as it
was.
-/
namespace MonorepoCheck.Json

mutual

/-- Whether no number is kept as a literal. -/
def literalFree (json : Json) : Bool :=
  match json with
  | .decimal _ => false
  | .array items => literalFreeItems items
  | .object members => literalFreeMembers members
  | _ => true
termination_by structural json

def literalFreeItems (items : List Json) : Bool :=
  match items with
  | [] => true
  | item :: rest => item.literalFree && literalFreeItems rest
termination_by structural items

def literalFreeMembers (members : List (String × Json)) : Bool :=
  match members with
  | [] => true
  | (_, value) :: rest => value.literalFree && literalFreeMembers rest
termination_by structural members

end

mutual

/-- What is read where a value inside `depth` others was written. -/
def reread (depth : Nat) (json : Json) : Json :=
  match json with
  | .null => .null
  | .bool value => .bool value
  | .integer value => (integerParts value).value
  | .decimal literal => .decimal literal
  | .string text => .string text
  | .array items => atDepth (depth + 1) (.array (rereadItems (depth + 1) items))
  | .object members => atDepth (depth + 1) (.object (rereadMembers (depth + 1) members))
  | .unreadable => .null
termination_by structural json

def rereadItems (depth : Nat) (items : List Json) : List Json :=
  match items with
  | [] => []
  | item :: rest => reread depth item :: rereadItems depth rest
termination_by structural items

def rereadMembers (depth : Nat) (members : List (String × Json)) : List (String × Json) :=
  match members with
  | [] => []
  | (key, value) :: rest => (key, reread depth value) :: rereadMembers depth rest
termination_by structural members

end

/-- A character that a value may start with: no blank, and no closing bracket. -/
def opens (c : Char) : Bool := !isSpace c && c != ']' && c != '}'

theorem integerText_opens (n : Int) :
    ∃ c text, integerText n = c :: text ∧ (c = '-' ∨ Text.isAsciiDigit c = true) := by
  by_cases negative : n < 0
  · exact ⟨'-', _, if_pos negative, .inl rfl⟩
  · obtain ⟨first, more, written⟩ := List.exists_cons_of_ne_nil (Text.decimal_ne_nil n.natAbs)
    have digit : first ∈ Text.decimal n.natAbs := by simp [written]
    exact ⟨first, more, by rw [integerText, if_neg negative, written],
      .inr (Text.decimal_digits digit)⟩

theorem number_ne {c d : Char} (number : c = '-' ∨ Text.isAsciiDigit c = true)
    (other : d ≠ '-' ∧ Text.isAsciiDigit d = false) : c ≠ d := by
  rintro rfl
  simp_all

theorem opens_number {c : Char} (number : c = '-' ∨ Text.isAsciiDigit c = true) :
    opens c = true := by
  have others (d : Char) (other : d ≠ '-' ∧ Text.isAsciiDigit d = false) := number_ne number other
  simp [opens, isSpace, others ' ' (by decide), others '\n' (by decide), others '\t' (by decide),
    others '\r' (by decide), others ']' (by decide), others '}' (by decide)]

theorem written_opens (layout : Layout) (level : Nat) {json : Json}
    (free : json.literalFree = true) :
    ∃ c text, written layout level json = c :: text ∧ opens c = true := by
  match json with
  | .null | .bool true | .bool false | .string _ | .unreadable | .array [] | .object []
  | .array (_ :: _) | .object (_ :: _) => exact ⟨_, _, rfl, by decide⟩
  | .integer n =>
    obtain ⟨c, text, written, number⟩ := integerText_opens n
    exact ⟨c, text, written, opens_number number⟩
  | .decimal _ => simp [literalFree] at free

section Scalars

variable {depth fuel : Nat} {rest : List Char}

theorem readValue_literal {body : List Char} {pieces : List Piece}
    (read : readPieces body = some (pieces, rest)) :
    readValue depth (fuel + 1) ('"' :: body)
      = some (((ofPieces pieces).map .string).getD .unreadable, rest) := by
  simp [readValue, skipSpace_solid (show isSpace '"' = false by decide), read]

theorem readValue_quote (text : String) :
    readValue depth (fuel + 1) (quote text ++ rest) = some (.string text, rest) := by
  have pieces := readPieces_escaped text.toList rest
  have body : quote text ++ rest = '"' :: (text.toList.flatMap escapeChar ++ '"' :: rest) := by
    simp [quote]
  rw [body, readValue_literal pieces, ofPieces_chars]
  rfl

theorem readValue_number {c : Char} {more : List Char} {parts : NumberParts}
    (number : c = '-' ∨ Text.isAsciiDigit c = true)
    (read : readNumber (c :: more) = some (parts, rest)) :
    readValue depth (fuel + 1) (c :: more) = some (parts.value, rest) := by
  have others (d : Char) (other : d ≠ '-' ∧ Text.isAsciiDigit d = false) := number_ne number other
  have solid : isSpace c = false := by
    have starts := opens_number number
    simp_all [opens]
  rw [readValue, skipSpace_solid solid]
  split
  -- the other readings need a first character that no number has
  all_goals try exact absurd (List.cons.inj ‹_›).1 (others _ (by decide))
  rw [read]
  rfl

theorem readValue_integerText (n : Int) (ends : endsNumber rest = true) :
    readValue depth (fuel + 1) (integerText n ++ rest) = some ((integerParts n).value, rest) := by
  obtain ⟨c, more, written, number⟩ := integerText_opens n
  have read := readNumber_integerText n ends
  rw [written, List.cons_append] at read ⊢
  exact readValue_number number read

end Scalars

/-- Reading the text of an array goes on to its items, unless there is none. -/
theorem readValue_array {depth fuel : Nat} {body : List Char} {c : Char} {text : List Char}
    (starts : skipSpace body = c :: text) (opening : opens c = true) :
    readValue depth (fuel + 1) ('[' :: body) =
      (readItems (depth + 1) fuel body).map fun (items, rest) =>
        (atDepth (depth + 1) (.array items), rest) := by
  have notClosed : c ≠ ']' := by
    rintro rfl
    simp [opens] at opening
  rw [readValue, skipSpace_solid (by decide)]
  simp only [starts]
  split
  · rename_i same
    exact absurd (List.cons.inj same).1 notClosed
  · cases readItems (depth + 1) fuel body <;> rfl

theorem readValue_object {depth fuel : Nat} {body : List Char} {c : Char} {text : List Char}
    (starts : skipSpace body = c :: text) (opening : opens c = true) :
    readValue depth (fuel + 1) ('{' :: body) =
      (readMembers (depth + 1) fuel body).map fun (members, rest) =>
        (atDepth (depth + 1) (ofMembers members), rest) := by
  have notClosed : c ≠ '}' := by
    rintro rfl
    simp [opens] at opening
  rw [readValue, skipSpace_solid (by decide)]
  simp only [starts]
  split
  · rename_i same
    exact absurd (List.cons.inj same).1 notClosed
  · cases readMembers (depth + 1) fuel body <;> rfl

theorem ofMembers_known (members : List (String × Json)) :
    ofMembers (members.map fun member => (some member.1, member.2)) = .object members := by
  have known : (members.map fun member => (some member.1, member.2)).mapM
      (fun member : Option String × Json => member.1.map fun key => (key, member.2))
        = some members := by
    induction members with
    | nil => rfl
    | cons member members ih => simp [ih]
  rw [ofMembers, known]

section Steps

variable {depth fuel : Nat} {body blanks rest : List Char} {json : Json}

theorem readItems_last (read : readValue depth fuel body = some (json, blanks ++ ']' :: rest))
    (blank : blanks.all isSpace = true) :
    readItems depth (fuel + 1) body = some ([json], rest) := by
  rw [readItems, read]
  simp [skipSpace_blanks blank, skipSpace_solid (show isSpace ']' = false by decide)]

theorem readItems_more {next : List Char} {items : List Json}
    (read : readValue depth fuel body = some (json, blanks ++ ',' :: next))
    (blank : blanks.all isSpace = true) (more : readItems depth fuel next = some (items, rest)) :
    readItems depth (fuel + 1) body = some (json :: items, rest) := by
  rw [readItems, read]
  simp [skipSpace_blanks blank, skipSpace_solid (show isSpace ',' = false by decide), more]

variable {before after key text : List Char} {pieces : List Piece}

theorem readMembers_last (beforeBlank : before.all isSpace = true)
    (name : readPieces key = some (pieces, after ++ ':' :: text))
    (afterBlank : after.all isSpace = true)
    (read : readValue depth fuel text = some (json, blanks ++ '}' :: rest))
    (blank : blanks.all isSpace = true) :
    readMembers depth (fuel + 1) (before ++ '"' :: key)
      = some ([(ofPieces pieces, json)], rest) := by
  rw [readMembers, skipSpace_blanks beforeBlank]
  simp [skipSpace_solid (show isSpace '"' = false by decide), Text.after?, name,
    skipSpace_blanks afterBlank, skipSpace_solid (show isSpace ':' = false by decide), read,
    skipSpace_blanks blank, skipSpace_solid (show isSpace '}' = false by decide)]

theorem readMembers_more {next : List Char} {members : List (Option String × Json)}
    (beforeBlank : before.all isSpace = true)
    (name : readPieces key = some (pieces, after ++ ':' :: text))
    (afterBlank : after.all isSpace = true)
    (read : readValue depth fuel text = some (json, blanks ++ ',' :: next))
    (blank : blanks.all isSpace = true)
    (more : readMembers depth fuel next = some (members, rest)) :
    readMembers depth (fuel + 1) (before ++ '"' :: key)
      = some ((ofPieces pieces, json) :: members, rest) := by
  rw [readMembers, skipSpace_blanks beforeBlank]
  simp [skipSpace_solid (show isSpace '"' = false by decide), Text.after?, name,
    skipSpace_blanks afterBlank, skipSpace_solid (show isSpace ':' = false by decide), read, more,
    skipSpace_blanks blank, skipSpace_solid (show isSpace ',' = false by decide)]

end Steps

theorem endsNumber_comma (rest : List Char) : endsNumber (',' :: rest) = true := by
  simp [endsNumber, Text.isAsciiDigit]

/-- A number may end where blanks stand before what ends it. -/
theorem endsNumber_blanks {blanks : List Char} (blank : blanks.all isSpace = true)
    {rest : List Char} (ends : endsNumber rest = true) : endsNumber (blanks ++ rest) = true := by
  cases blanks with
  | nil => exact ends
  | cons d blanks =>
      have space : isSpace d = true := List.all_eq_true.mp blank d List.mem_cons_self
      simp only [isSpace, Bool.or_eq_true, beq_iff_eq] at space
      rcases space with ((rfl | rfl) | rfl) | rfl <;> simp [endsNumber, Text.isAsciiDigit]

theorem endsNumber_closing {c : Char} (closing : c = ']' ∨ c = '}') (rest : List Char) :
    endsNumber (c :: rest) = true := by
  rcases closing with rfl | rfl <;> simp [endsNumber, Text.isAsciiDigit]

variable (layout : Layout)

theorem written_nonempty (level : Nat) {json : Json} (free : json.literalFree = true) :
    0 < (written layout level json).length := by
  obtain ⟨c, text, written, _⟩ := written_opens layout level free
  simp [written]

theorem opens_solid {c : Char} (opening : opens c = true) : isSpace c = false := by
  simp_all [opens]

theorem writtenItems_opens (level : Nat) {item : Json} (items : List Json) (after : List Char)
    (free : item.literalFree = true) :
    ∃ c text, skipSpace (writtenItems layout level (item :: items) ++ after) = c :: text
      ∧ opens c = true := by
  obtain ⟨c, text, starts, opening⟩ := written_opens layout level free
  cases items with
  | nil =>
      refine ⟨c, text ++ after, ?_, opening⟩
      rw [writtenItems, starts, List.append_assoc, skipSpace_blanks (layout.gap_blank level),
        List.cons_append, skipSpace_solid (opens_solid opening)]
  | cons second items =>
      refine ⟨c, text ++ ',' :: (writtenItems layout level (second :: items) ++ after), ?_, opening⟩
      simp [writtenItems, starts, skipSpace_blanks (layout.gap_blank level),
        skipSpace_solid (opens_solid opening)]

theorem writtenMembers_quote (level : Nat) (member : String × Json)
    (members : List (String × Json)) :
    ∃ text, writtenMembers layout level (member :: members) = layout.gap level ++ '"' :: text := by
  cases members <;>
    simp only [writtenMembers, quote, List.append_assoc, List.cons_append] <;>
    exact ⟨_, rfl⟩

theorem writtenMembers_opens (level : Nat) (member : String × Json)
    (members : List (String × Json)) (after : List Char) :
    ∃ c text, skipSpace (writtenMembers layout level (member :: members) ++ after) = c :: text
      ∧ opens c = true := by
  obtain ⟨text, starts⟩ := writtenMembers_quote layout level member members
  refine ⟨'"', text ++ after, ?_, by decide⟩
  rw [starts, List.append_assoc, skipSpace_blanks (layout.gap_blank level), List.cons_append,
    skipSpace_solid (by decide)]

mutual

/-- A value that was written is read back, given two rounds for each of its characters. -/
theorem readValue_written (level depth fuel : Nat) (json : Json) (rest : List Char)
    (free : json.literalFree = true)
    (enough : 2 * (written layout level json).length ≤ fuel) (ends : endsNumber rest = true) :
    readValue depth fuel (written layout level json ++ rest) = some (reread depth json, rest) := by
  have nonempty := written_nonempty layout level free
  obtain ⟨fuel, rfl⟩ : ∃ less, fuel = less + 1 := ⟨fuel - 1, by omega⟩
  match json with
  | .null | .unreadable => simp [written, readValue, skipSpace, isSpace, reread]
  | .bool value => cases value <;> simp [written, readValue, skipSpace, isSpace, reread]
  | .integer n => exact readValue_integerText n ends
  | .string text => exact readValue_quote text
  | .decimal literal => simp [literalFree] at free
  | .array [] => simp [written, readValue, skipSpace, isSpace, reread, rereadItems]
  | .object [] => simp [written, readValue, skipSpace, isSpace, reread, rereadMembers]
  | .array (item :: items) =>
    have frees : item.literalFree = true ∧ literalFreeItems items = true := by
      simpa [literalFree, literalFreeItems] using free
    obtain ⟨c, text, starts, opening⟩ := writtenItems_opens layout (level + 1) items
      (layout.gap level ++ ']' :: rest) frees.1
    have inside := readItems_written (level + 1) (depth + 1) fuel (item :: items) (layout.gap level)
      rest (by simp) free (by simp [written] at enough; omega) (layout.gap_blank level)
    have body : written layout level (.array (item :: items)) ++ rest
        = '[' :: (writtenItems layout (level + 1) (item :: items)
          ++ (layout.gap level ++ ']' :: rest)) := by simp [written]
    rw [body, readValue_array starts opening, inside]
    rfl
  | .object (member :: members) =>
    obtain ⟨c, text, starts, opening⟩ := writtenMembers_opens layout (level + 1) member members
      (layout.gap level ++ '}' :: rest)
    have inside := readMembers_written (level + 1) (depth + 1) fuel (member :: members)
      (layout.gap level) rest (by simp) free (by simp [written] at enough; omega)
      (layout.gap_blank level)
    have body : written layout level (.object (member :: members)) ++ rest
        = '{' :: (writtenMembers layout (level + 1) (member :: members)
          ++ (layout.gap level ++ '}' :: rest)) := by simp [written]
    rw [body, readValue_object starts opening, inside]
    simp only [Option.map_some, ofMembers_known]
    rfl
termination_by structural json

theorem readItems_written (level depth fuel : Nat) (items : List Json) (blanks rest : List Char)
    (some' : items ≠ []) (free : literalFreeItems items = true)
    (enough : 2 * (writtenItems layout level items).length + 1 ≤ fuel)
    (blank : blanks.all isSpace = true) :
    readItems depth fuel (writtenItems layout level items ++ (blanks ++ ']' :: rest))
      = some (rereadItems depth items, rest) := by
  obtain ⟨fuel, rfl⟩ : ∃ less, fuel = less + 1 := ⟨fuel - 1, by omega⟩
  match items with
  | [] => exact absurd rfl some'
  | [item] =>
    have frees : item.literalFree = true := by simpa [literalFreeItems] using free
    have value := readValue_written level depth fuel item (blanks ++ ']' :: rest) frees
      (by simp [writtenItems] at enough; omega)
      (endsNumber_blanks blank (endsNumber_closing (.inl rfl) rest))
    rw [writtenItems, List.append_assoc]
    -- the blanks in front of an item are read as a part of it
    rw [← readValue_blanks (layout.gap_blank level)] at value
    exact readItems_last value blank
  | item :: second :: items =>
    have frees : item.literalFree = true ∧ literalFreeItems (second :: items) = true := by
      simpa [literalFreeItems] using free
    have value := readValue_written level depth fuel item
      (',' :: (writtenItems layout level (second :: items) ++ (blanks ++ ']' :: rest))) frees.1
      (by simp [writtenItems] at enough; omega) (endsNumber_comma _)
    have more := readItems_written level depth fuel (second :: items) blanks rest (by simp) frees.2
      (by simp [writtenItems] at enough ⊢; omega) blank
    rw [← readValue_blanks (layout.gap_blank level)] at value
    have body : writtenItems layout level (item :: second :: items) ++ (blanks ++ ']' :: rest)
        = layout.gap level ++ (written layout level item
          ++ ',' :: (writtenItems layout level (second :: items) ++ (blanks ++ ']' :: rest))) := by
      simp [writtenItems]
    rw [body]
    exact readItems_more value List.all_nil more
termination_by structural items

theorem readMembers_written (level depth fuel : Nat) (members : List (String × Json))
    (blanks rest : List Char) (some' : members ≠ []) (free : literalFreeMembers members = true)
    (enough : 2 * (writtenMembers layout level members).length + 1 ≤ fuel)
    (blank : blanks.all isSpace = true) :
    readMembers depth fuel (writtenMembers layout level members ++ (blanks ++ '}' :: rest))
      = some ((rereadMembers depth members).map fun member => (some member.1, member.2), rest) := by
  obtain ⟨fuel, rfl⟩ : ∃ less, fuel = less + 1 := ⟨fuel - 1, by omega⟩
  match members with
  | [] => exact absurd rfl some'
  | [(key, value)] =>
    have frees : value.literalFree = true := by simpa [literalFreeMembers] using free
    have read := readValue_written level depth fuel value (blanks ++ '}' :: rest) frees
      (by simp [writtenMembers] at enough; omega)
      (endsNumber_blanks blank (endsNumber_closing (.inr rfl) rest))
    rw [← readValue_blanks layout.afterColon_blank] at read
    have body : writtenMembers layout level [(key, value)] ++ (blanks ++ '}' :: rest)
        = layout.gap level ++ '"' :: (key.toList.flatMap escapeChar ++ '"' :: ':'
          :: (layout.afterColon ++ (written layout level value ++ (blanks ++ '}' :: rest)))) := by
      simp [writtenMembers, quote]
    have name := readPieces_escaped key.toList
      (':' :: (layout.afterColon ++ (written layout level value ++ (blanks ++ '}' :: rest))))
    have last := readMembers_last (layout.gap_blank level) name List.all_nil read blank
    rw [body, last, ofPieces_chars]
    rfl
  | (key, value) :: second :: members =>
    have frees : value.literalFree = true ∧ literalFreeMembers (second :: members) = true := by
      simpa [literalFreeMembers] using free
    have read := readValue_written level depth fuel value
      (',' :: (writtenMembers layout level (second :: members) ++ (blanks ++ '}' :: rest))) frees.1
      (by simp [writtenMembers] at enough; omega) (endsNumber_comma _)
    have more := readMembers_written level depth fuel (second :: members) blanks rest (by simp)
      frees.2 (by simp [writtenMembers] at enough ⊢; omega) blank
    rw [← readValue_blanks layout.afterColon_blank] at read
    have body : writtenMembers layout level ((key, value) :: second :: members)
          ++ (blanks ++ '}' :: rest)
        = layout.gap level ++ '"' :: (key.toList.flatMap escapeChar ++ '"' :: ':'
          :: (layout.afterColon ++ (written layout level value
            ++ ',' :: (writtenMembers layout level (second :: members)
              ++ (blanks ++ '}' :: rest))))) := by
      simp [writtenMembers, quote]
    have name := readPieces_escaped key.toList (':' :: (layout.afterColon
      ++ (written layout level value ++ ',' :: (writtenMembers layout level (second :: members)
        ++ (blanks ++ '}' :: rest)))))
    have step := readMembers_more (layout.gap_blank level) name List.all_nil read List.all_nil more
    rw [body, step, ofPieces_chars]
    rfl
termination_by structural members

end

theorem parse?_written (level : Nat) {json : Json} (free : json.literalFree = true) :
    parse? (written layout level json) = some (reread 0 json) := by
  have read := readValue_written layout level 0 (2 * (written layout level json).length + 2) json []
    free (by omega) rfl
  rw [List.append_nil] at read
  simp [parse?, read, skipSpace]

theorem parseText?_prettyText {json : Json} (free : json.literalFree = true) :
    parseText? json.prettyText = some (reread 0 json) := by
  rw [parseText?, prettyText, String.toList_ofList, pretty, prettyAt_eq_written]
  exact parse?_written .indented 0 free

theorem parseText?_compactText {json : Json} (free : json.literalFree = true) :
    parseText? json.compactText = some (reread 0 json) := by
  rw [parseText?, compactText, String.toList_ofList, compact_eq_written 0]
  exact parse?_written .dense 0 free

end MonorepoCheck.Json
