import MonorepoCheck.Proofs.Json.Decorated
import MonorepoCheck.Proofs.Json.Rereading
import MonorepoCheck.Proofs.Text.Splitting

/-!
Every JSON text is a document without decoration, and a document means the same with its blanks and
without them.
-/
namespace MonorepoCheck.Json

section Values

def Literal.value (literal : Literal) : Json :=
  ((ofPieces literal.pieces).map .string).getD .unreadable

mutual

/-- What a document says, inside `depth` other values. -/
def Node.value (depth : Nat) : Node → Json
  | .null => .null
  | .bool truth => .bool truth
  | .number digits => digits.parts.value
  | .literal text => text.value
  | .emptyArray _ => atDepth (depth + 1) (.array [])
  | .array items => atDepth (depth + 1) (.array (items.values (depth + 1)))
  | .emptyObject _ => atDepth (depth + 1) (.object [])
  | .object members => atDepth (depth + 1) (ofMembers (members.values (depth + 1)))

def Items.values (depth : Nat) : Items → List Json
  | .last _ item _ _ => [item.value depth]
  | .more _ item _ rest => item.value depth :: rest.values depth

def Members.values (depth : Nat) : Members → List (Option String × Json)
  | .last key _ value _ _ => [(ofPieces key.literal.pieces, value.value depth)]
  | .more key _ value _ rest =>
    (ofPieces key.literal.pieces, value.value depth) :: rest.values depth

end

end Values

section Reading

/-- Whether nothing but blanks of JSON is shown beside the tokens. -/
def Lexeme.clear (view : View) : Lexeme → Bool
  | .trivia part => (part.text view).all isSpace
  | .extra => (Lexeme.extra.text view).isEmpty
  | _ => true

variable {view : View} {depth fuel : Nat} {rest : List Char}

theorem shown_between_blank {gap : Gap} (clear : (between gap).all (Lexeme.clear view) = true) :
    (shown view (between gap)).all isSpace = true := by
  induction gap with
  | nil => rfl
  | cons trivia gap ih =>
      simp only [between, List.map_cons, List.all_cons, Bool.and_eq_true] at clear
      simp only [between, List.map_cons, shown_cons, List.all_append, Bool.and_eq_true]
      exact ⟨clear.1, ih clear.2⟩

/-- What stands between the last value and its closing bracket. -/
theorem shown_closing_blank {after : Gap} {extra : Option Gap}
    (afterClear : (between after).all (Lexeme.clear view) = true)
    (extraClear : (extraComma extra).all (Lexeme.clear view) = true) :
    (shown view (between after) ++ shown view (extraComma extra)).all isSpace = true := by
  have behindComma : (shown view (extraComma extra)).all isSpace = true := by
    cases extra with
    | none => rfl
    | some gap =>
        simp only [extraComma, List.all_cons, Bool.and_eq_true, Lexeme.clear,
          List.isEmpty_iff] at extraClear
        rw [extraComma, shown_cons, extraClear.1, List.nil_append]
        exact shown_between_blank extraClear.2
  rw [List.all_append, shown_between_blank afterClear, behindComma]
  rfl

theorem readPieces_literal (literal : Literal) :
    readPieces (literal.body ++ '"' :: rest) = some (literal.pieces, rest) := by
  obtain ⟨body, same, -, again⟩ := readPieces_takes literal.reads
  rw [(List.append_inj' same rfl).1]
  exact again rest

theorem readNumber_number (number : Number) (ends : endsNumber rest = true) :
    readNumber (number.chars ++ rest) = some (number.parts, rest) := by
  obtain ⟨first, more, same, -, -, again⟩ := readNumber_takes number.reads
  rw [List.append_nil] at same
  rw [same]
  exact again rest ends

theorem opens_startsValue {c : Char} (starts : startsValue c = true) : opens c = true := by
  simp only [startsValue, Bool.and_eq_true, Bool.not_eq_true', bne_iff_ne] at starts
  have solid : isSpace c = false := by
    by_contra space
    have blank := isBlank_space (Bool.not_eq_false _ ▸ space)
    simp [starts.1.1] at blank
  simp [opens, solid, starts.1.2, starts.2]

theorem node_opens (view : View) (node : Node) :
    ∃ c text, shown view node.lexemes = c :: text ∧ opens c = true := by
  obtain ⟨c, text, same, starts⟩ := node.starts view
  exact ⟨c, text, same, opens_startsValue starts⟩

theorem items_opens {items : Items} (clear : items.lexemes.all (Lexeme.clear view) = true)
    (rest : List Char) :
    ∃ c text, skipSpace (shown view items.lexemes ++ rest) = c :: text ∧ opens c = true := by
  cases items with
  | last before item | more before item =>
      obtain ⟨c, text, same, opening⟩ := node_opens view item
      simp only [Items.lexemes, List.all_append, Bool.and_eq_true] at clear
      simp only [Items.lexemes, shown_append, List.append_assoc, same,
        skipSpace_blanks (shown_between_blank clear.1), List.cons_append,
        skipSpace_solid (opens_solid opening)]
      exact ⟨c, _, rfl, opening⟩

theorem members_opens {members : Members}
    (clear : members.lexemes.all (Lexeme.clear view) = true) (rest : List Char) :
    ∃ c text, skipSpace (shown view members.lexemes ++ rest) = c :: text ∧ opens c = true := by
  cases members with
  | last key | more key =>
      simp only [Members.lexemes, Key.lexemes, List.all_append, Bool.and_eq_true] at clear
      simp only [Members.lexemes, Key.lexemes, shown_append, shown_cons, Lexeme.text,
        List.append_assoc, skipSpace_blanks (shown_between_blank clear.1.1), List.cons_append,
        skipSpace_solid (show isSpace '"' = false by decide)]
      exact ⟨'"', _, rfl, by decide⟩

theorem readValue_emptyArray {blanks : List Char} (blank : blanks.all isSpace = true) :
    readValue depth (fuel + 1) ('[' :: (blanks ++ ']' :: rest))
      = some (atDepth (depth + 1) (.array []), rest) := by
  simp [readValue, skipSpace_solid (show isSpace '[' = false by decide), skipSpace_blanks blank,
    skipSpace_solid (show isSpace ']' = false by decide)]

theorem readValue_emptyObject {blanks : List Char} (blank : blanks.all isSpace = true) :
    readValue depth (fuel + 1) ('{' :: (blanks ++ '}' :: rest))
      = some (atDepth (depth + 1) (.object []), rest) := by
  simp [readValue, skipSpace_solid (show isSpace '{' = false by decide), skipSpace_blanks blank,
    skipSpace_solid (show isSpace '}' = false by decide)]

mutual

/-- A value is read out of a document, given two rounds for each character that is shown of it. -/
theorem readValue_shown (node : Node) (depth fuel : Nat) (rest : List Char)
    (clear : node.lexemes.all (Lexeme.clear view) = true)
    (enough : 2 * (shown view node.lexemes).length ≤ fuel) (ends : endsNumber rest = true) :
    readValue depth fuel (shown view node.lexemes ++ rest) = some (node.value depth, rest) := by
  -- a value shows at least one character, so there is a round to spend on it
  obtain ⟨c, text, starts, -⟩ := node_opens view node
  obtain ⟨fuel, rfl⟩ : ∃ less, fuel = less + 1 := ⟨fuel - 1, by simp [starts] at enough; omega⟩
  match node with
  | .null | .bool true | .bool false =>
      simp [Node.lexemes, Lexeme.text, readValue, skipSpace, isSpace, Node.value]
  | .number digits =>
      obtain ⟨first, more, same, number, -⟩ := readNumber_takes digits.reads
      have read := readNumber_number digits ends
      rw [List.append_nil] at same
      rw [same, List.cons_append] at read
      simpa [Node.lexemes, Lexeme.text, Node.value, same] using readValue_number number read
  | .literal text =>
      simpa [Node.lexemes, Lexeme.text, Node.value, Literal.value]
        using readValue_literal (readPieces_literal text)
  | .emptyArray inside =>
      simp only [Node.lexemes, List.all_cons, List.all_append, Bool.and_eq_true] at clear
      simpa [Node.lexemes, Lexeme.text, Node.value]
        using readValue_emptyArray (shown_between_blank clear.2.1)
  | .emptyObject inside =>
      simp only [Node.lexemes, List.all_cons, List.all_append, Bool.and_eq_true] at clear
      simpa [Node.lexemes, Lexeme.text, Node.value]
        using readValue_emptyObject (shown_between_blank clear.2.1)
  | .array items =>
      simp only [Node.lexemes, List.all_cons, Bool.and_eq_true] at clear
      have inside := readItems_shown items (depth + 1) fuel rest clear.2
        (by simp [Node.lexemes, Lexeme.text] at enough; omega)
      obtain ⟨c, text, starts, opening⟩ := items_opens clear.2 rest
      have read : readValue depth (fuel + 1) ('[' :: (shown view items.lexemes ++ rest)) = _ :=
        readValue_array starts opening
      rw [inside] at read
      exact read
  | .object members =>
      simp only [Node.lexemes, List.all_cons, Bool.and_eq_true] at clear
      have inside := readMembers_shown members (depth + 1) fuel rest clear.2
        (by simp [Node.lexemes, Lexeme.text] at enough; omega)
      obtain ⟨c, text, starts, opening⟩ := members_opens clear.2 rest
      have read : readValue depth (fuel + 1) ('{' :: (shown view members.lexemes ++ rest)) = _ :=
        readValue_object starts opening
      rw [inside] at read
      exact read

theorem readItems_shown (items : Items) (depth fuel : Nat) (rest : List Char)
    (clear : items.lexemes.all (Lexeme.clear view) = true)
    (enough : 2 * (shown view items.lexemes).length ≤ fuel) :
    readItems depth fuel (shown view items.lexemes ++ rest) = some (items.values depth, rest) := by
  match items with
  | .last before item after extra =>
      simp only [Items.lexemes, List.all_append, Bool.and_eq_true] at clear
      obtain ⟨beforeClear, itemClear, afterClear, extraClear, -⟩ := clear
      obtain ⟨fuel, rfl⟩ : ∃ less, fuel = less + 1 :=
        ⟨fuel - 1, by simp [Items.lexemes, Lexeme.text] at enough; omega⟩
      -- comments show as blanks or not at all, and so does the extra comma
      have blank := shown_closing_blank afterClear extraClear
      have value := readValue_shown item depth fuel
        (shown view (between after) ++ shown view (extraComma extra) ++ ']' :: rest) itemClear
        (by simp [Items.lexemes, Lexeme.text] at enough; omega)
        (endsNumber_blanks blank (endsNumber_closing (.inl rfl) rest))
      -- the blanks before an item belong to the reading of the item
      rw [← readValue_blanks (shown_between_blank beforeClear)] at value
      simpa [Items.lexemes, Lexeme.text, Items.values] using readItems_last value blank
  | .more before item after items =>
      simp only [Items.lexemes, List.all_append, List.all_cons, Bool.and_eq_true] at clear
      obtain ⟨beforeClear, itemClear, afterClear, -, itemsClear⟩ := clear
      obtain ⟨fuel, rfl⟩ : ∃ less, fuel = less + 1 :=
        ⟨fuel - 1, by simp [Items.lexemes, Lexeme.text] at enough; omega⟩
      have blank := shown_between_blank afterClear
      have value := readValue_shown item depth fuel
        (shown view (between after) ++ ',' :: (shown view items.lexemes ++ rest)) itemClear
        (by simp [Items.lexemes, Lexeme.text] at enough; omega)
        (endsNumber_blanks blank (endsNumber_comma _))
      have more := readItems_shown items depth fuel rest itemsClear
        (by simp [Items.lexemes, Lexeme.text] at enough; omega)
      rw [← readValue_blanks (shown_between_blank beforeClear)] at value
      simpa [Items.lexemes, Lexeme.text, Items.values] using readItems_more value blank more

theorem readMembers_shown (members : Members) (depth fuel : Nat) (rest : List Char)
    (clear : members.lexemes.all (Lexeme.clear view) = true)
    (enough : 2 * (shown view members.lexemes).length ≤ fuel) :
    readMembers depth fuel (shown view members.lexemes ++ rest)
      = some (members.values depth, rest) := by
  match members with
  | .last key before value after extra =>
      simp only [Members.lexemes, Key.lexemes, List.all_append, List.all_cons,
        Bool.and_eq_true] at clear
      obtain ⟨⟨keyClear, -, colonClear, -⟩, beforeClear, valueClear, afterClear, extraClear, -⟩ :=
        clear
      obtain ⟨fuel, rfl⟩ : ∃ less, fuel = less + 1 :=
        ⟨fuel - 1, by simp [Members.lexemes, Lexeme.text] at enough; omega⟩
      have blank := shown_closing_blank afterClear extraClear
      have read := readValue_shown value depth fuel
        (shown view (between after) ++ shown view (extraComma extra) ++ '}' :: rest) valueClear
        (by simp [Members.lexemes, Lexeme.text] at enough; omega)
        (endsNumber_blanks blank (endsNumber_closing (.inr rfl) rest))
      rw [← readValue_blanks (shown_between_blank beforeClear)] at read
      have step := readMembers_last (shown_between_blank keyClear)
        (readPieces_literal key.literal) (shown_between_blank colonClear) read blank
      simpa [Members.lexemes, Key.lexemes, Lexeme.text, Members.values] using step
  | .more key before value after members =>
      simp only [Members.lexemes, Key.lexemes, List.all_append, List.all_cons,
        Bool.and_eq_true] at clear
      obtain ⟨⟨keyClear, -, colonClear, -⟩, beforeClear, valueClear, afterClear, -, membersClear⟩ :=
        clear
      obtain ⟨fuel, rfl⟩ : ∃ less, fuel = less + 1 :=
        ⟨fuel - 1, by simp [Members.lexemes, Lexeme.text] at enough; omega⟩
      have blank := shown_between_blank afterClear
      have read := readValue_shown value depth fuel
        (shown view (between after) ++ ',' :: (shown view members.lexemes ++ rest)) valueClear
        (by simp [Members.lexemes, Lexeme.text] at enough; omega)
        (endsNumber_blanks blank (endsNumber_comma _))
      have more := readMembers_shown members depth fuel rest membersClear
        (by simp [Members.lexemes, Lexeme.text] at enough; omega)
      rw [← readValue_blanks (shown_between_blank beforeClear)] at read
      have step := readMembers_more (shown_between_blank keyClear)
        (readPieces_literal key.literal) (shown_between_blank colonClear) read blank more
      simpa [Members.lexemes, Key.lexemes, Lexeme.text, Members.values] using step

end

theorem parse?_shown (document : Document)
    (clear : document.lexemes.all (Lexeme.clear view) = true) :
    parse? (shown view document.lexemes) = some (document.node.value 0) := by
  simp only [Document.lexemes, List.all_append, Bool.and_eq_true] at clear
  obtain ⟨beforeClear, nodeClear, afterClear⟩ := clear
  have blank := shown_between_blank afterClear
  -- twice the length of the text is more than the rounds that its value takes
  have read := readValue_shown document.node 0 (2 * (shown view document.lexemes).length + 2)
    (shown view (between document.after) ++ []) nodeClear
    (by simp [Document.lexemes]; omega) (endsNumber_blanks blank rfl)
  rw [← readValue_blanks (shown_between_blank beforeClear), List.append_nil] at read
  have written : shown view document.lexemes = shown view (between document.before)
      ++ (shown view document.node.lexemes ++ shown view (between document.after)) := by
    simp [Document.lexemes]
  have nothing : skipSpace (shown view (between document.after)) = [] := by
    rw [← List.append_nil (shown view (between document.after)), skipSpace_blanks blank]
    rfl
  rw [← written] at read
  simp [parse?, read, nothing]

theorem parse?_bare (document : Document) :
    parse? document.bare = some (document.node.value 0) := by
  refine parse?_shown document (List.all_eq_true.mpr fun lexeme _ => ?_)
  match lexeme with
  | .trivia (.own c space) => simp [Lexeme.clear, Trivia.text, space]
  | .trivia (.blank _ _) | .trivia (.line _ _) | .trivia (.block _ _) | .literal _ | .solid _ _
  | .comma | .extra => rfl

/-- A document without comments and extra commas means what it does undecorated, if the blanks that
were put in are blanks of JSON. -/
theorem parse?_cleaned (document : Document)
    (spaced : ∀ c blank, .trivia (.blank c blank) ∈ document.lexemes → isSpace c = true) :
    parse? document.cleaned = parse? document.bare := by
  rw [parse?_bare]
  refine parse?_shown document (List.all_eq_true.mpr fun lexeme member => ?_)
  match lexeme with
  | .trivia (.own c space) => simp [Lexeme.clear, Trivia.text, space]
  | .trivia (.blank c blank) => simp [Lexeme.clear, Trivia.text, spaced c blank member]
  | .trivia (.line _ _) | .trivia (.block _ _) | .literal _ | .solid _ _ | .comma | .extra => rfl

end Reading

section Completeness

/-- Whether a lexeme belongs to the JSON text itself. -/
def Lexeme.genuine : Lexeme → Bool
  | .trivia (.own _ _) => true
  | .trivia _ => false
  | .extra => false
  | _ => true

theorem shown_genuine {lexemes : List Lexeme} (genuine : lexemes.all Lexeme.genuine = true)
    (view : View) : shown view lexemes = shown .bare lexemes := by
  induction lexemes with
  | nil => rfl
  | cons lexeme lexemes ih =>
      simp only [List.all_cons, Bool.and_eq_true] at genuine
      rw [shown_cons, shown_cons, ih genuine.2]
      match lexeme, genuine.1 with
      | .trivia (.own _ _), _ | .literal _, _ | .solid _ _, _ | .comma, _ => rfl

/-- A text that starts with lexemes of JSON, and what follows them. -/
def Spells (lexemes : List Lexeme) (text rest : List Char) : Prop :=
  lexemes.all Lexeme.genuine = true ∧ text = shown .bare lexemes ++ rest

variable {text middle rest : List Char}

theorem Spells.append {front back : List Lexeme} (first : Spells front text middle)
    (second : Spells back middle rest) : Spells (front ++ back) text rest := by
  obtain ⟨frontGenuine, rfl⟩ := first
  obtain ⟨backGenuine, rfl⟩ := second
  exact ⟨by rw [List.all_append, frontGenuine, backGenuine]; rfl, by simp⟩

theorem Spells.cons {lexeme : Lexeme} {back : List Lexeme} (genuine : lexeme.genuine = true)
    (second : Spells back middle rest) :
    Spells (lexeme :: back) (lexeme.text .bare ++ middle) rest := by
  have first : Spells [lexeme] (lexeme.text .bare ++ middle) middle :=
    ⟨by simp [genuine], by simp⟩
  exact first.append second

/-- Blanks between two tokens. -/
theorem exists_gap (text : List Char) : ∃ gap, Spells (between gap) text (skipSpace text) := by
  induction text with
  | nil => exact ⟨[], rfl, rfl⟩
  | cons c text ih =>
      by_cases space : isSpace c = true
      · obtain ⟨gap, spelt⟩ := ih
        have skipped : skipSpace (c :: text) = skipSpace text := List.dropWhile_cons_of_pos space
        exact ⟨.own c space :: gap, skipped ▸ Spells.cons rfl spelt⟩
      · exact ⟨[], rfl, by rw [skipSpace_solid (Bool.eq_false_iff.mpr space)]; rfl⟩

theorem after?_char {c : Char} (found : Text.after? [c] text = some rest) : text = c :: rest :=
  Text.after?_iff.mp found

theorem spells_literal {pieces : List Piece} (read : readPieces text = some (pieces, rest)) :
    ∃ literal : Literal, literal.pieces = pieces
      ∧ Spells [.literal literal] ('"' :: text) rest := by
  obtain ⟨body, rfl, -, again⟩ := readPieces_takes read
  exact ⟨⟨body, pieces, again []⟩, rfl, rfl, by simp [Lexeme.text]⟩

theorem spells_number {parts : NumberParts} (read : readNumber text = some (parts, rest)) :
    ∃ number : Number, number.parts = parts
      ∧ Spells [.solid number.chars number.solid] text rest := by
  obtain ⟨first, more, rfl, -, -, again⟩ := readNumber_takes read
  have alone := again [] rfl
  rw [List.append_nil] at alone
  exact ⟨⟨first :: more, parts, alone⟩, rfl, rfl, by simp [Lexeme.text]⟩

mutual

/-- What is read as a value is a document without decoration. -/
theorem exists_node (fuel depth : Nat) (text rest : List Char) (json : Json)
    (read : readValue depth fuel text = some (json, rest)) :
    ∃ gap, ∃ node : Node, Spells (between gap ++ node.lexemes) text rest := by
  match fuel with
  | 0 => simp [readValue] at read
  | fuel + 1 =>
    obtain ⟨gap, blanks⟩ := exists_gap text
    -- the blanks in front are a gap; what is left tells by its first character what it is
    suffices found : ∃ node : Node, Spells node.lexemes (skipSpace text) rest by
      obtain ⟨node, spelt⟩ := found
      exact ⟨gap, node, blanks.append spelt⟩
    rw [readValue] at read
    split at read
    case h_1 body starts =>
      simp only [Option.bind_eq_bind, Option.bind_eq_some_iff, Option.pure_def, Option.some.injEq,
        Prod.mk.injEq] at read
      obtain ⟨⟨pieces, tail⟩, readTail, -, rfl⟩ := read
      obtain ⟨literal, -, spelt⟩ := spells_literal readTail
      exact ⟨.literal literal, starts ▸ spelt⟩
    case h_2 body starts =>
      rw [starts]
      split at read
      · rename_i closed
        obtain ⟨-, rfl⟩ := by simpa using read
        obtain ⟨inside, blanks⟩ := exists_gap body
        rw [closed] at blanks
        exact ⟨.emptyArray inside, Spells.cons rfl (blanks.append ⟨rfl, rfl⟩)⟩
      · simp only [Option.bind_eq_bind, Option.bind_eq_some_iff, Option.pure_def,
          Option.some.injEq, Prod.mk.injEq] at read
        obtain ⟨⟨values, tail⟩, readTail, -, rfl⟩ := read
        obtain ⟨items, spelt⟩ := exists_items fuel (depth + 1) body _ values readTail
        exact ⟨.array items, Spells.cons rfl spelt⟩
    case h_3 body starts =>
      rw [starts]
      split at read
      · rename_i closed
        obtain ⟨-, rfl⟩ := by simpa using read
        obtain ⟨inside, blanks⟩ := exists_gap body
        rw [closed] at blanks
        exact ⟨.emptyObject inside, Spells.cons rfl (blanks.append ⟨rfl, rfl⟩)⟩
      · simp only [Option.bind_eq_bind, Option.bind_eq_some_iff, Option.pure_def,
          Option.some.injEq, Prod.mk.injEq] at read
        obtain ⟨⟨values, tail⟩, readTail, -, rfl⟩ := read
        obtain ⟨members, spelt⟩ := exists_members fuel (depth + 1) body _ values readTail
        exact ⟨.object members, Spells.cons rfl spelt⟩
    case h_4 body starts =>
      obtain ⟨-, rfl⟩ := by simpa using read
      exact ⟨.bool true, rfl, starts⟩
    case h_5 body starts =>
      obtain ⟨-, rfl⟩ := by simpa using read
      exact ⟨.bool false, rfl, starts⟩
    case h_6 body starts =>
      obtain ⟨-, rfl⟩ := by simpa using read
      exact ⟨.null, rfl, starts⟩
    case h_7 =>
      simp only [Option.bind_eq_bind, Option.bind_eq_some_iff, Option.pure_def, Option.some.injEq,
        Prod.mk.injEq] at read
      obtain ⟨⟨parts, tail⟩, readTail, -, rfl⟩ := read
      obtain ⟨number, -, spelt⟩ := spells_number readTail
      exact ⟨.number number, spelt⟩

theorem exists_items (fuel depth : Nat) (text rest : List Char) (values : List Json)
    (read : readItems depth fuel text = some (values, rest)) :
    ∃ items : Items, Spells items.lexemes text rest := by
  match fuel with
  | 0 => simp [readItems] at read
  | fuel + 1 =>
    simp only [readItems, Option.bind_eq_bind, Option.bind_eq_some_iff] at read
    obtain ⟨⟨value, behind⟩, readItem, read⟩ := read
    obtain ⟨before, item, itemSpelt⟩ := exists_node fuel depth text behind value readItem
    obtain ⟨after, blanks⟩ := exists_gap behind
    have front := itemSpelt.append blanks
    -- a comma promises another item; the reader has no extra commas, hence none here
    split at read
    case h_1 next starts =>
      simp only [Option.bind_eq_some_iff, Option.pure_def, Option.some.injEq,
        Prod.mk.injEq] at read
      obtain ⟨⟨more, tail⟩, readMore, -, rfl⟩ := read
      obtain ⟨items, itemsSpelt⟩ := exists_items fuel depth next _ more readMore
      refine ⟨.more before item after items, ?_⟩
      rw [starts] at front
      have comma : Spells (.comma :: items.lexemes) (',' :: next) _ := Spells.cons rfl itemsSpelt
      simpa [Items.lexemes] using front.append comma
    case h_2 next starts =>
      obtain ⟨-, rfl⟩ := by simpa using read
      refine ⟨.last before item after none, ?_⟩
      rw [starts] at front
      have closing : Spells [.solid [']'] rfl] (']' :: next) next := ⟨rfl, rfl⟩
      simpa [Items.lexemes, extraComma] using front.append closing
    case h_3 => simp at read

theorem exists_members (fuel depth : Nat) (text rest : List Char)
    (values : List (Option String × Json))
    (read : readMembers depth fuel text = some (values, rest)) :
    ∃ members : Members, Spells members.lexemes text rest := by
  match fuel with
  | 0 => simp [readMembers] at read
  | fuel + 1 =>
    simp only [readMembers, Option.bind_eq_bind, Option.bind_eq_some_iff] at read
    obtain ⟨body, opened, ⟨pieces, behindKey⟩, readKey, behindColon, colon, ⟨value, behind⟩,
      readMember, read⟩ := read
    obtain ⟨literal, -, literalSpelt⟩ := spells_literal readKey
    obtain ⟨beforeKey, blanksBeforeKey⟩ := exists_gap text
    obtain ⟨afterKey, blanksAfterKey⟩ := exists_gap behindKey
    rw [after?_char opened] at blanksBeforeKey
    rw [after?_char colon] at blanksAfterKey
    have colonSpelt : Spells [.solid [':'] rfl] (':' :: behindColon) behindColon := ⟨rfl, rfl⟩
    -- a key takes the blanks on both sides of it and the colon behind them
    have key : Spells (Key.mk beforeKey literal afterKey).lexemes text behindColon := by
      simpa [Key.lexemes] using
        blanksBeforeKey.append (literalSpelt.append (blanksAfterKey.append colonSpelt))
    obtain ⟨before, node, valueSpelt⟩ := exists_node fuel depth behindColon behind value readMember
    obtain ⟨after, blanks⟩ := exists_gap behind
    have front := key.append (valueSpelt.append blanks)
    split at read
    case h_1 next starts =>
      simp only [Option.bind_eq_some_iff, Option.pure_def, Option.some.injEq,
        Prod.mk.injEq] at read
      obtain ⟨⟨more, tail⟩, readMore, -, rfl⟩ := read
      obtain ⟨members, membersSpelt⟩ := exists_members fuel depth next _ more readMore
      refine ⟨.more ⟨beforeKey, literal, afterKey⟩ before node after members, ?_⟩
      rw [starts] at front
      have comma : Spells (.comma :: members.lexemes) (',' :: next) _ :=
        Spells.cons rfl membersSpelt
      simpa [Members.lexemes] using front.append comma
    case h_2 next starts =>
      obtain ⟨-, rfl⟩ := by simpa using read
      refine ⟨.last ⟨beforeKey, literal, afterKey⟩ before node after none, ?_⟩
      rw [starts] at front
      have closing : Spells [.solid ['}'] rfl] ('}' :: next) next := ⟨rfl, rfl⟩
      simpa [Members.lexemes, extraComma] using front.append closing
    case h_3 => simp at read

end

/-- Every JSON text is a document without decoration. -/
theorem exists_document {text : List Char} (valid : (parse? text).isSome = true) :
    ∃ document : Document, document.bare = text ∧ document.decorated = text
      ∧ document.cleaned = text := by
  unfold parse? at valid
  split at valid
  case h_2 => simp at valid
  case h_1 json behind read =>
    obtain ⟨before, node, nodeSpelt⟩ := exists_node _ 0 text behind json read
    obtain ⟨after, blanks⟩ := exists_gap behind
    -- a text is JSON only if nothing but blanks follows its value
    have nothing : skipSpace behind = [] := by
      by_contra more
      simp [more] at valid
    rw [nothing] at blanks
    let document : Document := ⟨before, node, after, none, by simp⟩
    have spelt : Spells document.lexemes text [] := by
      simpa [Document.lexemes, document] using nodeSpelt.append blanks
    obtain ⟨genuine, written⟩ := spelt
    rw [List.append_nil] at written
    refine ⟨document, written.symm, ?_, ?_⟩
    · rw [Document.decorated, shown_genuine genuine, ← written]
      exact List.append_nil text
    · rw [Document.cleaned, shown_genuine genuine, ← written]

/-- JSON is left as it is. -/
theorem plain_json {text : List Char} (valid : (parse? text).isSome = true) :
    plain text = text := by
  obtain ⟨document, -, decorated, cleaned⟩ := exists_document valid
  have kept := plain_document document
  rwa [decorated, cleaned] at kept

end Completeness

end MonorepoCheck.Json
