import MonorepoCheck.Json.Comments
import MonorepoCheck.Proofs.Json.Spans

/-!
JSON documents as people write them. Blanks and comments may be put in between any two tokens, and
an extra comma before the closing bracket of an array or an object that is not empty. Taking out
comments and trailing commas takes out exactly those.
-/
namespace MonorepoCheck.Json

/-- What is shown of a document. -/
inductive View where
  /-- the JSON text that was decorated -/
  | bare
  | decorated
  | uncommented
  /-- without comments and extra commas -/
  | cleaned
  deriving DecidableEq, Repr

section Tree

/-- What may stand between two tokens. -/
inductive Trivia where
  /-- a blank of the JSON text itself -/
  | own (c : Char) (space : isSpace c = true)
  | blank (c : Char) (blank : Text.isBlank c = true)
  /-- a comment up to a line feed -/
  | line (comment : List Char) (oneLine : '\n' ∉ comment)
  | block (comment : List Char) (unclosed : ¬['*', '/'] <:+: comment)

abbrev Gap := List Trivia

/-- A string literal, as it stands between its quotes. -/
structure Literal where
  body : List Char
  pieces : List Piece
  reads : readPieces (body ++ ['"']) = some (pieces, [])

structure Number where
  chars : List Char
  parts : NumberParts
  reads : readNumber chars = some (parts, [])

/-- The key of a member, up to its colon. -/
structure Key where
  before : Gap
  literal : Literal
  after : Gap

mutual

inductive Node where
  | null
  | bool (value : Bool)
  | number (number : Number)
  | literal (literal : Literal)
  | emptyArray (inside : Gap)
  | array (items : Items)
  | emptyObject (inside : Gap)
  | object (members : Members)

/-- The items of an array up to its closing bracket. An extra comma comes with what stands between
it and the bracket. -/
inductive Items where
  | last (before : Gap) (item : Node) (after : Gap) (extra : Option Gap)
  | more (before : Gap) (item : Node) (after : Gap) (rest : Items)

inductive Members where
  | last (key : Key) (before : Gap) (value : Node) (after : Gap) (extra : Option Gap)
  | more (key : Key) (before : Gap) (value : Node) (after : Gap) (rest : Members)

end

structure Document where
  before : Gap
  node : Node
  after : Gap
  /-- a comment that the end of the text ends -/
  ending : Option (List Char)
  oneLine : ∀ comment ∈ ending, '\n' ∉ comment

end Tree

section Lexemes

/-- Characters that both scans pass over. -/
def isSolid (c : Char) : Bool := c != '"' && c != '/' && c != ','

theorem isSolid_inNumber {c : Char} (numeric : inNumber c = true) : isSolid c = true := by
  have others (d : Char) (other : inNumber d = false) : c ≠ d := by
    rintro rfl
    simp [other] at numeric
  simp [isSolid, others '"' (by decide), others '/' (by decide), others ',' (by decide)]

theorem Number.solid (number : Number) : number.chars.all isSolid = true := by
  obtain ⟨first, more, same, -, numeric, -⟩ := readNumber_takes number.reads
  rw [List.append_nil] at same
  exact List.all_eq_true.mpr fun c member => isSolid_inNumber (numeric c (same ▸ member))

inductive Lexeme where
  | trivia (trivia : Trivia)
  | literal (literal : Literal)
  | solid (chars : List Char) (solid : chars.all isSolid = true)
  | comma
  /-- a comma that was put in before a closing bracket -/
  | extra

def between (gap : Gap) : List Lexeme := gap.map .trivia

def extraComma : Option Gap → List Lexeme
  | none => []
  | some gap => .extra :: between gap

def Key.lexemes (key : Key) : List Lexeme :=
  between key.before ++ .literal key.literal :: (between key.after ++ [.solid [':'] rfl])

mutual

def Node.lexemes : Node → List Lexeme
  | .null => [.solid ['n', 'u', 'l', 'l'] rfl]
  | .bool true => [.solid ['t', 'r', 'u', 'e'] rfl]
  | .bool false => [.solid ['f', 'a', 'l', 's', 'e'] rfl]
  | .number number => [.solid number.chars number.solid]
  | .literal literal => [.literal literal]
  | .emptyArray inside => .solid ['['] rfl :: (between inside ++ [.solid [']'] rfl])
  | .array items => .solid ['['] rfl :: items.lexemes
  | .emptyObject inside => .solid ['{'] rfl :: (between inside ++ [.solid ['}'] rfl])
  | .object members => .solid ['{'] rfl :: members.lexemes

def Items.lexemes : Items → List Lexeme
  | .last before item after extra =>
    between before ++ (item.lexemes ++ (between after ++ (extraComma extra ++ [.solid [']'] rfl])))
  | .more before item after rest =>
    between before ++ (item.lexemes ++ (between after ++ .comma :: rest.lexemes))

def Members.lexemes : Members → List Lexeme
  | .last key before value after extra =>
    key.lexemes ++ (between before ++ (value.lexemes
      ++ (between after ++ (extraComma extra ++ [.solid ['}'] rfl]))))
  | .more key before value after rest =>
    key.lexemes ++ (between before ++ (value.lexemes ++ (between after ++ .comma :: rest.lexemes)))

end

def Document.lexemes (document : Document) : List Lexeme :=
  between document.before ++ (document.node.lexemes ++ between document.after)

end Lexemes

section Texts

/-- A line comment leaves its line feed behind, which is no part of it. -/
def Trivia.text : View → Trivia → List Char
  | _, .own c _ => [c]
  | .bare, .blank _ _ => []
  | _, .blank c _ => [c]
  | .bare, .line _ _ => []
  | .decorated, .line comment _ => '/' :: '/' :: (comment ++ ['\n'])
  | _, .line _ _ => ['\n']
  | .decorated, .block comment _ => '/' :: '*' :: (comment ++ ['*', '/'])
  | _, .block _ _ => []

def Lexeme.text : View → Lexeme → List Char
  | view, .trivia part => part.text view
  | _, .literal text => '"' :: (text.body ++ ['"'])
  | _, .solid chars _ => chars
  | _, .comma => [',']
  | .decorated, .extra | .uncommented, .extra => [',']
  | _, .extra => []

def shown (view : View) (lexemes : List Lexeme) : List Char := lexemes.flatMap (Lexeme.text view)

namespace Document

def bare (document : Document) : List Char := shown .bare document.lexemes

def decorated (document : Document) : List Char :=
  shown .decorated document.lexemes
    ++ match document.ending with
      | none => []
      | some comment => '/' :: '/' :: comment

/-- The decorated text without its comments and its extra commas. -/
def cleaned (document : Document) : List Char := shown .cleaned document.lexemes

end Document

variable {view : View}

@[simp]
theorem shown_nil : shown view [] = [] := rfl

@[simp]
theorem shown_cons (lexeme : Lexeme) (rest : List Lexeme) :
    shown view (lexeme :: rest) = lexeme.text view ++ shown view rest := rfl

@[simp]
theorem shown_append (front rest : List Lexeme) :
    shown view (front ++ rest) = shown view front ++ shown view rest := List.flatMap_append

end Texts

theorem isBlank_space {c : Char} (space : isSpace c = true) : Text.isBlank c = true := by
  simp only [isSpace, Bool.or_eq_true, beq_iff_eq] at space
  rcases space with ((rfl | rfl) | rfl) | rfl <;> decide

theorem isSolid_blank {c : Char} (blank : Text.isBlank c = true) : isSolid c = true := by
  have others (d : Char) (other : Text.isBlank d = false) : c ≠ d := by
    rintro rfl
    simp [other] at blank
  simp [isSolid, others '"' (by decide), others '/' (by decide), others ',' (by decide)]

theorem Literal.enclosed (literal : Literal) : Enclosed literal.body := by
  obtain ⟨body, same, inside, -⟩ := readPieces_takes literal.reads
  rw [(List.append_inj' same rfl).1]
  exact inside

section Copies

/-- A scan that copies string literals as they are, and copies what stands between them but for
slashes and commas. -/
structure Copies (scan : CommentState → List Char → List Char) : Prop where
  solid : ∀ c rest, isSolid c = true → scan .code (c :: rest) = c :: scan .code rest
  opening : ∀ rest, scan .code ('"' :: rest) = '"' :: scan .literal rest
  inside : ∀ c rest, c ≠ '"' → c ≠ '\\' → scan .literal (c :: rest) = c :: scan .literal rest
  escape : ∀ c rest, scan .literal ('\\' :: c :: rest) = '\\' :: c :: scan .literal rest
  closing : ∀ rest, scan .literal ('"' :: rest) = '"' :: scan .code rest

variable {scan : CommentState → List Char → List Char} (copies : Copies scan) (rest : List Char)

include copies

theorem Copies.solids {chars : List Char} (solid : chars.all isSolid = true) :
    scan .code (chars ++ rest) = chars ++ scan .code rest := by
  induction chars with
  | nil => rfl
  | cons c chars ih =>
      simp only [List.all_cons, Bool.and_eq_true] at solid
      rw [List.cons_append, copies.solid c _ solid.1, ih solid.2]
      rfl

theorem Copies.body {body : List Char} (inside : Enclosed body) :
    scan .literal (body ++ '"' :: rest) = body ++ '"' :: scan .code rest := by
  induction inside with
  | nil => exact copies.closing rest
  | plain notQuote notBackslash _ ih =>
      rw [List.cons_append, copies.inside _ _ notQuote notBackslash, ih]
      rfl
  | escape _ ih =>
      rw [List.cons_append, List.cons_append, copies.escape, ih]
      rfl

theorem Copies.literal (literal : Literal) :
    scan .code ('"' :: (literal.body ++ ['"']) ++ rest)
      = '"' :: (literal.body ++ ['"']) ++ scan .code rest := by
  simp [copies.opening, copies.body rest literal.enclosed]

omit copies

theorem stripComments_copies : Copies stripCommentsFrom := by
  constructor
  case solid =>
      intro c rest solid
      simp only [isSolid, Bool.and_eq_true, bne_iff_ne] at solid
      rw [stripCommentsFrom]
      all_goals simp_all
  case inside => exact fun c rest notQuote notBackslash =>
    stripCommentsFrom.eq_4 c rest notBackslash notQuote
  case escape =>
      intro c rest
      rw [stripCommentsFrom, stripCommentsFrom]
  case opening | closing => exact fun _ => rfl

theorem stripTrailingCommas_copies : Copies stripTrailingCommasFrom := by
  constructor
  case solid =>
      intro c rest solid
      simp only [isSolid, Bool.and_eq_true, bne_iff_ne] at solid
      rw [stripTrailingCommasFrom]
      all_goals simp_all
  case inside => exact fun c rest notQuote notBackslash =>
    stripTrailingCommasFrom.eq_4 c rest notBackslash notQuote
  case escape =>
      intro c rest
      rw [stripTrailingCommasFrom, stripTrailingCommasFrom]
  case opening | closing => exact fun _ => rfl

end Copies

section Comments

variable (rest : List Char)

theorem stripComments_line {comment : List Char} (oneLine : '\n' ∉ comment) :
    stripCommentsFrom .lineComment (comment ++ rest) = stripCommentsFrom .lineComment rest := by
  induction comment with
  | nil => rfl
  | cons c comment ih =>
      simp only [List.mem_cons, not_or] at oneLine
      rw [List.cons_append, stripCommentsFrom.eq_7, ih oneLine.2]
      exact fun same => oneLine.1 same.symm

theorem stripComments_block {comment : List Char} (unclosed : ¬['*', '/'] <:+: comment) :
    stripCommentsFrom .blockComment (comment ++ '*' :: '/' :: rest) = stripComments rest := by
  induction comment with
  | nil => rfl
  | cons c comment ih =>
      have tail : ¬['*', '/'] <:+: comment := fun inside => unclosed (List.infix_cons inside)
      rw [List.cons_append, stripCommentsFrom.eq_9, ih tail]
      -- a star that ends the comment is followed by the star that closes it
      intro more star same
      cases comment with
      | nil => simp at same
      | cons d comment =>
          obtain rfl : d = '/' := (List.cons.inj same).1
          exact unclosed ⟨[], comment, by rw [star]; rfl⟩

theorem stripComments_lexeme (lexeme : Lexeme) :
    stripComments (lexeme.text .decorated ++ rest)
      = lexeme.text .uncommented ++ stripComments rest := by
  match lexeme with
  | .trivia (.own c space) =>
      exact stripComments_copies.solid c rest (isSolid_blank (isBlank_space space))
  | .trivia (.blank c blank) => exact stripComments_copies.solid c rest (isSolid_blank blank)
  | .trivia (.line comment oneLine) =>
      have opened : stripComments ((Lexeme.trivia (.line comment oneLine)).text .decorated ++ rest)
          = stripCommentsFrom .lineComment (comment ++ ['\n'] ++ rest) := rfl
      rw [opened, List.append_assoc, stripComments_line _ oneLine]
      rfl
  | .trivia (.block comment unclosed) =>
      have opened : stripComments ((Lexeme.trivia (.block comment unclosed)).text .decorated ++ rest)
          = stripCommentsFrom .blockComment (comment ++ ['*', '/'] ++ rest) := rfl
      rw [opened, List.append_assoc]
      exact stripComments_block rest unclosed
  | .literal text => exact stripComments_copies.literal rest text
  | .solid chars solid => exact stripComments_copies.solids rest solid
  | .comma | .extra => rfl

theorem stripComments_shown (lexemes : List Lexeme) :
    stripComments (shown .decorated lexemes ++ rest)
      = shown .uncommented lexemes ++ stripComments rest := by
  induction lexemes with
  | nil => rfl
  | cons lexeme lexemes ih =>
      rw [shown_cons, shown_cons, List.append_assoc, stripComments_lexeme, ih, List.append_assoc]

theorem stripComments_decorated (document : Document) :
    stripComments document.decorated = shown .uncommented document.lexemes := by
  rw [Document.decorated, stripComments_shown]
  match ending : document.ending with
  | none => exact List.append_nil _
  | some comment =>
      have gone := stripComments_line [] (document.oneLine comment ending)
      rw [List.append_nil] at gone
      exact (congrArg (_ ++ ·) gone).trans (List.append_nil _)

end Comments

section Commas

/-- The commas that a document has of its own are followed by a value or a key, those that were put
in by a closing bracket. -/
def CommasPlaced : List Lexeme → Prop
  | [] => True
  | .comma :: rest => closesNext (shown .uncommented rest) = false ∧ CommasPlaced rest
  | .extra :: rest => closesNext (shown .uncommented rest) = true ∧ CommasPlaced rest
  | _ :: rest => CommasPlaced rest

theorem stripTrailingCommas_comma (rest : List Char) :
    stripTrailingCommas (',' :: rest)
      = if closesNext rest then stripTrailingCommas rest else ',' :: stripTrailingCommas rest := rfl

theorem stripTrailingCommas_shown {lexemes : List Lexeme} (placed : CommasPlaced lexemes) :
    stripTrailingCommas (shown .uncommented lexemes) = shown .cleaned lexemes := by
  have copies := stripTrailingCommas_copies
  -- a comma is judged by the text behind it, which this scan has not touched yet
  induction lexemes with
  | nil => rfl
  | cons lexeme lexemes ih =>
      rw [shown_cons, shown_cons]
      match lexeme with
      | .trivia (.own c space) =>
          rw [← ih placed]
          exact copies.solid c _ (isSolid_blank (isBlank_space space))
      | .trivia (.blank c blank) =>
          rw [← ih placed]
          exact copies.solid c _ (isSolid_blank blank)
      | .trivia (.line comment _) =>
          rw [← ih placed]
          exact copies.solid '\n' _ rfl
      | .trivia (.block comment _) => exact ih placed
      | .literal text =>
          rw [← ih placed]
          exact copies.literal _ text
      | .solid chars solid =>
          rw [← ih placed]
          exact copies.solids _ solid
      | .comma =>
          rw [← ih placed.2]
          exact (stripTrailingCommas_comma _).trans (if_neg (by simp [placed.1]))
      | .extra =>
          rw [← ih placed.2]
          exact (stripTrailingCommas_comma _).trans (if_pos placed.1)

end Commas

section Placed

variable {rest : List Lexeme}

theorem commasPlaced_between (gap : Gap) (placed : CommasPlaced rest) :
    CommasPlaced (between gap ++ rest) := by
  induction gap with
  | nil => exact placed
  | cons trivia gap ih => exact ih

theorem closesNext_blank {c : Char} (blank : Text.isBlank c = true) (text : List Char) :
    closesNext (c :: text) = closesNext text := by
  simp [closesNext, Text.trimStart, blank]

/-- What stands between two tokens is passed over in search for a closing bracket. -/
theorem closesNext_between (gap : Gap) :
    closesNext (shown .uncommented (between gap ++ rest))
      = closesNext (shown .uncommented rest) := by
  induction gap with
  | nil => rfl
  | cons trivia gap ih =>
      rw [← ih]
      match trivia with
      | .own c space => exact closesNext_blank (isBlank_space space) _
      | .blank c blank => exact closesNext_blank blank _
      | .line comment _ => exact closesNext_blank (by decide) _
      | .block comment _ => rfl

/-- A character that a value may start with, in Unicode's sense of blanks. -/
def startsValue (c : Char) : Bool := !Text.isBlank c && c != ']' && c != '}'

theorem startsValue_number {c : Char} (number : c = '-' ∨ Text.isAsciiDigit c = true) :
    startsValue c = true := by
  rcases number with rfl | digit
  · decide
  · simp only [Text.isAsciiDigit, Bool.and_eq_true, decide_eq_true_eq, Char.le_def,
      UInt32.le_iff_toNat_le] at digit
    have within : 48 ≤ c.toNat ∧ c.toNat ≤ 57 := digit
    have others (d : Char) (other : 57 < d.toNat) : c ≠ d := by
      rintro rfl
      omega
    have solid : Text.isBlank c = false := by
      simp only [Text.isBlank, Bool.or_eq_false_iff, Bool.and_eq_false_iff, decide_eq_false_iff_not,
        beq_eq_false_iff_ne]
      omega
    simp [startsValue, solid, others ']' (by decide), others '}' (by decide)]

theorem Node.starts (view : View) (node : Node) :
    ∃ c text, shown view node.lexemes = c :: text ∧ startsValue c = true := by
  match node with
  | .number digits =>
      obtain ⟨first, more, same, starts, -⟩ := readNumber_takes digits.reads
      refine ⟨first, more, ?_, startsValue_number starts⟩
      simpa [Node.lexemes, Lexeme.text] using same
  | .null | .bool true | .bool false | .literal _ | .emptyArray _ | .array _ | .emptyObject _
  | .object _ => exact ⟨_, _, rfl, by decide⟩

theorem closesNext_node (node : Node) :
    closesNext (shown .uncommented (node.lexemes ++ rest)) = false := by
  obtain ⟨c, text, starts, value⟩ := node.starts .uncommented
  simp only [startsValue, Bool.and_eq_true, Bool.not_eq_true', bne_iff_ne] at value
  rw [shown_append, starts]
  simp [closesNext, Text.trimStart, value.1.1, value.1.2, value.2]

theorem closesNext_items (items : Items) :
    closesNext (shown .uncommented (items.lexemes ++ rest)) = false := by
  cases items with
  | last before item | more before item =>
      rw [Items.lexemes, List.append_assoc, closesNext_between, List.append_assoc]
      exact closesNext_node item

theorem closesNext_members (members : Members) :
    closesNext (shown .uncommented (members.lexemes ++ rest)) = false := by
  cases members with
  | last key | more key =>
      rw [Members.lexemes, Key.lexemes, List.append_assoc, List.append_assoc, closesNext_between]
      rfl

theorem commasPlaced_extra (extra : Option Gap) (bracket : Char)
    (solid : [bracket].all isSolid = true)
    (closes : ∀ text, closesNext (bracket :: text) = true) (placed : CommasPlaced rest) :
    CommasPlaced (extraComma extra ++ .solid [bracket] solid :: rest) := by
  cases extra with
  | none => exact placed
  | some gap =>
      refine ⟨?_, commasPlaced_between gap placed⟩
      show closesNext (shown .uncommented (between gap ++ _)) = true
      rw [closesNext_between]
      exact closes _

theorem commasPlaced_key (key : Key) (placed : CommasPlaced rest) :
    CommasPlaced (key.lexemes ++ rest) := by
  simp only [Key.lexemes, List.append_assoc, List.cons_append]
  exact commasPlaced_between key.before (commasPlaced_between key.after placed)

mutual

theorem Node.commasPlaced (node : Node) (rest : List Lexeme) (placed : CommasPlaced rest) :
    CommasPlaced (node.lexemes ++ rest) := by
  match node with
  | .null | .bool true | .bool false | .number _ | .literal _ => exact placed
  | .emptyArray inside | .emptyObject inside =>
      simp only [Node.lexemes, List.append_assoc, List.cons_append]
      exact commasPlaced_between inside placed
  | .array items => exact items.commasPlaced rest placed
  | .object members => exact members.commasPlaced rest placed

theorem Items.commasPlaced (items : Items) (rest : List Lexeme) (placed : CommasPlaced rest) :
    CommasPlaced (items.lexemes ++ rest) := by
  match items with
  | .last before item after extra =>
      simp only [Items.lexemes, List.append_assoc]
      -- an extra comma stands by the bracket, with blanks and comments between them at most
      have closing := commasPlaced_extra extra ']' rfl (fun _ => rfl) placed
      exact commasPlaced_between before
        (item.commasPlaced _ (commasPlaced_between after closing))
  | .more before item after items =>
      simp only [Items.lexemes, List.append_assoc]
      -- a comma of the text itself stands before an item, and no item begins with a closing bracket
      have comma : CommasPlaced (.comma :: (items.lexemes ++ rest)) :=
        ⟨closesNext_items items, items.commasPlaced rest placed⟩
      exact commasPlaced_between before (item.commasPlaced _ (commasPlaced_between after comma))

theorem Members.commasPlaced (members : Members) (rest : List Lexeme)
    (placed : CommasPlaced rest) : CommasPlaced (members.lexemes ++ rest) := by
  match members with
  | .last key before value after extra =>
      simp only [Members.lexemes, List.append_assoc]
      have closing := commasPlaced_extra extra '}' rfl (fun _ => rfl) placed
      exact commasPlaced_key key (commasPlaced_between before
        (value.commasPlaced _ (commasPlaced_between after closing)))
  | .more key before value after members =>
      simp only [Members.lexemes, List.append_assoc]
      have comma : CommasPlaced (.comma :: (members.lexemes ++ rest)) :=
        ⟨closesNext_members members, members.commasPlaced rest placed⟩
      exact commasPlaced_key key (commasPlaced_between before
        (value.commasPlaced _ (commasPlaced_between after comma)))

end

end Placed

theorem Document.commasPlaced (document : Document) : CommasPlaced document.lexemes := by
  have after : CommasPlaced (between document.after ++ []) :=
    commasPlaced_between document.after trivial
  rw [List.append_nil] at after
  exact commasPlaced_between document.before (document.node.commasPlaced _ after)

/-- Comments and trailing commas are taken out of a document, and nothing else is. -/
theorem plain_document (document : Document) : plain document.decorated = document.cleaned := by
  rw [plain, stripComments_decorated]
  exact stripTrailingCommas_shown document.commasPlaced

end MonorepoCheck.Json
